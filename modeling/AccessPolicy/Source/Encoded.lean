import AccessPolicy.Text.Line
import AccessPolicy.Text.Utf8

namespace AccessPolicy.Source

open Text (Line Utf8Fault)

/-- The number of bytes in a block. -/
def blockSize : Nat := 8192

/-- The bytes in blocks of the given size, the last of which may be shorter. -/
def blocks (size : Nat) (bytes : List UInt8) : List (List UInt8) :=
  match size with
  | 0 => [bytes]
  | n + 1 => (List.range ((bytes.length + n) / (n + 1))).map fun i => (bytes.drop (i * (n + 1))).take (n + 1)

/-- Reads blocks after what has been read so far and the bytes that await the rest of their character. A block that is not
UTF-8 is read not at all. The place of a fault is counted from the first of these bytes. -/
def readBlocks (read : List Char) (waiting : List UInt8) :
    List (List UInt8) → List Char × Option Utf8Fault
  | [] =>
    match Text.decode waiting with
    | .ok chars => (read ++ chars, none)
    | .error fault => (read, some fault)
  | block :: rest =>
    match Text.decodePart (waiting ++ block) with
    | .ok (chars, waiting) => readBlocks (read ++ chars) waiting rest
    | .error fault => (read, some fault)

/-- Lines that can be read, and the fault behind them. -/
structure Feed where
  lines : List Line
  fault : Option Utf8Fault
deriving DecidableEq, Repr

/-- A text as lines to read. -/
def Feed.ofText (text : List Char) : Feed := ⟨Text.lines text, none⟩

/-- Whether a line is complete. -/
def isComplete (line : Line) : Bool := line.getLast? == some '\n'

/-- Text without a carriage return at its end, behind which a line feed may follow. -/
def withoutLastReturn (text : List Char) : List Char :=
  if text.getLast? == some '\r' then text.dropLast else text

/-- A file as lines to read. Before a fault, only lines that are complete count. -/
def Feed.ofBytes (bytes : List UInt8) : Feed :=
  match readBlocks [] [] (blocks blockSize bytes) with
  | (text, none) => ⟨Text.lines (Text.foldReturns text), none⟩
  | (text, some fault) =>
    ⟨(Text.lines (Text.foldReturns (withoutLastReturn text))).filter isComplete, some fault⟩

end AccessPolicy.Source
