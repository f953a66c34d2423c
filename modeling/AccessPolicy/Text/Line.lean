namespace AccessPolicy.Text

/-- A line with its end, which only the last line may lack. -/
abbrev Line := List Char

/-- Cuts behind each line feed, with the start of the current line in reverse. -/
def linesFrom (start : List Char) : List Char → List Line
  | [] => if start.isEmpty then [] else [start.reverse]
  | '\n' :: rest => ('\n' :: start).reverse :: linesFrom [] rest
  | c :: rest => linesFrom (c :: start) rest

/-- The lines of a text. They end with a line feed and nothing else. -/
def lines (text : List Char) : List Line := linesFrom [] text

/-- The text with a line feed for each carriage return, and for one with the line feed behind it. -/
def foldReturns : List Char → List Char
  | [] => []
  | '\r' :: '\n' :: rest => '\n' :: foldReturns rest
  | '\r' :: rest => '\n' :: foldReturns rest
  | c :: rest => c :: foldReturns rest

/-- The parts of a text between the places where a mark stands; there is one more of them than marks. -/
def splitAt (mark : Char) : List Char → List (List Char)
  | [] => [[]]
  | c :: rest =>
    let parts := splitAt mark rest
    if c == mark then [] :: parts else (c :: parts.headD []) :: parts.drop 1

end AccessPolicy.Text
