import AccessPolicy.Yaml.Mark

namespace AccessPolicy.Yaml

/-- What a directive says. -/
inductive Directive where
  | version (major minor : Nat)
  | handle (handle expansion : String)
  | other
deriving DecidableEq, Repr

/-- The kinds of tokens. -/
inductive Word where
  | streamStart
  | streamEnd
  | directive (d : Directive)
  | documentStart
  | documentEnd
  | blockSequenceStart
  | blockMappingStart
  | blockEnd
  | flowSequenceStart
  | flowSequenceEnd
  | flowMappingStart
  | flowMappingEnd
  | blockEntry
  | flowEntry
  | key
  | value
  | alias (name : String)
  | anchor (name : String)
  | tag (handle : Option String) (suffix : String)
  | scalar (plain : Bool) (text : String)
deriving DecidableEq, Repr

/-- A token. -/
structure Token where
  word : Word
  start : Mark
  stop : Mark
deriving DecidableEq, Repr

/-- The name of a kind of token in messages. -/
def Word.name : Word → String
  | streamStart => "<stream start>"
  | streamEnd => "<stream end>"
  | directive _ => "<directive>"
  | documentStart => "<document start>"
  | documentEnd => "<document end>"
  | blockSequenceStart => "<block sequence start>"
  | blockMappingStart => "<block mapping start>"
  | blockEnd => "<block end>"
  | flowSequenceStart => "["
  | flowSequenceEnd => "]"
  | flowMappingStart => "\x7b"
  | flowMappingEnd => "\x7d"
  | blockEntry => "-"
  | flowEntry => ","
  | key => "?"
  | value => ":"
  | .alias _ => "<alias>"
  | anchor _ => "<anchor>"
  | tag .. => "<tag>"
  | scalar .. => "<scalar>"

end AccessPolicy.Yaml
