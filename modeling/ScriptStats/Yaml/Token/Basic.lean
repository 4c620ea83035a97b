import ScriptStats.Text.CodePoint

/-!
# Tokens of YAML

The marks and scalars of a text. Blocks that are told by their indentation get tokens of their own.
-/

namespace ScriptStats.Yaml

inductive Directive where
  | version (major minor : Nat)
  | tag (handle replacement : String)
  | other
  deriving DecidableEq, Repr

inductive Token where
  | directive (directive : Directive)
  | documentStart
  | documentEnd
  | streamEnd
  | blockSequenceStart
  | blockMappingStart
  | blockEnd
  | flowSequenceStart
  | flowSequenceEnd
  | flowMappingStart
  | flowMappingEnd
  | blockEntry
  | flowEntry
  | key
  | value
  | alias (name : String)
  | anchor (name : String)
  | tag (handle : Option String) (suffix : String)
  | scalar (text : RawText) (plain : Bool)
  deriving DecidableEq, Repr

end ScriptStats.Yaml
