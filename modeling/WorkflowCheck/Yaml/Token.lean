import WorkflowCheck.Text.Utf8
import WorkflowCheck.Yaml.Mark

/-! Tokens of a YAML text. Besides those that are written there are those that only indentation
shows: the start of a block collection and its end, and the key of a mapping without `?`. -/

namespace WorkflowCheck.Yaml

inductive TokenKind where
  | streamStart
  | streamEnd
  | version (major minor : Nat)
  | tagDirective (handle : String) (start : Bytes)
  | documentStart
  | documentEnd
  | blockSequenceStart
  | blockMappingStart
  | blockEnd
  | flowSequenceStart
  | flowSequenceEnd
  | flowMappingStart
  | flowMappingEnd
  | blockEntry
  | flowEntry
  | key
  | value
  | alias (name : String)
  | anchor (name : String)
  | tag (handle : String) (rest : Bytes)
  | scalar (text : String) (isPlain : Bool)
  deriving DecidableEq, Repr, Inhabited

structure Token where
  kind : TokenKind
  mark : Mark
  deriving DecidableEq, Repr, Inhabited

end WorkflowCheck.Yaml
