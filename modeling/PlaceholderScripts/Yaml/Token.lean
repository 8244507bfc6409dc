import PlaceholderScripts.Yaml.Mark

/-!
# Tokens of a document

The marks of structure and the scalars that a document is made of. Indentation shows as starts and
ends of blocks, and the key of a mapping is announced by a token of its own, although in the text
only the colon behind it tells that it was a key.
-/

namespace PlaceholderScripts.Yaml

inductive Style where
  | plain
  | single
  | double
  | literal
  | folded
  deriving DecidableEq, Repr

inductive TokenKind where
  | version (major minor : Nat)
  | tagDirective (handle expansion : String)
  | documentStart
  | documentEnd
  | blockSequence
  | blockMapping
  | blockEnd
  | flowSequence
  | flowSequenceEnd
  | flowMapping
  | flowMappingEnd
  | blockEntry
  | flowEntry
  | key
  | value
  | alias (name : String)
  | anchor (name : String)
  | tag (handle suffix : String)
  | scalar (text : String) (style : Style)
  deriving DecidableEq, Repr

structure Token where
  kind : TokenKind
  start : Mark
  stop : Mark
  deriving Repr

end PlaceholderScripts.Yaml
