import DeclarationFetch.Yaml.Cursor

/-!
# Tokens

What a YAML text is made of. The indentation of block collections shows in tokens that open and close
them.
-/

namespace DeclarationFetch.Yaml

/-- Names that start with `!`, which tags may start with. -/
abbrev TagHandle := String

inductive Directive where
  | version (major : Nat)
  | tags (handle : TagHandle) (lead : String)
  | other
  deriving Repr, DecidableEq

inductive Token where
  | directive (d : Directive)
  | documentStart
  | documentEnd
  | blockSequence
  | blockMapping
  | blockEnd
  | flowSequence
  | flowSequenceEnd
  | flowMapping
  | flowMappingEnd
  | blockEntry
  | flowEntry
  | key
  | value
  | anchor (name : String)
  | reference (name : String)
  | tag (handle : Option TagHandle) (suffix : String)
  /-- Plain is a scalar that has neither quotes nor a block indicator. -/
  | scalar (plain : Bool) (text : String)
  deriving Repr, DecidableEq

/-- The tokens at the start of a text, and the fault that ends them, if there is one. -/
structure Scan where
  tokens : List Token
  fault : Option Fault := none

end DeclarationFetch.Yaml
