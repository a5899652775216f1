/-!
# Validation problems

What is wrong with a value that does not have the shape asked of it: where, and in which way.
-/

namespace DeclarationFetch

inductive ProblemKind where
  | modelType
  | modelAttributesType
  | missing
  | extraForbidden
  | noSuchAttribute
  | invalidKey
  | unionTagNotFound
  | unionTagInvalid
  | stringType
  | stringTooShort
  | stringUnicode
  | boolType
  | boolParsing
  | intType
  | intParsing
  | intParsingSize
  | intFromFloat
  | finiteNumber
  | floatType
  | floatParsing
  | dictType
  | callableType
  deriving Repr, DecidableEq

def ProblemKind.code : ProblemKind → String
  | modelType => "model_type"
  | modelAttributesType => "model_attributes_type"
  | missing => "missing"
  | extraForbidden => "extra_forbidden"
  | noSuchAttribute => "no_such_attribute"
  | invalidKey => "invalid_key"
  | unionTagNotFound => "union_tag_not_found"
  | unionTagInvalid => "union_tag_invalid"
  | stringType => "string_type"
  | stringTooShort => "string_too_short"
  | stringUnicode => "string_unicode"
  | boolType => "bool_type"
  | boolParsing => "bool_parsing"
  | intType => "int_type"
  | intParsing => "int_parsing"
  | intParsingSize => "int_parsing_size"
  | intFromFloat => "int_from_float"
  | finiteNumber => "finite_number"
  | floatType => "float_type"
  | floatParsing => "float_parsing"
  | dictType => "dict_type"
  | callableType => "callable_type"

structure Problem where
  /-- The names on the way to the faulty part. -/
  loc : List String
  kind : ProblemKind
  deriving Repr, DecidableEq

structure Invalid where
  /-- What the value was to be. -/
  title : String
  problems : List Problem
  deriving Repr, DecidableEq

/-- The results if there is no problem, else all the problems. -/
def Problem.both {α β : Type} (a : Except (List Problem) α) (b : Except (List Problem) β) :
    Except (List Problem) (α × β) :=
  match a, b with
  | .ok x, .ok y => .ok (x, y)
  | .error p, .ok _ => .error p
  | .ok _, .error q => .error q
  | .error p, .error q => .error (p ++ q)

end DeclarationFetch
