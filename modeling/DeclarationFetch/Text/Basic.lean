/-!
# Texts as lists of characters

Tests and cuts on texts, each stated through the list of the text's characters.
-/

namespace DeclarationFetch.Text

def startsWith (text lead : String) : Bool := lead.toList.isPrefixOf text.toList

def endsWith (text tail : String) : Bool := tail.toList.isSuffixOf text.toList

/-- The characters after the first occurrence of `find` is replaced by `put`. -/
def replaceFirstIn (find put : List Char) : List Char → List Char
  | [] => if find = [] then put else []
  | c :: rest =>
      if find.isPrefixOf (c :: rest) then put ++ (c :: rest).drop find.length
      else c :: replaceFirstIn find put rest

def replaceFirst (text find put : String) : String :=
  String.ofList (replaceFirstIn find.toList put.toList text.toList)

/-- The list without its trailing run of `c`. -/
def trimRight (c : Char) (cs : List Char) : List Char :=
  (cs.reverse.dropWhile (· = c)).reverse

/-- Every occurrence of `find` is replaced, from the left; an empty `find` occurs nowhere. -/
def replaceAllIn (find put : List Char) : Nat → List Char → List Char
  | _, [] => []
  | skip + 1, _ :: rest => replaceAllIn find put skip rest
  | 0, c :: rest =>
      if find ≠ [] ∧ find.isPrefixOf (c :: rest) = true then
        put ++ replaceAllIn find put (find.length - 1) rest
      else c :: replaceAllIn find put 0 rest

def replaceAll (text find put : String) : String :=
  String.ofList (replaceAllIn find.toList put.toList 0 text.toList)

def le (a b : String) : Bool := !(decide (b < a))

def sort (texts : List String) : List String := texts.mergeSort le

/-! ## Blanks

The white space of all scripts, which is trimmed off texts that are read as numbers. -/

/-- White space of any script. -/
def isBlank (c : Char) : Bool :=
  let n := c.toNat
  (0x09 ≤ n && n ≤ 0x0D) || n = 0x20 || n = 0x85 || n = 0xA0 || n = 0x1680 ||
    (0x2000 ≤ n && n ≤ 0x200A) || n = 0x2028 || n = 0x2029 || n = 0x202F || n = 0x205F || n = 0x3000

/-- The list without the characters of a class at its two ends. -/
def trimBy (blank : Char → Bool) (cs : List Char) : List Char :=
  ((cs.dropWhile blank).reverse.dropWhile blank).reverse

theorem isBlank_of_isWhitespace (c : Char) (h : c.isWhitespace = true) : isBlank c = true := by
  simp only [Char.isWhitespace, Bool.or_eq_true, decide_eq_true_eq] at h
  rcases h with ((rfl | rfl) | rfl) | rfl <;> decide

end DeclarationFetch.Text
