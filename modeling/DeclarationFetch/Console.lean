import DeclarationFetch.Text.Basic

/-!
# What is printed

Lines with styled parts, and tables. The markup of a line names each style in brackets around the text
that has it. A text that is not ours is escaped, so that its brackets name no styles.
-/

namespace DeclarationFetch

inductive Style where
  | red
  | green
  | yellow
  | cyan
  | boldCyan
  | bold
  | dim
  deriving Repr, DecidableEq

def Style.name : Style → String
  | red => "red"
  | green => "green"
  | yellow => "yellow"
  | cyan => "cyan"
  | boldCyan => "bold cyan"
  | bold => "bold"
  | dim => "dim"

namespace Markup

/-! ## Escapes -/

def opensTag (c : Char) : Bool := ('a' ≤ c && c ≤ 'z') || c = '#' || c = '/' || c = '@'

/-- Whether the bracket before these characters is the start of a tag: a closing bracket comes before
another opening one. -/
def isTag : List Char → Bool
  | [] => false
  | c :: rest => opensTag c && (rest.dropWhile fun c => c ≠ '[' && c ≠ ']').head? = some ']'

/-- Escapes tags with a backslash; `slashes` counts the backslashes just before, each of which is
doubled if a tag follows. -/
def escapeFrom : Nat → List Char → List Char
  | _, [] => []
  | slashes, c :: rest =>
      if c = '\\' then c :: escapeFrom (slashes + 1) rest
      else if c = '[' && isTag rest then
        List.replicate (slashes + 1) '\\' ++ c :: escapeFrom 0 rest
      else c :: escapeFrom 0 rest

/-- A single backslash at the end is doubled too. -/
def escape (s : String) : String :=
  let cs := escapeFrom 0 s.toList
  let slashes := (cs.reverse.takeWhile (· = '\\')).length
  String.ofList (if slashes = 1 then cs ++ ['\\'] else cs)

end Markup

/-! ## Items -/

inductive Span where
  | plain (text : String)
  | styled (style : Style) (text : String)
  /-- A text in which nothing is markup. -/
  | literal (text : String)
  deriving Repr, DecidableEq

def Span.markup : Span → String
  | plain text => text
  | styled style text => s!"[{style.name}]{text}[/{style.name}]"
  | literal text => Markup.escape text

def Span.text : Span → String
  | plain text => text
  | styled _ text => text
  | literal text => text

inductive Item where
  | line (spans : List Span)
  | table (columns : List String) (rows : List (List String))
  deriving Repr, DecidableEq

namespace Item

def markup (spans : List Span) : String := String.join (spans.map Span.markup)

def padTo (width : Nat) (s : String) : String :=
  s ++ String.ofList (List.replicate (width - s.length) ' ')

/-- A row whose cells are as wide as the widest cell of their column. -/
def rowText (rows : List (List String)) (row : List String) : String :=
  let width (i : Nat) : Nat := (rows.map fun row => (row.getD i "").length).foldl max 0
  "  ".intercalate (row.mapIdx fun i cell => padTo (width i) cell)

def text : Item → String
  | line spans => String.join (spans.map Span.text)
  | table columns rows =>
      let all := columns :: rows
      "\n".intercalate (all.map (rowText all))

def note (style : Style) (text : String) : Item := line [.styled style text]

def error (message : String) : Item := line [.styled .red "Error:", .plain " ", .literal message]

end Item

end DeclarationFetch
