import DeclarationFetch.Calendar
import DeclarationFetch.Double

/-!
# Values

The values of settings documents, manifests and cache entries: scalars, lists, sets and mappings. The keys
of a mapping are values themselves, since a settings document may use any scalar as a key. Two keys
are the same when they are equal texts, bytes, days, moments or numbers, and a truth value counts as the number zero
or one. The negative one of the values that are not a number is one key; it is what settings documents
write as `.nan`.
-/

namespace DeclarationFetch

inductive Value where
  | null
  | bool (b : Bool)
  | int (n : Int)
  | float (x : Double)
  | text (s : String)
  | bytes (b : List UInt8)
  | date (d : Day)
  | moment (m : Moment)
  | list (items : List Value)
  /-- A collection without order or repetition. -/
  | set (items : List Value)
  | map (entries : List (Value × Value))

namespace Value

instance : Inhabited Value := ⟨null⟩

/-! ## Numbers as keys -/

/-- The whole number that a scalar stands for when it is a key. -/
def keyNumber? : Value → Option Int
  | bool b => some (if b then 1 else 0)
  | int n => some n
  | float x => x.whole?
  | _ => none

def sameKey : Value → Value → Bool
  | null, null => true
  | text s, text t => s = t
  | bytes b, bytes c => b = c
  | date d, date e => d = e
  | moment m, moment n => m.same n
  | float x, float y => x.eq y || (x == .nan true && y == .nan true)
  | a, b =>
      match a.keyNumber?, b.keyNumber? with
      | some m, some n => m = n
      | _, _ => false

/-- Lists, sets and mappings are no keys. -/
def isKey : Value → Bool
  | list _ => false
  | set _ => false
  | map _ => false
  | _ => true

/-! ## Mappings -/

def lookup : List (Value × Value) → Value → Option Value
  | [], _ => none
  | (name, value) :: rest, key => if name.sameKey key then some value else lookup rest key

/-- A key that is present keeps its place and its spelling. -/
def put : List (Value × Value) → Value → Value → List (Value × Value)
  | [], key, value => [(key, value)]
  | (name, old) :: rest, key, value =>
      if name.sameKey key then (name, value) :: rest else (name, old) :: put rest key value

/-- Of the same keys the first gives the place and the last the value. -/
def ofEntries (entries : List (Value × Value)) : Value :=
  map (entries.foldl (fun m entry => put m entry.1 entry.2) [])

def setOfKeys (entries : List (Value × Value)) : Value :=
  match ofEntries entries with
  | map entries => set (entries.map Prod.fst)
  | value => value

def object (fields : List (String × Value)) : Value :=
  map (fields.map fun field => (text field.1, field.2))

def field? (value : Value) (name : String) : Option Value :=
  match value with
  | map entries => lookup entries (text name)
  | _ => none

/-! ## Replacing -/

mutual
/-- A value with its scalars and then its mappings replaced, from the inside out. -/
def replace (leaf : Value → Value) (wrap : List (Value × Value) → Value) : Value → Value
  | list items => list (replaceAll leaf wrap items)
  | set items => set (replaceAll leaf wrap items)
  | map entries => wrap (replaceEntries leaf wrap entries)
  | value => leaf value

def replaceAll (leaf : Value → Value) (wrap : List (Value × Value) → Value) : List Value → List Value
  | [] => []
  | item :: rest => replace leaf wrap item :: replaceAll leaf wrap rest

def replaceEntries (leaf : Value → Value) (wrap : List (Value × Value) → Value) :
    List (Value × Value) → List (Value × Value)
  | [] => []
  | (key, value) :: rest =>
      (replace leaf wrap key, replace leaf wrap value) :: replaceEntries leaf wrap rest
end

/-! ## Views -/

/-- Zero, null, false, and what holds nothing are unset. -/
def isSet : Value → Bool
  | null => false
  | bool b => b
  | int n => n ≠ 0
  | float x => !x.isZero
  | text s => s ≠ ""
  | bytes b => !b.isEmpty
  | date _ => true
  | moment _ => true
  | list items => !items.isEmpty
  | set items => !items.isEmpty
  | map entries => !entries.isEmpty

def isNull : Value → Bool
  | null => true
  | _ => false

def text? : Value → Option String
  | text s => some s
  | _ => none

def someText? : Value → Option String
  | text s => if s = "" then none else some s
  | _ => none

def kindName : Value → String
  | null => "NoneType"
  | bool _ => "bool"
  | int _ => "int"
  | float _ => "float"
  | text _ => "str"
  | bytes _ => "bytes"
  | date _ => "date"
  | moment _ => "datetime"
  | list _ => "list"
  | set _ => "set"
  | map _ => "dict"

end Value

end DeclarationFetch
