/-!
# Ordered maps

A finite map from texts that remembers the order in which its keys first appeared. Writing to a key
that is present keeps its place. Lookup after a write and after an erasure is given by
`get?_insert` and `get?_erase`.
-/

namespace DeclarationFetch

/-- Entries in the order in which their keys were first written. -/
structure Assoc (α : Type) where
  entries : List (String × α) := []

namespace Assoc

variable {α β : Type}

instance : Inhabited (Assoc α) := ⟨{}⟩

def empty : Assoc α := {}

/-! ## Reading -/

def find : List (String × α) → String → Option α
  | [], _ => none
  | (name, value) :: rest, key => if name = key then some value else find rest key

def get? (m : Assoc α) (key : String) : Option α := find m.entries key

def contains (m : Assoc α) (key : String) : Bool := (m.get? key).isSome

def keys (m : Assoc α) : List String := m.entries.map Prod.fst

def size (m : Assoc α) : Nat := m.entries.length

def isEmpty (m : Assoc α) : Bool := m.entries.isEmpty

theorem eq_empty_of_isEmpty {m : Assoc α} (h : m.isEmpty = true) : m = {} :=
  congrArg mk (List.isEmpty_iff.mp h)

/-! ## Writing -/

def put : List (String × α) → String → α → List (String × α)
  | [], key, value => [(key, value)]
  | (name, old) :: rest, key, value =>
      if name = key then (name, value) :: rest else (name, old) :: put rest key value

def insert (m : Assoc α) (key : String) (value : α) : Assoc α := ⟨put m.entries key value⟩

def erase (m : Assoc α) (key : String) : Assoc α :=
  ⟨m.entries.filter fun entry => entry.1 ≠ key⟩

/-- Of equal keys the first gives the place and the last the value. -/
def ofList (entries : List (String × α)) : Assoc α :=
  entries.foldl (fun m entry => m.insert entry.1 entry.2) {}

def map (f : α → β) (m : Assoc α) : Assoc β :=
  ⟨m.entries.map fun entry => (entry.1, f entry.2)⟩

/-! ## Lookup laws -/

theorem find_put (entries : List (String × α)) (key other : String) (value : α) :
    find (put entries key value) other = if key = other then some value else find entries other := by
  induction entries with
  | nil => simp [put, find]
  | cons entry rest ih =>
      obtain ⟨name, old⟩ := entry
      by_cases h : name = key
      · subst h
        by_cases ho : name = other <;> simp [put, find, ho]
      · by_cases ho : name = other
        · subst ho
          simp [put, find, h, Ne.symm h]
        · simp [put, find, h, ho, ih]

@[simp] theorem get?_empty (key : String) : (empty : Assoc α).get? key = none := rfl

theorem get?_insert (m : Assoc α) (key other : String) (value : α) :
    (m.insert key value).get? other = if key = other then some value else m.get? other :=
  find_put m.entries key other value

@[simp] theorem get?_insert_self (m : Assoc α) (key : String) (value : α) :
    (m.insert key value).get? key = some value := by
  simp [get?_insert]

theorem find_filter (entries : List (String × α)) (key other : String) :
    find (entries.filter fun entry => entry.1 ≠ key) other =
      if key = other then none else find entries other := by
  induction entries with
  | nil => simp [find]
  | cons entry rest ih =>
      obtain ⟨name, old⟩ := entry
      by_cases h : name = key
      · subst h
        by_cases ho : name = other
        · simpa [ho] using ih
        · simpa [find, ho] using ih
      · by_cases ho : name = other
        · subst ho
          simp [find, h, Ne.symm h]
        · simpa [find, h, ho] using ih

theorem get?_erase (m : Assoc α) (key other : String) :
    (m.erase key).get? other = if key = other then none else m.get? other :=
  find_filter m.entries key other

end Assoc

end DeclarationFetch
