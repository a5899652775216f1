/-!
# Changes

What happened to a set of named things between two looks at it.
-/

namespace DeclarationFetch

/-- The things that are new or different at the later look, and by their names alone those that are gone. -/
def changes {α : Type} [DecidableEq α] (before after : List (String × α)) : List (String × Option α) :=
  (after.filter fun entry => before.lookup entry.1 ≠ some entry.2).map
      (fun entry => (entry.1, some entry.2)) ++
    (before.filter fun entry => (after.lookup entry.1).isNone).map fun entry => (entry.1, none)

end DeclarationFetch
