import DeclarationFetch.Value

/-!
# Merging settings

The entries of a later mapping go over those of an earlier one. Where both hold a mapping under one
key the two are merged in turn; else the later value stands.
-/

namespace DeclarationFetch.Settings

mutual
/-- The entries of a mapping with later ones over them. -/
def mergeEntries (earlier : List (Value × Value)) : List (Value × Value) → List (Value × Value)
  | [] => earlier
  | (key, value) :: rest =>
      mergeEntries (Value.put earlier key (mergeValue (Value.lookup earlier key) value)) rest

def mergeValue (earlier : Option Value) : Value → Value
  | .map entries =>
      match earlier with
      | some (.map held) => .map (mergeEntries held entries)
      | _ => .map entries
  | later => later
end

def mergeAll (layers : List (List (Value × Value))) : List (Value × Value) :=
  layers.foldl mergeEntries []

end DeclarationFetch.Settings
