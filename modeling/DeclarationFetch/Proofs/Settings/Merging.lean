import DeclarationFetch.Proofs.Settings.Keys
import DeclarationFetch.Settings.Merge
import Mathlib.Data.List.Forall2
import Mathlib.Data.List.Induction

/-! # What merged settings hold

What the layers have along a path of keys decides alone what their merge holds there.

* `at?`, `Touches`: what a value holds at a path, and whether it says anything about the path.
* `at?_mergeValue`: what a merge of two values holds at a path.
* `at?_merged`: what a merge of layers holds, as a fold over what each has at the path.
* `at?_merged_eq_some_iff`: the last layer that touches a path decides which value is held there.
* `mergeEntries_again`: a layer that is merged once more changes nothing.
-/

namespace DeclarationFetch

namespace Value

/-! ## Paths of keys -/

def at? : Value → List Value → Option Value
  | value, [] => some value
  | map entries, key :: rest =>
      match lookup entries key with
      | some held => held.at? rest
      | none => none
  | _, _ :: _ => none

/-- Whether a value has something at a path, or something that is no mapping where the path goes through. -/
def reaches : Value → List Value → Bool
  | _, [] => true
  | map entries, key :: rest =>
      match lookup entries key with
      | some held => held.reaches rest
      | none => false
  | _, _ :: _ => true

/-- Whether a mapping says anything about a path: it holds a value there, or a value that is no mapping at
a part of the path that is neither empty nor all of it. -/
def Touches (value : Value) (path : List Value) : Prop :=
  (value.at? path).isSome ∨ ∃ front back, path = front ++ back ∧ front ≠ [] ∧ back ≠ [] ∧
    ∃ held, value.at? front = some held ∧ held.isMapping = false

/-- A value; of a mapping only that it is one. -/
def surface : Value → Value
  | map _ => map []
  | value => value

variable {value held : Value} {entries : List (Value × Value)} {key : Value} {path rest : List Value}

theorem at?_nil : value.at? [] = some value := by rw [at?]

theorem at?_map_cons : (map entries).at? (key :: rest) = (lookup entries key).bind (·.at? rest) := by
  rw [at?]
  cases lookup entries key <;> rfl

theorem at?_map_singleton : (map entries).at? [key] = lookup entries key := by
  simp only [at?_map_cons, at?_nil, Option.bind_fun_some]

theorem at?_cons : value.at? (key :: rest) = (value.at? [key]).bind (·.at? rest) := by
  cases value with
  | map entries => rw [at?_map_singleton, at?_map_cons]
  | _ => rfl

theorem at?_cons_of_leaf (h : value.isMapping = false) : value.at? (key :: rest) = none := by
  cases value with
  | map => cases h
  | _ => rfl

theorem reaches_nil : value.reaches [] = true := by rw [reaches]

theorem reaches_map_cons :
    (map entries).reaches (key :: rest) = (lookup entries key).any (·.reaches rest) := by
  rw [reaches]
  cases lookup entries key <;> rfl

theorem reaches_cons_of_leaf (h : value.isMapping = false) : value.reaches (key :: rest) = true := by
  cases value with
  | map => cases h
  | _ => rfl

theorem reaches_append {front back : List Value} (h : value.at? front = some held) :
    value.reaches (front ++ back) = held.reaches back := by
  induction front generalizing value with
  | nil =>
    obtain rfl := Option.some.inj (at?_nil.symm.trans h)
    rfl
  | cons key rest ih =>
    cases value with
    | map entries =>
      rw [at?_map_cons, Option.bind_eq_some_iff] at h
      obtain ⟨next, hnext, hheld⟩ := h
      rw [List.cons_append, reaches_map_cons, hnext, Option.any_some, ih hheld]
    | _ => exact nomatch (at?_cons_of_leaf rfl).symm.trans h

theorem reaches_of_at? (h : value.at? path = some held) : value.reaches path = true := by
  have hreaches : value.reaches (path ++ []) = held.reaches [] := reaches_append h
  rwa [List.append_nil, reaches_nil] at hreaches

theorem reaches_of_leaf {front back : List Value} (h : value.at? front = some held)
    (hleaf : held.isMapping = false) : value.reaches (front ++ back) = true := by
  rw [reaches_append h]
  cases back with
  | nil => exact reaches_nil
  | cons => exact reaches_cons_of_leaf hleaf

/-- A path that a value reaches is held, or ends behind something that is no mapping. -/
theorem cases_of_reaches (h : value.reaches path = true) : (value.at? path).isSome ∨
    ∃ front back, path = front ++ back ∧ back ≠ [] ∧
      ∃ held, value.at? front = some held ∧ held.isMapping = false := by
  induction path generalizing value with
  | nil => exact .inl (at?_nil ▸ rfl)
  | cons key rest ih =>
    cases hleaf : value.isMapping with
    | false => exact .inr ⟨[], key :: rest, rfl, List.cons_ne_nil _ _, value, at?_nil, hleaf⟩
    | true =>
      cases value with
      | map entries =>
        rw [reaches_map_cons, Option.any_eq_true] at h
        obtain ⟨next, hnext, hreaches⟩ := h
        simp only [at?_map_cons, hnext, Option.bind_some]
        rcases ih hreaches with hheld | ⟨front, back, rfl, hback, held, hheld, hleaf⟩
        · exact .inl hheld
        · refine .inr ⟨key :: front, back, rfl, hback, held, ?_, hleaf⟩
          rwa [at?_map_cons, hnext]
      | _ => cases hleaf

theorem touches_iff : (map entries).Touches path ↔ (map entries).reaches path = true := by
  constructor
  · rintro (h | ⟨front, back, rfl, -, -, held, hheld, hleaf⟩)
    · exact reaches_of_at? (Option.some_get h).symm
    · exact reaches_of_leaf hheld hleaf
  · intro h
    rcases cases_of_reaches h with hheld | ⟨front, back, heq, hback, held, hheld, hleaf⟩
    · exact .inl hheld
    · refine .inr ⟨front, back, heq, fun hempty => ?_, hback, held, hheld, hleaf⟩
      rw [hempty, at?_nil, Option.some_inj] at hheld
      exact Bool.noConfusion (hheld ▸ hleaf : (map entries).isMapping = false)

end Value

namespace Settings

open Value

variable {later v key : Value} {entries more : List (Value × Value)} {path : List Value}

/-! ## Merging two -/

theorem mergeValue_of_leaf (h : later.isMapping = false) (earlier : Option Value) :
    mergeValue earlier later = later := by
  cases later with
  | map => cases h
  | _ => rfl

theorem mergeValue_maps :
    mergeValue (some (.map entries)) (.map more) = .map (mergeEntries entries more) := by
  rw [mergeValue]

theorem mergeValue_over_leaf {earlier : Option Value} (h : ∀ value ∈ earlier, value.isMapping = false) :
    mergeValue earlier later = later := by
  cases later with
  | map =>
    unfold mergeValue
    split
    · exact Bool.noConfusion (h _ rfl)
    · rfl
  | _ => rfl

theorem mergeValue_none : mergeValue none later = later :=
  mergeValue_over_leaf fun _ h => nomatch Option.mem_def.mp h

theorem mapping_or_leaf (earlier : Option Value) :
    (∃ entries, earlier = some (.map entries)) ∨ ∀ value ∈ earlier, value.isMapping = false := by
  cases earlier with
  | none => exact .inr fun _ h => nomatch Option.mem_def.mp h
  | some value =>
    cases value with
    | map entries => exact .inl ⟨entries, rfl⟩
    | _ => exact .inr fun _ h => Option.some.inj (Option.mem_def.mp h) ▸ rfl

theorem isMapping_mergeValue {earlier : Option Value} :
    (mergeValue earlier later).isMapping = later.isMapping := by
  cases later with
  | map =>
    unfold mergeValue
    split <;> rfl
  | _ => rfl

theorem surface_mergeValue {earlier : Option Value} : (mergeValue earlier later).surface = later.surface := by
  cases later with
  | map =>
    unfold mergeValue
    split <;> rfl
  | _ => rfl

theorem lookup_mergeEntries (h : Distinct (more.map Prod.fst)) :
    lookup (mergeEntries entries more) key =
      match lookup more key with
      | some value => some (mergeValue (lookup entries key) value)
      | none => lookup entries key := by
  induction more generalizing entries with
  | nil => rw [mergeEntries, lookup]
  | cons entry rest ih =>
    obtain ⟨name, value⟩ := entry
    obtain ⟨hname, hrest⟩ := List.pairwise_cons.mp h
    rw [mergeEntries, ih hrest, lookup_put, lookup]
    -- keys are apart, so what the first entry has put stays under its key
    by_cases hsame : name.sameKey key = true
    · have hnone : lookup rest key = none :=
        lookup_eq_none_iff.mpr fun other hother => Bool.eq_false_iff.mpr fun hkey =>
          Bool.eq_false_iff.mp (hname other hother) ((sameKey_congr hkey name).trans hsame)
      rw [hnone, if_pos hsame, if_pos hsame, lookup_congr hsame]
    · rw [if_neg hsame, if_neg hsame]

theorem at?_mergeValue_cons {earlier : Option Value} {rest : List Value}
    (h : Distinct (more.map Prod.fst)) :
    (mergeValue earlier (.map more)).at? (key :: rest) =
      match lookup more key with
      | some value => (mergeValue (earlier.bind (·.at? [key])) value).at? rest
      | none => earlier.bind (·.at? (key :: rest)) := by
  rcases mapping_or_leaf earlier with ⟨entries, rfl⟩ | hleaf
  · simp only [mergeValue_maps, at?_map_cons, lookup_mergeEntries h, Option.bind_some, at?_nil,
      Option.bind_fun_some]
    cases lookup more key <;> rfl
  · have hnone (path : List Value) : earlier.bind (·.at? (key :: path)) = none :=
      Option.bind_eq_none_iff.mpr fun value hvalue => at?_cons_of_leaf (hleaf value hvalue)
    rw [mergeValue_over_leaf hleaf, at?_map_cons, hnone, hnone]
    cases lookup more key with
    | none => rfl
    | some value => exact congrArg (·.at? rest) mergeValue_none.symm

/-- What a merge holds at a path is told by what the two have along it. -/
theorem at?_mergeValue {earlier : Option Value} (h : Keyed Distinct later) :
    (mergeValue earlier later).at? path =
      if later.reaches path = true then (later.at? path).map (mergeValue (earlier.bind (·.at? path)))
      else earlier.bind (·.at? path) := by
  induction path generalizing earlier later with
  | nil => simp only [at?_nil, reaches_nil, if_true, Option.map_some, Option.bind_fun_some]
  | cons key rest ih =>
    cases h with
    | leaf hleaf =>
      rw [mergeValue_of_leaf hleaf, at?_cons_of_leaf hleaf, reaches_cons_of_leaf hleaf, if_pos rfl,
        Option.map_none]
    | map hkeys hnested =>
      rw [at?_mergeValue_cons hkeys, reaches_map_cons, at?_map_cons]
      cases hheld : lookup _ key with
      | none => rfl
      | some value =>
        obtain ⟨name, hmem, -⟩ := exists_mem_of_lookup hheld
        simp only [Option.any_some, Option.bind_some, ih (hnested _ hmem), Option.bind_assoc, ← at?_cons]

/-! ## Merging once more -/

theorem mergeEntries_eq_self
    (h : ∀ entry ∈ more, ∃ held, lookup entries entry.1 = some held ∧
      mergeValue (some held) entry.2 = held) :
    mergeEntries entries more = entries := by
  induction more with
  | nil => rw [mergeEntries]
  | cons entry rest ih =>
    obtain ⟨⟨held, hheld, hmerge⟩, hrest⟩ := List.forall_mem_cons.mp h
    rw [mergeEntries, hheld, hmerge, put_eq_self hheld, ih hrest]

theorem mergeValue_again (hdistinct : Keyed Distinct later) (hfindable : Keyed Findable later)
    (earlier : Option Value) :
    mergeValue (some (mergeValue earlier later)) later = mergeValue earlier later := by
  induction hdistinct generalizing earlier with
  | leaf hleaf => rw [mergeValue_of_leaf hleaf, mergeValue_of_leaf hleaf]
  | @map entries hkeys _ ih =>
    obtain ⟨hself, hfindable⟩ := hfindable.of_map
    have hown (entry) (hmem : entry ∈ entries) : lookup entries entry.1 = some entry.2 :=
      lookup_of_mem hkeys hmem (hself entry.1 (List.mem_map_of_mem hmem))
    -- over a leaf there is nothing to merge into, and the entries stand as they are
    rcases mapping_or_leaf earlier with ⟨held, rfl⟩ | hleaf
    · rw [mergeValue_maps, mergeValue_maps]
      refine congrArg _ (mergeEntries_eq_self fun entry hmem =>
        ⟨mergeValue (lookup held entry.1) entry.2, ?_, ih entry hmem (hfindable entry hmem) _⟩)
      rw [lookup_mergeEntries hkeys, hown entry hmem]
    · rw [mergeValue_over_leaf hleaf, mergeValue_maps]
      refine congrArg _ (mergeEntries_eq_self fun entry hmem => ⟨_, hown entry hmem, ?_⟩)
      have hagain := ih entry hmem (hfindable entry hmem) none
      rwa [mergeValue_none] at hagain

/-- A layer that is merged once more changes nothing. -/
theorem mergeEntries_again (hdistinct : Keyed Distinct (.map more)) (hfindable : Keyed Findable (.map more)) :
    mergeEntries (mergeEntries entries more) more = mergeEntries entries more := by
  have hagain := mergeValue_again hdistinct hfindable (some (.map entries))
  rw [mergeValue_maps, mergeValue_maps] at hagain
  exact Value.map.inj hagain

/-- Also where keys are not found again, the same is held at every path. -/
theorem at?_mergeEntries_again (h : Keyed Distinct (.map more)) :
    ((Value.map (mergeEntries (mergeEntries entries more) more)).at? path).map surface =
      ((Value.map (mergeEntries entries more)).at? path).map surface := by
  rw [← mergeValue_maps, at?_mergeValue h]
  split
  · next hreaches =>
    rw [← mergeValue_maps, at?_mergeValue h, if_pos hreaches]
    cases (Value.map more).at? path with
    | none => rfl
    | some held => exact congrArg some (surface_mergeValue.trans surface_mergeValue.symm)
  · rw [Option.bind_some]

/-! ## Layers -/

/-- The entries of a mapping of settings, in which no key stands twice at any depth. -/
structure Layer where
  entries : List (Value × Value)
  distinct : Keyed Distinct (.map entries)

namespace Layer

def value (layer : Layer) : Value := .map layer.entries

theorem touches_iff (layer : Layer) : layer.value.Touches path ↔ layer.value.reaches path = true :=
  Value.touches_iff

end Layer

/-- All layers, the later over the earlier, as one value. -/
def merged (layers : List Layer) : Value := .map (mergeAll (layers.map Layer.entries))

variable {layers layers' : List Layer} {layer : Layer}

theorem merged_concat : merged (layers ++ [layer]) = mergeValue (some (merged layers)) layer.value := by
  rw [merged, mergeAll, List.map_append, List.foldl_append, Layer.value, merged, mergeValue_maps, mergeAll]
  rfl

theorem at?_merged_nil : (merged []).at? path ≠ some v ∨ v.isMapping = true := by
  cases path with
  | nil =>
    by_cases h : (merged []).at? [] = some v
    · exact .inr (Option.some.inj (at?_nil.symm.trans h) ▸ rfl)
    · exact .inl h
  | cons key rest => exact .inl nofun

/-- What is held at a path once a layer goes over what was held there. -/
def layered (path : List Value) (held : Option Value) (layer : Layer) : Option Value :=
  if layer.value.reaches path = true then (layer.value.at? path).map (mergeValue held) else held

theorem at?_merged_concat :
    (merged (layers ++ [layer])).at? path = layered path ((merged layers).at? path) layer := by
  have hdistinct : Keyed Distinct layer.value := layer.distinct
  rw [merged_concat, at?_mergeValue hdistinct, Option.bind_some, layered]

/-- A merge of layers, path by path: each goes over what the ones before it have at the path. -/
theorem at?_merged : (merged layers).at? path = layers.foldl (layered path) ((merged []).at? path) := by
  induction layers using List.reverseRecOn with
  | nil => rfl
  | append_singleton layers layer ih =>
    rw [at?_merged_concat, ih, List.foldl_append, List.foldl_cons, List.foldl_nil]

/-! ## Precedence -/

theorem layered_eq_some_iff {held : Option Value} (hleaf : v.isMapping = false) :
    layered path held layer = some v ↔
      (layer.value.Touches path ∧ layer.value.at? path = some v) ∨
        (¬ layer.value.Touches path ∧ held = some v) := by
  rw [layered, layer.touches_iff]
  by_cases hreaches : layer.value.reaches path = true
  · simp only [hreaches, if_true, not_true, true_and, false_and, or_false, Option.map_eq_some_iff]
    constructor
    · rintro ⟨value, hvalue, rfl⟩
      rw [isMapping_mergeValue] at hleaf
      rwa [mergeValue_of_leaf hleaf]
    · exact fun h => ⟨v, h, mergeValue_of_leaf hleaf _⟩
  · rw [if_neg hreaches]
    exact ⟨fun h => .inr ⟨hreaches, h⟩, fun h => h.elim (fun h => absurd h.1 hreaches) And.right⟩

/-- The last layer that touches a path holds this at it. -/
def LastHolds (layers : List Layer) (path : List Value) (v : Value) : Prop :=
  ∃ before layer after, layers = before ++ layer :: after ∧ layer.value.Touches path ∧
    (∀ later ∈ after, ¬ later.value.Touches path) ∧ layer.value.at? path = some v

theorem lastHolds_concat_iff : LastHolds (layers ++ [layer]) path v ↔
    (layer.value.Touches path ∧ layer.value.at? path = some v) ∨
      (¬ layer.value.Touches path ∧ LastHolds layers path v) := by
  constructor
  · rintro ⟨before, found, after, heq, htouches, hafter, hheld⟩
    rcases List.eq_nil_or_concat after with rfl | ⟨after, last, rfl⟩
    · obtain ⟨-, hlast⟩ := List.append_inj' heq rfl
      obtain rfl := (List.cons.inj hlast).1
      exact .inl ⟨htouches, hheld⟩
    · rw [List.concat_eq_append] at heq hafter
      rw [← List.cons_append, ← List.append_assoc] at heq
      obtain ⟨rfl, hlast⟩ := List.append_inj' heq rfl
      obtain rfl := (List.cons.inj hlast).1
      have hnot := hafter layer (List.mem_append_right _ (List.mem_singleton_self layer))
      exact .inr ⟨hnot, before, found, after, rfl, htouches,
        fun later hmem => hafter later (List.mem_append_left _ hmem), hheld⟩
  · rintro (⟨htouches, hheld⟩ | ⟨hnot, before, found, after, rfl, htouches, hafter, hheld⟩)
    · exact ⟨layers, layer, [], rfl, htouches, nofun, hheld⟩
    · refine ⟨before, found, after ++ [layer], by simp, htouches, fun later hmem => ?_, hheld⟩
      rcases List.mem_append.mp hmem with hmem | hmem
      · exact hafter later hmem
      · exact List.mem_singleton.mp hmem ▸ hnot

theorem at?_merged_eq_some_iff (hleaf : v.isMapping = false) :
    (merged layers).at? path = some v ↔ LastHolds layers path v := by
  induction layers using List.reverseRecOn with
  | nil =>
    refine ⟨fun h => ?_, fun ⟨before, layer, after, heq, _⟩ => absurd heq (by simp)⟩
    rcases at?_merged_nil with hne | hmapping
    · exact absurd h hne
    · exact Bool.noConfusion (hleaf.symm.trans hmapping)
  | append_singleton layers layer ih =>
    rw [at?_merged_concat, layered_eq_some_iff hleaf, lastHolds_concat_iff, ih]

/-! ## Independence -/

/-- Whether two layers have the same at a path, or neither says anything about it. -/
def AgreeAt (path : List Value) (layer layer' : Layer) : Prop :=
  layer.value.at? path = layer'.value.at? path ∧
    (layer.value.Touches path ↔ layer'.value.Touches path)

theorem layered_congr {held : Option Value} {layer layer' : Layer} (h : AgreeAt path layer layer') :
    layered path held layer = layered path held layer' := by
  obtain ⟨hheld, htouches⟩ := h
  rw [layer.touches_iff, layer'.touches_iff, ← Bool.eq_iff_iff] at htouches
  rw [layered, layered, hheld, htouches]

theorem at?_merged_congr (h : List.Forall₂ (AgreeAt path) layers layers') :
    (merged layers).at? path = (merged layers').at? path := by
  rw [at?_merged, @at?_merged _ layers']
  generalize (merged []).at? path = held
  induction h generalizing held with
  | nil => rfl
  | cons hfirst _ ih => rw [List.foldl_cons, List.foldl_cons, layered_congr hfirst, ih]

theorem agreeAt_of_lookup {layer layer' : Layer}
    (h : lookup layer.entries key = lookup layer'.entries key) : AgreeAt [key] layer layer' := by
  constructor
  · rw [Layer.value, Layer.value, at?_map_singleton, at?_map_singleton, h]
  · rw [layer.touches_iff, layer'.touches_iff, Layer.value, Layer.value, reaches_map_cons,
      reaches_map_cons, h]

/-- What layers come to under a key depends on nothing that they have under other keys. -/
theorem lookup_mergeAll_congr
    (h : List.Forall₂ (fun layer layer' => lookup layer.entries key = lookup layer'.entries key)
      layers layers') :
    lookup (mergeAll (layers.map Layer.entries)) key = lookup (mergeAll (layers'.map Layer.entries)) key := by
  rw [← at?_map_singleton, ← at?_map_singleton]
  exact at?_merged_congr (h.imp fun _ _ => agreeAt_of_lookup)

end Settings

end DeclarationFetch
