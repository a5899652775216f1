import DeclarationFetch.Proofs.Outcome
import DeclarationFetch.Proofs.Settings.Merging
import DeclarationFetch.Settings.Load

/-! # Which settings win

A settings text names no key twice in a mapping, and neither does what the caller sets, so all of them are
layers.

* `read_distinct`: no key stands twice in a mapping of a text.
* `loadOptions_eq`: options are made of the layers of all files with what the caller sets on top.
* `settings_precedence`: the last layer that touches a path decides.
-/

namespace DeclarationFetch

namespace Yaml

open Value

/-! ## Mappings of a text -/

/-- If a value is read, no key stands twice in a mapping of it. -/
def Found.Sound (found : Found Value) : Prop := ∀ value, found = .ok value → Keyed Distinct value

def Found.AllSound (found : Found (List (Value × Value))) : Prop :=
  ∀ entries, found = .ok entries → ∀ entry ∈ entries, Keyed Distinct entry.2

theorem ok_of_both {α β : Type} {a : Found α} {b : Found β} {x : α} {y : β}
    (h : a.both b = .ok (x, y)) :
    a = .ok x ∧ b = .ok y := by
  match a, b with
  | .ok _, .ok _ =>
    cases h
    exact ⟨rfl, rfl⟩

theorem allSound_nil : Found.AllSound (.ok []) := by
  rintro _ ⟨⟩
  exact nofun

theorem Found.AllSound.join {a b : Found (List (Value × Value))} (ha : a.AllSound) (hb : b.AllSound) :
    (a.join b).AllSound := by
  intro entries h entry hmem
  obtain ⟨⟨xs, ys⟩, hboth, rfl⟩ := exists_ok_of_map h
  rcases List.mem_append.mp hmem with hmem | hmem
  · exact ha xs (ok_of_both hboth).1 entry hmem
  · exact hb ys (ok_of_both hboth).2 entry hmem

theorem readMoment_leaf {s : String} {value : Value} (h : Scalar.readMoment s = .ok value) :
    value.isMapping = false := by
  unfold Scalar.readMoment at h
  repeat' split at h
  all_goals first | cases h; rfl | cases h

theorem readScalar_leaf {tag : Tag} {node : Node} {value : Value} (h : readScalar tag node = .ok value) :
    value.isMapping = false := by
  unfold readScalar at h
  split at h
  · cases h
  · next s _ =>
    cases tag with
    | moment =>
      dsimp only at h
      split at h
      · cases h
      · exact readMoment_leaf h
    | bytes =>
      unfold Scalar.readBytes at h
      dsimp only at h
      split at h
      · cases h
      · obtain ⟨_, -, rfl⟩ := exists_ok_of_map h
        rfl
    | null | text =>
      cases h
      rfl
    | bool | int | float =>
      obtain ⟨_, -, rfl⟩ := exists_ok_of_map h
      rfl
    | _ => cases h

theorem readScalar_sound {tag : Tag} {node : Node} {depth : Nat} :
    Found.Sound ((readScalar tag node).mapError (depth, ·)) :=
  fun _ h => .leaf (readScalar_leaf (ok_of_mapError h))

mutual
theorem value_sound (depth : Nat) : ∀ node, (value depth node).Sound
  | .enclosing _ => by
      rw [value]
      rintro _ ⟨⟩
      exact .leaf rfl
  | .scalar tag s => by
      rw [value]
      split
      · exact nofun
      · exact readScalar_sound
  | .list tag items => by
      unfold value
      intro held h
      split at h
      · obtain ⟨_, -, rfl⟩ := exists_ok_of_map h
        exact .leaf rfl
      · obtain ⟨_, -, rfl⟩ := exists_ok_of_map h
        exact .leaf rfl
      · cases h
  | .map tag entries => by
      obtain ⟨htaken, hown⟩ := parts_sound (depth + 1) entries
      unfold value
      intro held h
      by_cases hmapping : tag = .map ∨ tag = .set
      · rw [if_pos hmapping] at h
        split at h
        · obtain ⟨all, hall, rfl⟩ := exists_ok_of_map h
          split
          · exact .ofEntries ((htaken.join hown) all hall)
          · exact .leaf rfl
        · cases h
      · rw [if_neg hmapping] at h
        split at h
        · cases h
        · exact readScalar_sound held h

theorem parts_sound (depth : Nat) :
    ∀ entries, (parts depth entries).taken.AllSound ∧ (parts depth entries).own.AllSound
  | [] => ⟨allSound_nil, allSound_nil⟩
  | (key, item) :: rest => by
      obtain ⟨htaken, hown⟩ := parts_sound depth rest
      rw [parts]
      split
      · exact ⟨(takenOver_sound depth item).join htaken, hown⟩
      · refine ⟨htaken, Found.AllSound.join ?_ hown⟩
        intro entries h entry hmem
        obtain ⟨⟨k, v⟩, hboth, rfl⟩ := exists_ok_of_map h
        rw [List.mem_singleton.mp hmem]
        exact value_sound depth item v (ok_of_both hboth).2

theorem takenOver_sound (depth : Nat) : ∀ node, (takenOver depth node).AllSound
  | .map _ entries => by
      obtain ⟨htaken, hown⟩ := parts_sound depth entries
      rw [takenOver]
      exact htaken.join hown
  | .list _ items => by
      rw [takenOver]
      exact takenFromAll_sound depth items
  | .enclosing _ => allSound_nil
  | .scalar _ _ => allSound_nil

theorem takenFromAll_sound (depth : Nat) : ∀ items, (takenFromAll depth items).AllSound
  | [] => allSound_nil
  | item :: rest => by
      rw [takenFromAll]
      exact (takenFromAll_sound depth rest).join (takenOver_sound depth item)
end

theorem read_distinct {text : String} {value : Value} (h : read text = .ok value) : Keyed Distinct value := by
  unfold read at h
  dsimp only at h
  split at h
  · cases h
  · obtain ⟨node, -, h⟩ := exists_ok_of_bind h
    cases node with
    | none =>
      cases h
      exact .leaf rfl
    | some node => exact value_sound 0 node value (ok_of_mapError h)

end Yaml

namespace Settings

open Value

variable {t : FileTree} {source : Source} {sources : List Source} {entries : List (Value × Value)}

/-! ## Layers of settings -/

theorem readFile_distinct (h : readFile t source = .ok entries) : Keyed Distinct (.map entries) := by
  unfold readFile at h
  obtain ⟨there, -, h⟩ := exists_ok_of_bind h
  split at h
  · obtain ⟨text, -, h⟩ := exists_ok_of_bind h
    unfold entriesOf at h
    split at h
    · cases h
    · cases h
    · next hread =>
      cases h
      exact Yaml.read_distinct hread
    · split at h
      · cases h
      · cases h
        exact .map .nil nofun
  · cases h
    exact .map .nil nofun

/-- What the caller sets is a layer without what is null. -/
def Layer.given (overrides : Layer) : Layer where
  entries := Settings.given overrides.entries
  distinct := by
    obtain ⟨hkeys, hnested⟩ := overrides.distinct.of_map
    refine .map (hkeys.sublist ?_) fun entry hmem => hnested entry (List.mem_of_mem_filter hmem)
    exact List.filter_sublist.map Prod.fst

/-- Options are made of the layers of all files and, over them, of what the caller sets. -/
theorem loadOptions_eq {read : List (List (Value × Value))} (overrides : Layer)
    (h : sources.mapM (readFile t) = .ok read) :
    ∃ files : List Layer, files.map Layer.entries = read ∧
      loadOptions t sources overrides.entries =
        (Options.ofValue (merged (files ++ [overrides.given]))).mapError .invalid := by
  have hread : ∀ entries ∈ read, Keyed Distinct (.map entries) := fun entries hmem => by
    obtain ⟨source, -, hsource⟩ := exists_of_mem_mapM h hmem
    exact readFile_distinct hsource
  have hfiles : (read.pmap Layer.mk hread).map Layer.entries = read := by
    rw [List.map_pmap]
    exact List.pmap_eq_self.mpr fun _ _ => rfl
  refine ⟨read.pmap Layer.mk hread, hfiles, ?_⟩
  rw [merged_concat, merged, hfiles, Layer.value, mergeValue_maps]
  simp only [loadOptions, load, h]
  rfl

/-! ## Precedence -/

/-- What is held at a path is what the last layer that touches it holds there. A layer that is merged once
more changes nothing, and what is held at a path depends on what the layers have there alone. The settings
of options are merged so. -/
theorem settings_precedence :
    (∀ (layers : List Layer) (path : List Value) (v : Value), v.isMapping = false →
      ((merged layers).at? path = some v ↔ LastHolds layers path v)) ∧
    (∀ a b : Layer,
      (Keyed Findable b.value →
        mergeEntries (mergeEntries a.entries b.entries) b.entries = mergeEntries a.entries b.entries) ∧
      ∀ path,
        ((Value.map (mergeEntries (mergeEntries a.entries b.entries) b.entries)).at? path).map surface =
          ((Value.map (mergeEntries a.entries b.entries)).at? path).map surface) ∧
    (∀ (key : Value) (layers layers' : List Layer),
      List.Forall₂ (fun layer layer' => lookup layer.entries key = lookup layer'.entries key)
        layers layers' →
        lookup (mergeAll (layers.map Layer.entries)) key =
          lookup (mergeAll (layers'.map Layer.entries)) key) ∧
    (∀ (path : List Value) (layers layers' : List Layer), List.Forall₂ (AgreeAt path) layers layers' →
      (merged layers).at? path = (merged layers').at? path) ∧
    ∀ (t : FileTree) (sources : List Source) (overrides : Layer) (read : List (List (Value × Value))),
      sources.mapM (readFile t) = .ok read →
        ∃ files : List Layer, files.map Layer.entries = read ∧
          loadOptions t sources overrides.entries =
            (Options.ofValue (merged (files ++ [overrides.given]))).mapError .invalid := by
  refine ⟨?_, fun a b => ⟨?_, fun path => ?_⟩, ?_, ?_, ?_⟩
  · exact fun layers path v hleaf => at?_merged_eq_some_iff hleaf
  · exact mergeEntries_again b.distinct
  · exact at?_mergeEntries_again b.distinct
  · exact fun key layers layers' h => lookup_mergeAll_congr h
  · exact fun path layers layers' h => at?_merged_congr h
  · exact fun t sources overrides read h => loadOptions_eq overrides h

namespace Replaced

theorem keyed_entry {good : List Value → Prop} {key value : Value} (hkey : good [key])
    (hvalue : Keyed good value) : Keyed good (.map [(key, value)]) :=
  .map hkey fun _ hmem => List.mem_singleton.mp hmem ▸ hvalue

def flat : Layer where
  entries := [(.text "a", .int 1)]
  distinct := keyed_entry (List.pairwise_singleton _ _) (.leaf rfl)

def nested : Layer where
  entries := [(.text "a", .map [(.text "b", .int 2)])]
  distinct := keyed_entry (List.pairwise_singleton _ _)
    (keyed_entry (List.pairwise_singleton _ _) (.leaf rfl))

theorem findable_text (name : String) : Findable [.text name] := fun _ hmem => by
  rw [List.mem_singleton.mp hmem, sameKey]
  exact decide_eq_true rfl

theorem nested_findable : Keyed Findable nested.value :=
  keyed_entry (findable_text "a") (keyed_entry (findable_text "b") (.leaf rfl))

theorem agreeAt_other : AgreeAt [.text "c"] flat nested :=
  ⟨rfl, by rw [flat.touches_iff, nested.touches_iff]; decide⟩

def tree : FileTree := (FileTree.empty.plantAt ["s.yaml"] (.text "a: {b: c}")).2

def file : Source := ⟨"s.yaml", ["s.yaml"]⟩

theorem exists_read : ∃ read, [file].mapM (readFile tree) = .ok read := by
  have hok : ([file].mapM (readFile tree)).isOk = true := by decide +kernel
  cases h : [file].mapM (readFile tree) with
  | error fault => rw [h] at hok; cases hok
  | ok read => exact ⟨read, rfl⟩

/-- A mapping goes over a number that went over a mapping, and of the last two layers the number wins. -/
theorem settings_precedence_replaced :
    (LastHolds [nested, flat, nested] [.text "a", .text "b"] (.int 2) ∧
      (merged [nested, flat, nested]).at? [.text "a", .text "b"] = some (.int 2)) ∧
    (merged [nested, flat]).at? [.text "a", .text "b"] ≠ some (.int 2) ∧
    mergeEntries (mergeEntries flat.entries nested.entries) nested.entries =
      mergeEntries flat.entries nested.entries ∧
    lookup (mergeAll [flat.entries, nested.entries]) (.text "c") =
      lookup (mergeAll [nested.entries, flat.entries]) (.text "c") ∧
    (merged [flat, nested]).at? [.text "c"] = (merged [nested, nested]).at? [.text "c"] ∧
    ∃ read, [file].mapM (readFile tree) = .ok read ∧ ∃ files : List Layer,
      files.map Layer.entries = read ∧ loadOptions tree [file] flat.entries =
        (Options.ofValue (merged (files ++ [flat.given]))).mapError .invalid := by
  obtain ⟨hholds, hagain, hkeys, hagree, hload⟩ := settings_precedence
  have htouches : nested.value.Touches [.text "a", .text "b"] := nested.touches_iff.mpr (by decide)
  have hlast : LastHolds [nested, flat, nested] [.text "a", .text "b"] (.int 2) :=
    ⟨[nested, flat], nested, [], rfl, htouches, nofun, rfl⟩
  obtain ⟨read, hread⟩ := exists_read
  have hsame := hkeys (.text "c") [flat, nested] [nested, flat] (.cons rfl (.cons rfl .nil))
  have hagreed := hagree [.text "c"] [flat, nested] [nested, nested]
    (.cons agreeAt_other (.cons ⟨rfl, Iff.rfl⟩ .nil))
  refine ⟨⟨hlast, (hholds _ _ _ rfl).mpr hlast⟩, nofun, (hagain flat nested).1 nested_findable, hsame,
    hagreed, read, hread, hload _ _ flat _ hread⟩

end Replaced

end Settings

end DeclarationFetch
