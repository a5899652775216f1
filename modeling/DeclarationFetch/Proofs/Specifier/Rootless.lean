import DeclarationFetch.Proofs.Specifier.Names

/-! # Specifiers that name nothing

* `ne_empty_of_mem_extract`: a specifier that is found in a text is not empty.
* `packageOf_eq_error_iff`: one that starts with a slash names no package, and all others do.
* `dependencies_eq_error_iff`: the imports of a text cannot be told just when one of them starts so.
-/

namespace DeclarationFetch

open DeclarationFetch.Path

namespace Specifier

/-! ## Specifiers are not empty -/

def Filled (o : Option Found) : Prop := ∀ f, o = some f → f.specifier ≠ []

theorem Filled.map {o : Option Found} {g : Found → Found} (h : Filled o)
    (hg : ∀ f, f.specifier ≠ [] → (g f).specifier ≠ []) : Filled (o.map g) := by
  intro f hf
  obtain ⟨f', hf', rfl⟩ := Option.map_eq_some_iff.mp hf
  exact hg f' (h f' hf')

theorem Filled.grow {o : Option Found} (h : Filled o) (n : Nat) : Filled (o.map (Found.grow n)) :=
  h.map fun _ => id

theorem filled_none : Filled none := fun _ h => nomatch h

section Shapes

variable {shape : Shape} (hs : ∀ cs, Filled (shape cs)) (cs : List Char)

theorem filled_quotedUpTo (closes : List Char → Bool) (width : Nat) (cs : List Char) :
    Filled (quotedUpTo? closes width cs) := by
  unfold quotedUpTo?
  split
  · split
    · intro f hf
      obtain ⟨g, _, rfl⟩ := Option.map_eq_some_iff.mp hf
      simp
    · exact filled_none
  · exact filled_none

include hs

theorem filled_following (lead : List Char) : Filled (following lead shape cs) := by
  unfold following
  cases after? lead cs with
  | none => exact filled_none
  | some rest => exact (hs rest).grow _

theorem filled_spaced : Filled (spaced shape cs) := by
  unfold spaced
  split
  · exact (hs _).grow 1
  · exact hs cs

theorem filled_lastOnLine : Filled (lastOnLine shape cs) := by
  induction cs with
  | nil => exact filled_none
  | cons c rest ih =>
    unfold lastOnLine
    split
    · exact filled_none
    · refine Filled.grow ?_ 1
      cases hl : lastOnLine shape rest with
      | none => exact hs rest
      | some f =>
        rw [hl] at ih
        exact ih

theorem ne_nil_of_mem_occurrences {skip : Nat} {specifier : List Char}
    (h : specifier ∈ occurrences shape skip cs) : specifier ≠ [] := by
  induction cs generalizing skip with
  | nil => cases skip <;> cases h
  | cons c rest ih =>
    cases skip with
    | succ skip => exact ih h
    | zero =>
      unfold occurrences at h
      split at h
      · next f hf =>
        rcases List.mem_cons.mp h with rfl | h
        · exact hs _ f hf
        · exact ih h
      · exact ih h

end Shapes

theorem filled_shapes : ∀ shape ∈ shapes, ∀ cs, Filled (shape cs) := by
  have hcall : ∀ cs, Filled (callArgument cs) :=
    filled_spaced fun cs => filled_following (filled_quotedUpTo closesCall 2) cs ['(']
  have hclause : ∀ cs, Filled (fromClause cs) :=
    fun cs => filled_following (filled_spaced (filled_quotedUpTo closesQuote 1)) cs " from".toList
  refine forall_shapes (fun cs => ?_) (fun cs => ?_) (fun cs => ?_)
  · exact filled_following (filled_lastOnLine hclause) cs "import ".toList
  · exact filled_following hcall cs "await import".toList
  · exact filled_following hcall cs "require".toList

theorem ne_empty_of_mem_extract {source specifier : String} (h : specifier ∈ extract source) :
    specifier ≠ "" := by
  obtain ⟨shape, hshape, h⟩ := List.mem_flatMap.mp h
  obtain ⟨cs, hcs, rfl⟩ := List.mem_map.mp h
  have hne := ne_nil_of_mem_occurrences (filled_shapes shape hshape) _ hcs
  exact fun he => hne (String.ofList_eq_empty_iff.mp he)

/-! ## Specifiers that name nothing -/

/-- A text imports something by a specifier that starts with a slash. -/
def ImportsRootless (source : String) : Prop :=
  ∃ specifier ∈ extract source, specifier.toList.head? = some '/'

/-- The name in a specifier is its first part, which is empty only before a slash. -/
theorem name_eq_empty_iff {specifier : String} (hne : specifier ≠ "") :
    String.ofList (unparts ((parts specifier.toList).take (nameParts specifier))) = "" ↔
      specifier.toList.head? = some '/' := by
  rw [String.ofList_eq_empty_iff]
  unfold nameParts
  cases hl : specifier.toList with
  | nil => exact absurd (String.toList_eq_nil_iff.mp hl) hne
  | cons c tail =>
    by_cases hc : c = '/'
    · subst hc
      rw [show parts ('/' :: tail) = [] :: parts tail from parts_append_slash [] tail]
      exact iff_of_true rfl rfl
    · obtain ⟨first, rest, hparts⟩ := parts_cons hc tail
      have hhead : ∀ l, unparts ((c :: first) :: l) ≠ [] := fun l => by
        cases l with
        | nil => simp
        | cons next l => simp [unparts_cons_cons]
      rw [hparts]
      refine iff_of_false ?_ (by simpa using hc)
      split
      · exact hhead _
      · exact hhead _

theorem packageOf_eq_error_iff {specifier : String} {fault : Fault} (hne : specifier ≠ "") :
    packageOf specifier = .error fault ↔
      fault = .emptyPackageName ∧ specifier.toList.head? = some '/' := by
  unfold packageOf
  dsimp only
  split
  · next hn =>
    refine ⟨fun h => ?_, fun h => congrArg _ h.1.symm⟩
    cases h
    exact ⟨rfl, (name_eq_empty_iff hne).mp hn⟩
  · next hn => exact ⟨fun h => (nomatch h), fun h => absurd ((name_eq_empty_iff hne).mpr h.2) hn⟩

/-- Imports are written in the files of directories and of packages. -/
def Parent.Possible : Parent → Prop
  | .directory _ | .resource (.inPackage _ _ _) => True
  | _ => False

theorem head_of_nodeName {specifier name : String} (h : nodeName? specifier = some name) :
    specifier.toList.head? = some 'n' := by
  unfold nodeName? after? at h
  by_cases hlead : "node:".toList.isPrefixOf specifier.toList
  · obtain ⟨rest, hrest⟩ := List.isPrefixOf_iff_prefix.mp hlead
    rw [← hrest]
    rfl
  · rw [if_neg hlead] at h
    cases h

theorem classify_eq_error_iff {specifier : String} {parent : Parent} {fault : Fault}
    (hp : Parent.Possible parent) (hne : specifier ≠ "") :
    classify specifier parent = .error fault ↔
      fault = .emptyPackageName ∧ specifier.toList.head? = some '/' := by
  have hrelative : ∀ r : Resource, isRelative specifier = true → (Except.ok r = Except.error fault ↔
      fault = .emptyPackageName ∧ specifier.toList.head? = some '/') := fun r hrel => by
    refine iff_of_false (fun h => (nomatch h)) fun h => ?_
    cases h.2.symm.trans (of_decide_eq_true hrel)
  unfold classify
  cases hn : nodeName? specifier with
  | some name =>
    refine iff_of_false (fun h => (nomatch h)) fun h => ?_
    cases h.2.symm.trans (head_of_nodeName hn)
  | none =>
    match parent, hp with
    | .directory path, _ =>
      dsimp only
      split
      · next hrel => exact hrelative _ hrel
      · exact packageOf_eq_error_iff hne
    | .resource (.inPackage name path importPath), _ =>
      dsimp only
      split
      · next hrel => exact hrelative _ hrel
      · exact packageOf_eq_error_iff hne

/-- The imports of a text can be told unless one of them is by a specifier that starts with a slash. -/
theorem dependencies_eq_error_iff {source : String} {parent : Parent} {fault : Fault}
    (hp : Parent.Possible parent) :
    dependencies source parent = .error fault ↔ fault = .emptyPackageName ∧ ImportsRootless source := by
  have hclassify : ∀ specifier ∈ extract source, ∀ fault,
      classify specifier parent = .error fault ↔
        fault = .emptyPackageName ∧ specifier.toList.head? = some '/' := fun specifier hm _ =>
    classify_eq_error_iff hp (ne_empty_of_mem_extract hm)
  unfold dependencies
  rw [mapM_eq_error_iff fun specifier hm fault h => ((hclassify specifier hm fault).mp h).1]
  refine and_congr_right fun _ => exists_congr fun specifier => and_congr_right fun hm => ?_
  exact (hclassify specifier hm _).trans (and_iff_right rfl)

end Specifier

end DeclarationFetch
