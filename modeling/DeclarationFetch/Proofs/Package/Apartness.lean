import DeclarationFetch.Proofs.Package.Declarations

/-! # Which files of a package are put at one place

The scope of declarations is cut out where it first occurs in a whole path, be it in the name of the package
or behind it.

* `Text.replaceFirstIn_behind`: what nothing begins in is left alone by a replacement.
* `unscoped path`: a path with the first scope of declarations cut out.
* `hostPath_declaring`, `hostPath_other`: a package in the scope has it cut out of its name, and any other
  out of the paths of its files.
* `hostPath_eq_iff`: two files of a package are at one place if they are the same when the scope is cut out,
  unless the package is in that scope.
-/

namespace DeclarationFetch

/-- A replacement leaves alone what stands before the place where an occurrence can begin. -/
theorem Text.replaceFirstIn_behind {find put front rest : List Char}
    (h : ∀ tail, tail ≠ [] → tail <:+ front → ¬ find <+: tail ++ rest) :
    replaceFirstIn find put (front ++ rest) = front ++ replaceFirstIn find put rest := by
  induction front with
  | nil => rfl
  | cons c front ih =>
    have hhere : ¬ find.isPrefixOf (c :: (front ++ rest)) = true := by
      rw [List.isPrefixOf_iff_prefix]
      exact h (c :: front) (List.cons_ne_nil _ _) (List.suffix_refl _)
    show replaceFirstIn find put (c :: (front ++ rest)) = c :: (front ++ replaceFirstIn find put rest)
    rw [replaceFirstIn, if_neg hhere,
      ih fun tail hne hs => h tail hne (hs.trans (List.suffix_cons c front))]

namespace Package

open DeclarationFetch.Path

variable {path path' : String}

/-! ## Cutting out the scope -/

/-- A path without the first scope of declarations in it. -/
def unscoped (path : String) : String := Text.replaceFirst path typesScope ""

theorem toList_unscoped (path : String) :
    (unscoped path).toList = Text.replaceFirstIn typesScope.toList [] path.toList := by
  simp only [unscoped, Text.replaceFirst, String.toList_ofList, String.toList_empty]

theorem unscoped_of_free (hfree : ¬ typesScope.toList <:+: path.toList) : unscoped path = path := by
  rw [unscoped, Text.replaceFirst, Text.replaceFirstIn_eq_self _ (by decide) hfree, String.ofList_toList]

/-- No occurrence of the scope begins in parts that do not end in it, since it goes to the next slash. -/
theorem not_prefix_behind {l : List (List Char)} (hl : l ≠ []) (hslash : ∀ p ∈ l, '/' ∉ p)
    (hscope : ∀ p ∈ l, ¬ scope <:+ p) (rest : List Char) {tail : List Char} (hne : tail ≠ [])
    (hs : tail <:+ unparts l ++ ['/']) : ¬ typesScope.toList <+: tail ++ rest := by
  rintro ⟨after, heq⟩
  have hmem : '/' ∈ tail := by
    obtain ⟨before, hbefore⟩ := hs
    have hlast := congrArg List.getLast? hbefore
    rw [List.getLast?_append, List.getLast?_concat, List.getLast?_eq_some_getLast hne] at hlast
    exact Option.some.inj hlast ▸ List.getLast_mem hne
  obtain ⟨front, back, rfl, hfront⟩ := List.eq_append_cons_of_mem hmem
  rw [toList_typesScope, List.append_assoc, List.singleton_append, List.append_assoc,
    List.cons_append] at heq
  obtain ⟨rfl, -⟩ := Text.append_inj_of_mark (by decide) hfront (by simp) (by simp) heq
  have hoccurs : typesScope.toList <:+: unparts l ++ ['/'] :=
    List.IsInfix.trans ⟨[], back, by rw [toList_typesScope]; simp⟩ hs.isInfix
  rw [infix_typesScope_iff, parts_append_slash, parts_unparts hl hslash] at hoccurs
  obtain ⟨p, hp, hend⟩ := hoccurs
  have hlast : (l ++ parts []).dropLast = l := List.dropLast_concat
  exact hscope p (hlast ▸ hp) hend

/-! ## Places -/

def packageDirectory (name : String) : List Char :=
  unparts (directory :: reduce false (parts name.toList)) ++ ['/']

/-- Where no part of the name ends in the scope, it is cut out of the path in the package. -/
theorem hostPath_eq_unscoped {name : String} (hn : ¬ Climbs (parts name.toList))
    (hname : ∀ p ∈ reduce false (parts name.toList), ¬ scope <:+ p) (hpath : Straight path) :
    (hostPath name path).toList = packageDirectory name ++ (unscoped path).toList := by
  have hslash : ∀ p ∈ directory :: reduce false (parts name.toList), '/' ∉ p :=
    List.forall_mem_cons.mpr ⟨by decide, fun p => slash_not_mem_of_mem_reduce⟩
  have hdirectory : ¬ scope <:+ directory := fun hs =>
    absurd (hs.subset (by decide : '@' ∈ scope)) (by decide)
  have hscope : ∀ p ∈ directory :: reduce false (parts name.toList), ¬ scope <:+ p :=
    List.forall_mem_cons.mpr ⟨hdirectory, hname⟩
  have hplace : unparts (directory :: placeParts name path) = packageDirectory name ++ path.toList := by
    rw [placeParts_straight name hpath, ← List.cons_append,
      unparts_append_of_ne_nil (List.cons_ne_nil _ _) (parts_ne_nil _), unparts_parts, packageDirectory]
    simp
  have hbehind : Text.replaceFirstIn typesScope.toList [] (packageDirectory name ++ path.toList) =
      packageDirectory name ++ Text.replaceFirstIn typesScope.toList [] path.toList :=
    Text.replaceFirstIn_behind fun tail hne hs =>
      not_prefix_behind (List.cons_ne_nil _ _) hslash hscope path.toList hne hs
  rw [hostPath, join_directory hn hpath.lands, hplace, toList_unscoped, ← hbehind]
  simp only [Text.replaceFirst, String.toList_ofList, String.toList_empty]

/-- A name in the scope of declarations, with a word in it that names a directory. -/
def Name.Declaring : Name → Prop
  | .plain _ => False
  | .within outer word => outer.text = "types" ∧ word.text ≠ ".."

theorem hostPath_declaring {name : Name} (h : name.Declaring) :
    ∃ home : List Char, ∀ path, Straight path →
      (hostPath name.text path).toList = home ++ path.toList := by
  cases name with
  | plain word => exact h.elim
  | within outer word =>
    obtain ⟨houter, hup⟩ := h
    have htext : (Name.within outer word).text = typesScope ++ word.text := by
      rw [← String.toList_inj, toList_within, houter, String.toList_append, toList_typesScope]
      simp [scope]
    refine ⟨packageDirectory word.text, fun path hpath => ?_⟩
    rw [htext, hostPath_typesScope word.no_slash hup hpath, String.toList_ofList,
      placeParts_straight _ hpath, ← List.cons_append,
      unparts_append_of_ne_nil (List.cons_ne_nil _ _) (parts_ne_nil _), unparts_parts, packageDirectory]
    simp

/-- The parts that are left of the name of any other package do not end in the scope. -/
theorem scope_not_suffix_of_other {name : Name} (h : ¬ name.Declaring) {p : List Char}
    (hp : p ∈ reduce false (parts name.text.toList)) : ¬ scope <:+ p := by
  intro hscope
  have hat : '@' ∈ p := hscope.subset (by decide)
  cases name with
  | plain word =>
    have hmem := (mem_reduce hp).1
    rw [Name.text, parts_of_not_mem word.no_slash, List.mem_singleton] at hmem
    exact word.no_at (hmem ▸ hat)
  | within outer word =>
    have hmem := (mem_reduce hp).1
    rw [parts_text] at hmem
    rcases List.mem_cons.mp hmem with rfl | hmem
    · rcases List.suffix_cons_iff.mp hscope with heq | hsuffix
      · -- it is the scope itself, which the word behind it leads out of
        have houter : outer.text = "types" := String.toList_inj.mp (List.cons.inj heq).2.symm
        have hup : word.text = ".." := Decidable.byContradiction fun hup => h ⟨houter, hup⟩
        rw [parts_text, hup, ← heq] at hp
        exact absurd hp (by decide)
      · exact outer.no_at (hsuffix.subset (by decide))
    · exact word.no_at (List.mem_singleton.mp hmem ▸ hat)

theorem hostPath_other {name : Name} (h : ¬ name.Declaring) :
    ∃ home : List Char, ∀ path, Straight path →
      (hostPath name.text path).toList = home ++ (unscoped path).toList := by
  by_cases hup : name.text = ".."
  · refine ⟨[], fun path hpath => ?_⟩
    rw [hup, hostPath, join_parent hpath]
    rfl
  · refine ⟨packageDirectory name.text, fun path hpath => hostPath_eq_unscoped ?_ ?_ hpath⟩
    · cases name with
      | plain word => exact not_climbs_word word.no_slash hup
      | within outer word =>
        rw [parts_text]
        exact not_climbs_pair (plain_of_mem (List.mem_cons_self ..) (by decide)) _
    · exact fun p hp => scope_not_suffix_of_other h hp

/-- Two files of a package are put at one place just when they are the same file, or are the same once the
scope of declarations is cut out of their paths and the package is not in that scope itself. So they are
apart where the scope does not occur in their paths. -/
theorem hostPath_eq_iff (name : Name) (hpath : Straight path) (hpath' : Straight path') :
    (hostPath name.text path = hostPath name.text path' ↔
      path = path' ∨ ¬ name.Declaring ∧ unscoped path = unscoped path') ∧
    (¬ typesScope.toList <:+: path.toList → ¬ typesScope.toList <:+: path'.toList →
      path ≠ path' → hostPath name.text path ≠ hostPath name.text path') := by
  have hiff : hostPath name.text path = hostPath name.text path' ↔
      path = path' ∨ ¬ name.Declaring ∧ unscoped path = unscoped path' := by
    -- a path is kept as it is behind a declaring name, and loses a scope behind another
    by_cases h : name.Declaring
    · obtain ⟨home, hhome⟩ := hostPath_declaring h
      rw [← String.toList_inj, hhome path hpath, hhome path' hpath', List.append_cancel_left_eq,
        String.toList_inj]
      exact ⟨.inl, fun heq => heq.elim id fun hn => absurd h hn.1⟩
    · obtain ⟨home, hhome⟩ := hostPath_other h
      rw [← String.toList_inj, hhome path hpath, hhome path' hpath', List.append_cancel_left_eq,
        String.toList_inj]
      exact ⟨fun heq => .inr ⟨h, heq⟩, fun heq => heq.elim (congrArg unscoped) And.right⟩
  refine ⟨hiff, fun hfree hfree' hne heq => ?_⟩
  rcases hiff.mp heq with heq | ⟨-, heq⟩
  · exact hne heq
  · rw [unscoped_of_free hfree, unscoped_of_free hfree'] at heq
    exact hne heq

namespace Overlapping

def react : Name := .plain ⟨"react", by decide, by decide, by decide⟩

def types : Name :=
  .within ⟨"types", by decide, by decide, by decide⟩ ⟨"react", by decide, by decide, by decide⟩

/-- Two files that are told apart in a package in the scope, and not in another. -/
theorem files_told : Straight "@types/jsx.d.ts" ∧ Straight "jsx.d.ts" ∧
    hostPath react.text "@types/jsx.d.ts" = hostPath react.text "jsx.d.ts" ∧
    hostPath types.text "@types/jsx.d.ts" ≠ hostPath types.text "jsx.d.ts" := by
  have hscoped : Straight "@types/jsx.d.ts" := by decide
  have hfree : Straight "jsx.d.ts" := by decide
  refine ⟨hscoped, hfree, ?_, fun heq => ?_⟩
  · exact (hostPath_eq_iff react hscoped hfree).1.mpr (.inr ⟨id, by decide⟩)
  · rcases (hostPath_eq_iff types hscoped hfree).1.mp heq with heq | ⟨hother, -⟩
    · exact absurd heq (by decide)
    · exact hother ⟨rfl, by decide⟩

/-- Where a directory only ends in the scope, what is left of its name goes together with the name behind. -/
theorem files_merged : react.text = "react" ∧ Straight "a@types/b.d.ts" ∧ Straight "ab.d.ts" ∧
    "a@types/b.d.ts" ≠ "ab.d.ts" ∧ hostPath react.text "a@types/b.d.ts" = "node_modules/react/ab.d.ts" ∧
    hostPath react.text "ab.d.ts" = "node_modules/react/ab.d.ts" :=
  ⟨rfl, by decide, by decide, by decide, by decide, by decide⟩

end Overlapping

end Package

end DeclarationFetch
