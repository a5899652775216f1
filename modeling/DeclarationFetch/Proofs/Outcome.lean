/-! # Results and faults

What a result was made of, read off the result.

* `exists_ok_of_map`, `exists_ok_of_bind`: what a result came from.
* `exists_of_mem_mapM`, `ok_of_mem_mapM`, `mapM_eq_error_iff_first`: a walk through a list has a result for
  each member, or the fault of the first that has one.
* `mapM_eq_error_iff`: where all faults are one, the order of the members does not matter.
-/

namespace DeclarationFetch

theorem ok_of_toOption {φ α : Type} {result : Except φ α} {a : α} (h : result.toOption = some a) :
    result = .ok a := by
  cases result with
  | error fault => cases h
  | ok a' => exact congrArg _ (Option.some.inj h)

theorem ok_of_mapError {φ ψ α : Type} {f : φ → ψ} {result : Except φ α} {a : α}
    (h : result.mapError f = .ok a) : result = .ok a := by
  cases result with
  | error fault => cases h
  | ok a' => exact congrArg _ (Except.ok.inj h)

theorem exists_ok_of_map {φ α β : Type} {f : α → β} {result : Except φ α} {b : β}
    (h : result.map f = .ok b) : ∃ a, result = .ok a ∧ f a = b := by
  cases result with
  | error fault => cases h
  | ok a => exact ⟨a, rfl, Except.ok.inj h⟩

theorem exists_ok_of_bind {φ α β : Type} {f : α → Except φ β} {result : Except φ α} {b : β}
    (h : result >>= f = .ok b) : ∃ a, result = .ok a ∧ f a = .ok b := by
  cases result with
  | error fault => cases h
  | ok a => exact ⟨a, rfl, h⟩

/-! ## Walks through lists -/

section Walks

variable {φ α β : Type} {f : α → Except φ β} {a : α} {l : List α} {rs : List β} {fault : φ}

theorem mapM_cons_eq_ok_iff :
    (a :: l).mapM f = .ok rs ↔ ∃ r rest, f a = .ok r ∧ l.mapM f = .ok rest ∧ rs = r :: rest := by
  rw [List.mapM_cons]
  constructor
  · intro h
    obtain ⟨r, hr, h⟩ := exists_ok_of_bind h
    obtain ⟨rest, hrest, h⟩ := exists_ok_of_bind h
    exact ⟨r, rest, hr, hrest, (Except.ok.inj h).symm⟩
  · rintro ⟨r, rest, hr, hrest, rfl⟩
    rw [hr, hrest]
    rfl

theorem mapM_cons_eq_error_iff :
    (a :: l).mapM f = .error fault ↔
      f a = .error fault ∨ ∃ r, f a = .ok r ∧ l.mapM f = .error fault := by
  rw [List.mapM_cons]
  cases f a with
  | error fault' =>
    refine ⟨fun h => ?_, ?_⟩
    · cases h
      exact .inl rfl
    · rintro (h | ⟨_, h, -⟩) <;> cases h
      rfl
  | ok r =>
    cases l.mapM f with
    | error fault' =>
      refine ⟨fun h => ?_, ?_⟩
      · cases h
        exact .inr ⟨r, rfl, rfl⟩
      · rintro (h | ⟨_, -, h⟩) <;> cases h
        rfl
    | ok rest => exact ⟨nofun, by rintro (h | ⟨_, -, h⟩) <;> cases h⟩

theorem exists_of_mem_mapM (h : l.mapM f = .ok rs) {r : β} (hr : r ∈ rs) : ∃ a ∈ l, f a = .ok r := by
  induction l generalizing rs with
  | nil =>
    cases h
    cases hr
  | cons a l ih =>
    obtain ⟨r', rest, ha, hl, rfl⟩ := mapM_cons_eq_ok_iff.mp h
    rcases List.mem_cons.mp hr with rfl | hr
    · exact ⟨a, List.mem_cons_self .., ha⟩
    · obtain ⟨a', hm, he⟩ := ih hl hr
      exact ⟨a', List.mem_cons_of_mem _ hm, he⟩

theorem ok_of_mem_mapM (h : l.mapM f = .ok rs) (ha : a ∈ l) : ∃ r, f a = .ok r := by
  induction l generalizing rs with
  | nil => cases ha
  | cons b l ih =>
    obtain ⟨r, rest, hb, hl, rfl⟩ := mapM_cons_eq_ok_iff.mp h
    rcases List.mem_cons.mp ha with rfl | ha
    · exact ⟨r, hb⟩
    · exact ih hl ha

theorem mapM_eq_error_iff_first :
    l.mapM f = .error fault ↔ ∃ before a after, l = before ++ a :: after ∧
      (∀ b ∈ before, ∃ r, f b = .ok r) ∧ f a = .error fault := by
  induction l with
  | nil => exact ⟨nofun, fun ⟨before, a, after, h, _⟩ => by cases before <;> cases h⟩
  | cons first rest ih =>
    rw [mapM_cons_eq_error_iff, ih]
    constructor
    · rintro (hfirst | ⟨r, hr, before, a, after, rfl, hbefore, ha⟩)
      · exact ⟨[], first, rest, rfl, nofun, hfirst⟩
      · exact ⟨first :: before, a, after, rfl, List.forall_mem_cons.mpr ⟨⟨r, hr⟩, hbefore⟩, ha⟩
    · rintro ⟨before, a, after, heq, hbefore, ha⟩
      cases before with
      | nil =>
        obtain ⟨rfl, -⟩ := List.cons.inj heq
        exact .inl ha
      | cons b before =>
        obtain ⟨rfl, rfl⟩ := List.cons.inj heq
        obtain ⟨⟨r, hr⟩, hbefore⟩ := List.forall_mem_cons.mp hbefore
        exact .inr ⟨r, hr, before, a, after, rfl, hbefore, ha⟩

/-- Where all faults are one, a walk fails just when one of the members does. -/
theorem mapM_eq_error_iff {fault₀ : φ} (hf : ∀ a ∈ l, ∀ fault, f a = .error fault → fault = fault₀) :
    l.mapM f = .error fault ↔ fault = fault₀ ∧ ∃ a ∈ l, f a = .error fault₀ := by
  have hmem {fault : φ} (h : l.mapM f = .error fault) : ∃ a ∈ l, f a = .error fault := by
    obtain ⟨before, a, after, rfl, -, ha⟩ := mapM_eq_error_iff_first.mp h
    exact ⟨a, List.mem_append_right _ (List.mem_cons_self ..), ha⟩
  constructor
  · intro h
    obtain ⟨a, hm, ha⟩ := hmem h
    obtain rfl := hf a hm fault ha
    exact ⟨rfl, a, hm, ha⟩
  · rintro ⟨rfl, a, hm, ha⟩
    cases hl : l.mapM f with
    | error fault' =>
      obtain ⟨b, hb, hfault⟩ := hmem hl
      rw [hf b hb fault' hfault]
    | ok rs =>
      obtain ⟨r, hr⟩ := ok_of_mem_mapM hl hm
      cases ha.symm.trans hr

end Walks

end DeclarationFetch
