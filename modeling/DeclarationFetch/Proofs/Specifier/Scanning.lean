import DeclarationFetch.Specifier.Scan

/-! # What the search for specifiers finds

A pattern says of a text that it starts with an occurrence. A search from the left takes the leftmost
occurrence, its longest clause and its shortest specifier, and goes on where the occurrence ends.

* `Call`, `ImportFrom`: the patterns of the three shapes.
* `Scanned`: the specifiers that a search from the left comes upon.
* `Means`: a shape finds the occurrences of a pattern, and no others.
* `scanned_iff`: then the search for the shape is the search from the left.
* `extract_scanned`: so it is for all shapes, and the specifiers are listed by shape.
-/

namespace DeclarationFetch.Specifier

/-! ## Patterns -/

/-- Relates a text that starts with an occurrence to its specifier and to the text after it. -/
abbrev Pattern := List Char → List Char → List Char → Prop

def Pattern.Fits (p : Pattern) (cs : List Char) : Prop := ∃ s rest, p cs s rest

def After (lead : List Char) (p : Pattern) : Pattern := fun cs s rest =>
  ∃ here, cs = lead ++ here ∧ p here s rest

/-- At most one blank comes first. -/
def Spaced (p : Pattern) : Pattern := fun cs s rest => p cs s rest ∨ After [' '] p cs s rest

/-- A quote, at least one character and all on one line, a quote, and `tail`. -/
def Enclosed (tail : List Char) : Pattern := fun cs s rest =>
  ∃ opening closing, isQuote opening = true ∧ isQuote closing = true ∧ s ≠ [] ∧ '\n' ∉ s ∧
    cs = opening :: (s ++ closing :: (tail ++ rest))

/-- No occurrence with a shorter specifier starts here. -/
def Shortest (p : Pattern) : Pattern := fun cs s rest =>
  p cs s rest ∧ ∀ s' rest', p cs s' rest' → s.length ≤ s'.length

/-- A clause comes first, at least one character and all on one line. -/
def Clause (p : Pattern) (cs clause here : List Char) : Prop :=
  cs = clause ++ here ∧ clause ≠ [] ∧ '\n' ∉ clause ∧ p.Fits here

/-- The longest clause that an occurrence comes after comes first. -/
def LongestClause (p : Pattern) : Pattern := fun cs s rest =>
  ∃ clause here, Clause p cs clause here ∧ p here s rest ∧
    ∀ clause' here', Clause p cs clause' here' → clause'.length ≤ clause.length

def ImportFrom : Pattern :=
  After "import ".toList (LongestClause (After " from".toList (Spaced (Shortest (Enclosed [])))))

def Call (keyword : List Char) : Pattern :=
  After keyword (Spaced (After ['('] (Shortest (Enclosed [')']))))

/-- Each specifier is that of the leftmost occurrence after the end of the one before. -/
inductive Scanned (p : Pattern) : List Char → List (List Char) → Prop where
  | none {cs : List Char} (absent : ∀ before here, cs = before ++ here → ¬ p.Fits here) : Scanned p cs []
  | next (before : List Char) {here s rest : List Char} {found : List (List Char)}
      (first : ∀ early late, before ++ here = early ++ late → early.length < before.length → ¬ p.Fits late)
      (occurs : p here s rest) (more : Scanned p rest found) : Scanned p (before ++ here) (s :: found)

/-! ## Shapes and their patterns -/

/-- What a shape finds at the start of a text, and what a pattern says of that start, agree. -/
structure Means (shape : Shape) (p : Pattern) : Prop where
  sound : ∀ {cs f}, shape cs = some f →
    ∃ taken rest, cs = taken ++ rest ∧ taken.length = f.length ∧ p cs f.specifier rest
  complete : ∀ {cs s rest}, p cs s rest → ∃ taken, cs = taken ++ rest ∧ shape cs = some ⟨s, taken.length⟩

section Patterns

variable {shape : Shape} {p : Pattern}

theorem Means.fits_of_some (h : Means shape p) {cs : List Char} {f : Found} (hf : shape cs = some f) :
    p.Fits cs := by
  obtain ⟨_, rest, -, -, hp⟩ := h.sound hf
  exact ⟨f.specifier, rest, hp⟩

theorem Means.eq_none_iff (h : Means shape p) {cs : List Char} : shape cs = none ↔ ¬ p.Fits cs := by
  constructor
  · rintro hnone ⟨s, rest, hp⟩
    obtain ⟨taken, -, hsome⟩ := h.complete hp
    rw [hnone] at hsome
    cases hsome
  · intro hnot
    cases hs : shape cs with
    | none => rfl
    | some f => exact absurd (h.fits_of_some hs) hnot

theorem Means.unique (h : Means shape p) {cs s s' rest rest' : List Char} (hp : p cs s rest)
    (hp' : p cs s' rest') : s = s' ∧ rest = rest' := by
  obtain ⟨taken, hcs, hs⟩ := h.complete hp
  obtain ⟨taken', hcs', hs'⟩ := h.complete hp'
  have hf := Option.some.inj (hs.symm.trans hs')
  injection hf with hspec hlength
  exact ⟨hspec, (List.append_inj (hcs.symm.trans hcs') hlength).2⟩

theorem after?_eq_some_iff {lead cs here : List Char} : after? lead cs = some here ↔ cs = lead ++ here := by
  unfold after?
  constructor
  · intro h
    split at h
    · next hlead =>
      obtain ⟨rest, rfl⟩ := List.isPrefixOf_iff_prefix.mp hlead
      cases h
      simp
    · cases h
  · rintro rfl
    have hlead : lead.isPrefixOf (lead ++ here) = true :=
      List.isPrefixOf_iff_prefix.mpr (List.prefix_append lead here)
    simp [hlead]

theorem following_eq_some_iff {lead cs : List Char} {f : Found} :
    following lead shape cs = some f ↔
      ∃ here g, cs = lead ++ here ∧ shape here = some g ∧ f = g.grow lead.length := by
  unfold following
  constructor
  · intro h
    obtain ⟨g, hg, rfl⟩ := Option.map_eq_some_iff.mp h
    obtain ⟨here, hhere, hs⟩ := Option.bind_eq_some_iff.mp hg
    exact ⟨here, g, after?_eq_some_iff.mp hhere, hs, rfl⟩
  · rintro ⟨here, g, hcs, hs, rfl⟩
    rw [after?_eq_some_iff.mpr hcs, Option.bind_some, hs]
    rfl

theorem Means.following (h : Means shape p) (lead : List Char) :
    Means (following lead shape) (After lead p) where
  sound := by
    intro cs f hf
    obtain ⟨here, g, rfl, hg, rfl⟩ := following_eq_some_iff.mp hf
    obtain ⟨taken, rest, rfl, hlength, hp⟩ := h.sound hg
    refine ⟨lead ++ taken, rest, (List.append_assoc ..).symm, ?_, taken ++ rest, rfl, hp⟩
    simp [Found.grow, hlength, Nat.add_comm]
  complete := by
    rintro cs s rest ⟨here, rfl, hp⟩
    obtain ⟨taken, rfl, hs⟩ := h.complete hp
    refine ⟨lead ++ taken, (List.append_assoc ..).symm, ?_⟩
    refine following_eq_some_iff.mpr ⟨_, _, rfl, hs, ?_⟩
    simp [Found.grow, Nat.add_comm]

theorem spaced_of_blank (shape : Shape) (here : List Char) :
    spaced shape (' ' :: here) = following [' '] shape (' ' :: here) := by
  have hafter : after? [' '] (' ' :: here) = some here := after?_eq_some_iff.mpr rfl
  simp [spaced, Specifier.following, hafter]

theorem spaced_of_no_blank {cs : List Char} (h : ∀ here, cs ≠ ' ' :: here) : spaced shape cs = shape cs := by
  unfold spaced
  split
  · next rest => exact absurd rfl (h rest)
  · rfl

/-- One blank is taken wherever there is one, so nothing may want to start with it. -/
theorem Means.spaced (h : Means shape p) (hblank : ∀ here, ¬ p.Fits (' ' :: here)) :
    Means (spaced shape) (Spaced p) where
  sound := by
    intro cs f hf
    by_cases hcs : ∃ here, cs = ' ' :: here
    · obtain ⟨here, rfl⟩ := hcs
      rw [spaced_of_blank] at hf
      obtain ⟨taken, rest, htaken, hlength, hp⟩ := (h.following [' ']).sound hf
      exact ⟨taken, rest, htaken, hlength, .inr hp⟩
    · rw [spaced_of_no_blank fun here heq => hcs ⟨here, heq⟩] at hf
      obtain ⟨taken, rest, htaken, hlength, hp⟩ := h.sound hf
      exact ⟨taken, rest, htaken, hlength, .inl hp⟩
  complete := by
    rintro cs s rest (hp | hp)
    · have hcs : ∀ here, cs ≠ ' ' :: here := fun here heq => hblank here ⟨s, rest, heq ▸ hp⟩
      rw [spaced_of_no_blank hcs]
      exact h.complete hp
    · obtain ⟨here, rfl, -⟩ := id hp
      rw [show [' '] ++ here = ' ' :: here from rfl] at hp ⊢
      rw [spaced_of_blank]
      exact (h.following [' ']).complete hp

/-! ## Specifiers -/

def Closing (closes : List Char → Bool) (tail : List Char) : Prop :=
  ∀ cs, closes cs = true ↔ ∃ closing rest, isQuote closing = true ∧ cs = closing :: (tail ++ rest)

theorem closing_quote : Closing closesQuote [] := by
  intro cs
  cases cs with
  | nil => simp [closesQuote]
  | cons c rest => simp [closesQuote]

theorem closing_call : Closing closesCall [')'] := by
  intro cs
  constructor
  · intro h
    unfold closesCall at h
    split at h
    · next q rest => exact ⟨q, rest, h, rfl⟩
    · cases h
  · rintro ⟨closing, rest, hq, rfl⟩
    exact hq

variable {closes : List Char → Bool} {tail : List Char}

theorem Closing.nil (hcloses : Closing closes tail) : closes [] = false := by
  rw [Bool.eq_false_iff]
  intro h
  obtain ⟨_, _, -, hcs⟩ := (hcloses []).mp h
  cases hcs

/-- The first closing mark comes after `s`, and no line has ended before it. -/
structure FirstClosing (closes : List Char → Bool) (cs s late : List Char) : Prop where
  split : cs = s ++ late
  closed : closes late = true
  inLine : '\n' ∉ s
  first : ∀ s' late', cs = s' ++ late' → closes late' = true → s.length ≤ s'.length

theorem firstClosing_of_closes {cs s late : List Char} (hcloses : closes cs = true) :
    FirstClosing closes cs s late ↔ s = [] ∧ late = cs := by
  constructor
  · intro h
    have hlength := h.first [] cs rfl hcloses
    have hs : s = [] := List.length_eq_zero_iff.mp (Nat.le_zero.mp hlength)
    have hsplit := h.split
    rw [hs, List.nil_append] at hsplit
    exact ⟨hs, hsplit.symm⟩
  · rintro ⟨rfl, rfl⟩
    exact ⟨rfl, hcloses, List.not_mem_nil, fun _ _ _ _ => Nat.zero_le _⟩

theorem exists_cons_of_closes {c : Char} {rest s late : List Char} (hcloses : ¬ closes (c :: rest) = true)
    (hsplit : c :: rest = s ++ late) (hlate : closes late = true) : ∃ s₁, s = c :: s₁ ∧ rest = s₁ ++ late := by
  cases s with
  | nil =>
    rw [List.nil_append] at hsplit
    exact absurd (hsplit ▸ hlate) hcloses
  | cons d s₁ =>
    obtain ⟨rfl, hrest⟩ := List.cons.inj hsplit
    exact ⟨s₁, rfl, hrest⟩

theorem firstClosing_cons {c : Char} {rest s late : List Char} (hcloses : ¬ closes (c :: rest) = true) :
    FirstClosing closes (c :: rest) s late ↔
      ∃ s₁, s = c :: s₁ ∧ c ≠ '\n' ∧ FirstClosing closes rest s₁ late := by
  constructor
  · rintro ⟨hsplit, hlate, hline, hfirst⟩
    obtain ⟨s₁, rfl, hrest⟩ := exists_cons_of_closes hcloses hsplit hlate
    have hlines : '\n' ≠ c ∧ '\n' ∉ s₁ := by simpa using hline
    refine ⟨s₁, rfl, hlines.1.symm, hrest, hlate, hlines.2, fun s' late' hrest' hlate' => ?_⟩
    have hle := hfirst (c :: s') late' (congrArg (c :: ·) hrest') hlate'
    exact Nat.le_of_succ_le_succ hle
  · rintro ⟨s₁, rfl, hc, hrest, hlate, hline, hfirst⟩
    refine ⟨congrArg (c :: ·) hrest, hlate, by simp [hc.symm, hline], fun s' late' hsplit' hlate' => ?_⟩
    obtain ⟨s₂, rfl, hrest'⟩ := exists_cons_of_closes hcloses hsplit' hlate'
    exact Nat.succ_le_succ (hfirst s₂ late' hrest' hlate')

/-- The first closing mark ends the specifier, if the line has not ended before. -/
theorem upTo?_eq_some_iff (hnil : closes [] = false) {width : Nat} {cs : List Char} {f : Found} :
    upTo? closes width cs = some f ↔
      f.length = f.specifier.length + width ∧ ∃ late, FirstClosing closes cs f.specifier late := by
  induction cs generalizing f with
  | nil =>
    refine ⟨nofun, ?_⟩
    rintro ⟨-, late, hsplit, hlate, -⟩
    obtain rfl := (List.append_eq_nil_iff.mp hsplit.symm).2
    rw [hnil] at hlate
    cases hlate
  | cons c rest ih =>
    obtain ⟨specifier, length⟩ := f
    unfold upTo?
    -- the first closing mark ends the specifier, which is empty if it is here
    by_cases hcloses : closes (c :: rest) = true
    · simp only [if_pos hcloses, firstClosing_of_closes hcloses, Option.some.injEq, Found.mk.injEq]
      constructor
      · rintro ⟨rfl, rfl⟩
        exact ⟨(Nat.zero_add _).symm, _, rfl, rfl⟩
      · rintro ⟨rfl, -, rfl, -⟩
        exact ⟨rfl, (Nat.zero_add _).symm⟩
    rw [if_neg hcloses]
    simp only [firstClosing_cons hcloses]
    by_cases hline : c = '\n'
    · rw [if_pos hline]
      refine ⟨nofun, ?_⟩
      rintro ⟨-, late, s₁, -, hc, -⟩
      exact absurd hline hc
    · rw [if_neg hline, Option.map_eq_some_iff]
      constructor
      · rintro ⟨g, hg, heq⟩
        cases heq
        obtain ⟨hlength, late, hfirst⟩ := ih.mp hg
        refine ⟨?_, late, g.specifier, rfl, hline, hfirst⟩
        simp only [hlength, List.length_cons]
        omega
      · rintro ⟨rfl, late, s₁, rfl, -, hfirst⟩
        refine ⟨⟨s₁, s₁.length + width⟩, ih.mpr ⟨rfl, late, hfirst⟩, ?_⟩
        simp only [List.length_cons, Found.mk.injEq, true_and]
        omega

theorem quotedUpTo?_eq_some_iff {width : Nat} {cs : List Char} {f : Found} :
    quotedUpTo? closes width cs = some f ↔ ∃ q c rest g, cs = q :: c :: rest ∧ isQuote q = true ∧ c ≠ '\n' ∧
      upTo? closes width rest = some g ∧ f = ⟨c :: g.specifier, g.length + 2⟩ := by
  constructor
  · intro h
    unfold quotedUpTo? at h
    split at h
    · next q c rest =>
      split at h
      · next hq =>
        obtain ⟨g, hg, rfl⟩ := Option.map_eq_some_iff.mp h
        simp only [Bool.and_eq_true, decide_eq_true_eq] at hq
        exact ⟨q, c, rest, g, rfl, hq.1, hq.2, hg, rfl⟩
      · cases h
    · cases h
  · rintro ⟨q, c, rest, g, rfl, hq, hc, hg, rfl⟩
    simp [quotedUpTo?, hq, hc, hg]

theorem enclosed_iff (hcloses : Closing closes tail) {cs s rest : List Char} :
    Enclosed tail cs s rest ↔ ∃ q c s₁ late, isQuote q = true ∧ s = c :: s₁ ∧ c ≠ '\n' ∧ '\n' ∉ s₁ ∧
      cs = q :: c :: (s₁ ++ late) ∧ closes late = true ∧ late.drop (tail.length + 1) = rest := by
  constructor
  · rintro ⟨opening, closing, ho, hc, hs, hline, rfl⟩
    cases s with
    | nil => exact absurd rfl hs
    | cons c s₁ =>
      have hlines : '\n' ≠ c ∧ '\n' ∉ s₁ := by simpa using hline
      refine ⟨opening, c, s₁, closing :: (tail ++ rest), ho, rfl, hlines.1.symm, hlines.2, rfl, ?_, by simp⟩
      exact (hcloses _).mpr ⟨closing, rest, hc, rfl⟩
  · rintro ⟨q, c, s₁, late, hq, rfl, hc, hs₁, rfl, hlate, rfl⟩
    obtain ⟨closing, rest, hclosing, rfl⟩ := (hcloses late).mp hlate
    refine ⟨q, closing, hq, hclosing, by simp, ?_, by simp⟩
    simp [hc.symm, hs₁]

theorem means_quoted (hcloses : Closing closes tail) :
    Means (quotedUpTo? closes (tail.length + 1)) (Shortest (Enclosed tail)) where
  sound := by
    intro cs f hf
    obtain ⟨q, c, text, g, rfl, hq, hc, hg, rfl⟩ := quotedUpTo?_eq_some_iff.mp hf
    obtain ⟨hlength, late, htext, hlate, hline, hfirst⟩ := (upTo?_eq_some_iff hcloses.nil).mp hg
    obtain ⟨closing, rest, hclosing, rfl⟩ := (hcloses late).mp hlate
    refine ⟨q :: c :: (g.specifier ++ closing :: tail), rest, by simp [htext], ?_, ?_, ?_⟩
    · simp only [List.length_cons, List.length_append, hlength]
    · exact ⟨q, closing, hq, hclosing, by simp, by simp [hc.symm, hline], by simp [htext]⟩
    · intro s' rest' hs'
      obtain ⟨q', c', s₁, late', -, rfl, -, -, hcs, hlate', -⟩ := (enclosed_iff hcloses).mp hs'
      injection hcs with _ hcs
      injection hcs with _ htext'
      have hle := hfirst s₁ late' htext' hlate'
      exact Nat.succ_le_succ hle
  complete := by
    rintro cs s rest ⟨hs, hshortest⟩
    obtain ⟨q, c, s₁, late, hq, rfl, hc, hs₁, rfl, hlate, rfl⟩ := (enclosed_iff hcloses).mp hs
    have hfirst : FirstClosing closes (s₁ ++ late) s₁ late := by
      refine ⟨rfl, hlate, hs₁, fun s' late' htext hlate' => ?_⟩
      by_cases hle : s₁.length ≤ s'.length
      · exact hle
      -- a closing mark inside the specifier would make it shorter
      · obtain ⟨mid, hmid, -⟩ := List.append_eq_append_iff.mp htext |>.resolve_left (by
          rintro ⟨mid, rfl, -⟩
          simp at hle)
        have hline : '\n' ∉ s' := fun hmem => hs₁ (hmid ▸ List.mem_append_left mid hmem)
        have hshorter := hshortest (c :: s') _ ((enclosed_iff hcloses).mpr
          ⟨q, c, s', late', hq, rfl, hc, hline, by rw [htext], hlate', rfl⟩)
        exact Nat.le_of_succ_le_succ hshorter
    have hfound := (upTo?_eq_some_iff (f := ⟨s₁, s₁.length + (tail.length + 1)⟩) hcloses.nil).mpr
      ⟨rfl, late, hfirst⟩
    obtain ⟨closing, rest, hclosing, rfl⟩ := (hcloses late).mp hlate
    refine ⟨q :: c :: (s₁ ++ closing :: tail), by simp, ?_⟩
    refine quotedUpTo?_eq_some_iff.mpr ⟨q, c, _, _, rfl, hq, hc, hfound, ?_⟩
    simp only [List.length_cons, List.length_append]

/-! ## Clauses -/

theorem Clause.cons {c : Char} {rest clause here : List Char} (hc : c ≠ '\n')
    (h : Clause p rest clause here) : Clause p (c :: rest) (c :: clause) here := by
  obtain ⟨hrest, -, hline, hfits⟩ := h
  refine ⟨congrArg (c :: ·) hrest, List.cons_ne_nil c clause, ?_, hfits⟩
  simp [hc.symm, hline]

theorem Clause.cases {c : Char} {rest clause here : List Char} (h : Clause p (c :: rest) clause here) :
    c ≠ '\n' ∧ (clause = [c] ∧ here = rest ∧ p.Fits rest ∨
      ∃ clause₁, clause = c :: clause₁ ∧ Clause p rest clause₁ here) := by
  obtain ⟨hcs, hne, hline, hfits⟩ := h
  cases clause with
  | nil => exact absurd rfl hne
  | cons d clause₁ =>
    obtain ⟨rfl, hrest⟩ := List.cons.inj hcs
    have hlines : '\n' ≠ c ∧ '\n' ∉ clause₁ := by simpa using hline
    refine ⟨hlines.1.symm, ?_⟩
    by_cases hclause : clause₁ = []
    · subst hclause
      obtain rfl : rest = here := hrest
      exact .inl ⟨rfl, rfl, hfits⟩
    · exact .inr ⟨clause₁, rfl, hrest, hclause, hlines.2, hfits⟩

theorem lastOnLine_eq_none_iff (h : Means shape p) {cs : List Char} :
    lastOnLine shape cs = none ↔ ∀ clause here, ¬ Clause p cs clause here := by
  induction cs with
  | nil =>
    refine iff_of_true rfl ?_
    rintro clause here ⟨hcs, hne, -⟩
    exact hne (List.append_eq_nil_iff.mp hcs.symm).1
  | cons c rest ih =>
    unfold lastOnLine
    by_cases hc : c = '\n'
    · rw [if_pos hc]
      exact iff_of_true rfl fun clause here hclause => hclause.cases.1 hc
    · rw [if_neg hc, Option.map_eq_none_iff, Option.or_eq_none_iff, ih, h.eq_none_iff]
      constructor
      · rintro ⟨hrest, hfits⟩ clause here hclause
        rcases hclause.cases.2 with ⟨-, -, hfit⟩ | ⟨clause₁, -, hclause₁⟩
        · exact hfits hfit
        · exact hrest clause₁ here hclause₁
      · intro hnone
        refine ⟨fun clause here hclause => hnone _ _ (hclause.cons hc), fun hfits => ?_⟩
        exact hnone [c] rest ⟨rfl, List.cons_ne_nil c [], by simpa using Ne.symm hc, hfits⟩

theorem lastOnLine_sound (h : Means shape p) {cs : List Char} {f : Found}
    (hf : lastOnLine shape cs = some f) :
    ∃ taken rest, cs = taken ++ rest ∧ taken.length = f.length ∧ LongestClause p cs f.specifier rest := by
  induction cs generalizing f with
  | nil => cases hf
  | cons c rest ih =>
    unfold lastOnLine at hf
    by_cases hc : c = '\n'
    · rw [if_pos hc] at hf
      cases hf
    rw [if_neg hc] at hf
    obtain ⟨g, hg, rfl⟩ := Option.map_eq_some_iff.mp hf
    -- what fits further on makes the longer clause
    rcases Option.or_eq_some_iff.mp hg with hlast | ⟨hnone, hhere⟩
    · obtain ⟨taken, after, hrest, hlength, clause, here, hclause, hp, hlongest⟩ := ih hlast
      refine ⟨c :: taken, after, congrArg (c :: ·) hrest, ?_, c :: clause, here, hclause.cons hc, hp, ?_⟩
      · simp [Found.grow, hlength]
      · intro clause' here' hclause'
        rcases hclause'.cases.2 with ⟨rfl, -, -⟩ | ⟨clause₁, rfl, hclause₁⟩
        · simp
        · exact Nat.succ_le_succ (hlongest clause₁ here' hclause₁)
    · obtain ⟨taken, after, hrest, hlength, hp⟩ := h.sound hhere
      refine ⟨c :: taken, after, congrArg (c :: ·) hrest, ?_, [c], rest, ?_, hp, ?_⟩
      · simp [Found.grow, hlength]
      · exact ⟨rfl, List.cons_ne_nil c [], by simpa using Ne.symm hc, h.fits_of_some hhere⟩
      · intro clause' here' hclause'
        rcases hclause'.cases.2 with ⟨rfl, -, -⟩ | ⟨clause₁, -, hclause₁⟩
        · exact Nat.le_refl 1
        · exact absurd hclause₁ ((lastOnLine_eq_none_iff h).mp hnone clause₁ here')

theorem Means.lastOnLine (h : Means shape p) : Means (lastOnLine shape) (LongestClause p) where
  sound := lastOnLine_sound h
  complete := by
    rintro cs s rest ⟨clause, here, hclause, hp, hlongest⟩
    cases hf : Specifier.lastOnLine shape cs with
    | none => exact absurd hclause ((lastOnLine_eq_none_iff h).mp hf clause here)
    | some f =>
      obtain ⟨taken, after, hcs, hlength, clause', here', hclause', hp', hlongest'⟩ := lastOnLine_sound h hf
      -- neither of the two clauses is longer than the other, so they end at the same place
      have hle := hlongest clause' here' hclause'
      have hle' := hlongest' clause here hclause
      have hhere : here = here' :=
        (List.append_inj (hclause.1.symm.trans hclause'.1) (Nat.le_antisymm hle' hle)).2
      subst hhere
      obtain ⟨rfl, rfl⟩ := h.unique hp hp'
      exact ⟨taken, hcs, congrArg some (by rw [hlength])⟩

/-! ## The search -/

theorem occurrences_skip (shape : Shape) (skip : Nat) (cs : List Char) :
    occurrences shape skip cs = occurrences shape 0 (cs.drop skip) := by
  induction cs generalizing skip with
  | nil => cases skip <;> rfl
  | cons c rest ih =>
    cases skip with
    | zero => rfl
    | succ skip => exact ih skip

theorem occurrences_of_some {taken rest s : List Char} (hne : taken ≠ [])
    (h : shape (taken ++ rest) = some ⟨s, taken.length⟩) :
    occurrences shape 0 (taken ++ rest) = s :: occurrences shape 0 rest := by
  cases taken with
  | nil => exact absurd rfl hne
  | cons c taken =>
    rw [List.cons_append] at h ⊢
    rw [occurrences, h]
    simp only [List.length_cons, Nat.add_sub_cancel]
    rw [occurrences_skip, List.drop_left]

theorem occurrences_of_none {before here : List Char}
    (h : ∀ early late, before = early ++ late → late ≠ [] → shape (late ++ here) = none) :
    occurrences shape 0 (before ++ here) = occurrences shape 0 here := by
  induction before with
  | nil => rfl
  | cons c before ih =>
    have hnone : shape (c :: (before ++ here)) = none := h [] (c :: before) rfl (List.cons_ne_nil c before)
    rw [List.cons_append, occurrences, hnone]
    exact ih fun early late hbefore hne => h (c :: early) late (congrArg (c :: ·) hbefore) hne

theorem Scanned.cons {c : Char} {rest : List Char} {found : List (List Char)}
    (h : Scanned p rest found) (hnot : ¬ p.Fits (c :: rest)) : Scanned p (c :: rest) found := by
  cases h with
  | none absent =>
    refine .none fun before here hcs => ?_
    cases before with
    | nil => exact (show c :: rest = here from hcs) ▸ hnot
    | cons d before => exact absent before here (List.cons.inj hcs).2
  | next before first occurs more =>
    refine .next (c :: before) (fun early late hcs hlength => ?_) occurs more
    cases early with
    | nil => exact (show c :: _ = late from hcs) ▸ hnot
    | cons d early => exact first early late (List.cons.inj hcs).2 (Nat.lt_of_succ_lt_succ hlength)

/-- Every occurrence takes up at least one character. -/
def Advances (shape : Shape) : Prop := ∀ cs f, shape cs = some f → 0 < f.length

theorem advances_following {lead : List Char} (hlead : lead ≠ []) : Advances (following lead shape) := by
  intro cs f hf
  obtain ⟨here, g, -, -, rfl⟩ := following_eq_some_iff.mp hf
  have hpos := List.length_pos_iff.mpr hlead
  simp only [Found.grow]
  omega

theorem scanned_occurrences (h : Means shape p) (hadvances : Advances shape) (skip : Nat) (cs : List Char) :
    Scanned p (cs.drop skip) (occurrences shape skip cs) := by
  fun_induction occurrences shape skip cs with
  | case1 skip =>
    rw [List.drop_nil]
    refine .none fun before here hcs hfits => ?_
    obtain ⟨-, rfl⟩ := List.append_eq_nil_iff.mp hcs.symm
    obtain ⟨s, rest, hp⟩ := hfits
    obtain ⟨taken, htaken, hsome⟩ := h.complete hp
    obtain ⟨rfl, -⟩ := List.append_eq_nil_iff.mp htaken.symm
    exact Nat.lt_irrefl 0 (hadvances [] _ hsome)
  | case2 skip c rest ih => exact ih
  | case3 c rest f hf ih =>
    obtain ⟨taken, after, hcs, hlength, hp⟩ := h.sound hf
    have hpos := hadvances _ f hf
    have hafter : rest.drop (f.length - 1) = after := by
      have hdrop : (c :: rest).drop f.length = after := by
        rw [hcs, ← hlength, List.drop_left]
      rwa [show f.length = f.length - 1 + 1 by omega, List.drop_succ_cons] at hdrop
    rw [hafter] at ih
    exact .next [] (fun early late _ hlt => absurd hlt (Nat.not_lt_zero _)) hp ih
  | case4 c rest hf ih => exact ih.cons (h.eq_none_iff.mp hf)

theorem Scanned.occurrences_eq (h : Means shape p) (hadvances : Advances shape) {cs : List Char}
    {found : List (List Char)} (hscanned : Scanned p cs found) : occurrences shape 0 cs = found := by
  induction hscanned with
  | @none cs absent =>
    have hnone : occurrences shape 0 (cs ++ []) = occurrences shape 0 [] := by
      refine occurrences_of_none fun early late hcs _ => ?_
      rw [List.append_nil]
      exact h.eq_none_iff.mpr (absent early late hcs)
    rwa [List.append_nil] at hnone
  | @next before here s rest found first occurs more ih =>
    obtain ⟨taken, rfl, hsome⟩ := h.complete occurs
    have hpos := hadvances _ _ hsome
    have hbefore : occurrences shape 0 (before ++ (taken ++ rest)) = occurrences shape 0 (taken ++ rest) := by
      refine occurrences_of_none fun early late hsplit hne => h.eq_none_iff.mpr ?_
      refine first early (late ++ (taken ++ rest)) (by rw [hsplit, List.append_assoc]) ?_
      have hlate := List.length_pos_iff.mpr hne
      rw [hsplit, List.length_append]
      omega
    rw [hbefore, occurrences_of_some (List.length_pos_iff.mp hpos) hsome, ih]

/-- The search for a shape is the search from the left for its pattern. -/
theorem scanned_iff (h : Means shape p) (hadvances : Advances shape) {cs : List Char}
    {found : List (List Char)} : Scanned p cs found ↔ occurrences shape 0 cs = found := by
  refine ⟨Scanned.occurrences_eq h hadvances, ?_⟩
  rintro rfl
  exact scanned_occurrences h hadvances 0 cs

end Patterns

/-! ## The three shapes -/

theorem means_quotation {tail : List Char} {closes : List Char → Bool} (hcloses : Closing closes tail) :
    Means (spaced (quotedUpTo? closes (tail.length + 1))) (Spaced (Shortest (Enclosed tail))) := by
  refine (means_quoted hcloses).spaced ?_
  rintro here ⟨s, rest, ⟨opening, closing, ho, -, -, -, hcs⟩, -⟩
  rw [← (List.cons.inj hcs).1] at ho
  cases ho

theorem means_import : Means static ImportFrom :=
  ((means_quotation closing_quote).following _).lastOnLine.following _

theorem means_call (keyword : List Char) : Means (following keyword callArgument) (Call keyword) := by
  refine Means.following (Means.spaced ((means_quoted closing_call).following ['(']) ?_) keyword
  rintro here ⟨s, rest, after, hcs, -⟩
  cases hcs

theorem static_scanned_iff {cs : List Char} {found : List (List Char)} :
    Scanned ImportFrom cs found ↔ occurrences static 0 cs = found :=
  scanned_iff means_import (advances_following (by decide))

theorem dynamic_scanned_iff {cs : List Char} {found : List (List Char)} :
    Scanned (Call "await import".toList) cs found ↔ occurrences dynamic 0 cs = found :=
  scanned_iff (means_call _) (advances_following (by decide))

theorem require_scanned_iff {cs : List Char} {found : List (List Char)} :
    Scanned (Call "require".toList) cs found ↔ occurrences require 0 cs = found :=
  scanned_iff (means_call _) (advances_following (by decide))

theorem extract_eq (source : String) : extract source = (occurrences static 0 source.toList ++
    occurrences dynamic 0 source.toList ++ occurrences require 0 source.toList).map String.ofList := by
  simp [extract, shapes]

/-- In every text the specifiers of each shape are those that a search from the left comes upon, and they
are listed shape after shape. -/
theorem extract_scanned (source : String) :
    (∀ found, Scanned ImportFrom source.toList found ↔ occurrences static 0 source.toList = found) ∧
    (∀ found, Scanned (Call "await import".toList) source.toList found ↔
      occurrences dynamic 0 source.toList = found) ∧
    (∀ found, Scanned (Call "require".toList) source.toList found ↔
      occurrences require 0 source.toList = found) ∧
    extract source = (occurrences static 0 source.toList ++ occurrences dynamic 0 source.toList ++
      occurrences require 0 source.toList).map String.ofList := by
  refine ⟨?_, ?_, ?_, extract_eq source⟩
  · exact fun found => static_scanned_iff
  · exact fun found => dynamic_scanned_iff
  · exact fun found => require_scanned_iff

end DeclarationFetch.Specifier
