import DeclarationFetch.Path

/-! # Normal forms of paths

What is left of the parts of a path when `.` and empty parts are dropped and `..` takes the part before
it away.

* `Plain part`: a part that stands for itself.
* `Climbs l`: going along the parts leads up from where it began.
* `foldl_push_append`: where it does not climb, a path leaves alone what stands before it.
-/

namespace DeclarationFetch.Path

variable {absolute : Bool} {l stack : List (List Char)} {part : List Char}

/-! ## Parts -/

/-- A part that stands for itself. -/
def Plain (part : List Char) : Prop := part ≠ [] ∧ part ≠ here ∧ part ≠ up

instance : DecidablePred Plain := fun part =>
  inferInstanceAs (Decidable (part ≠ [] ∧ part ≠ here ∧ part ≠ up))

theorem dropped_or_up_or_plain (part : List Char) :
    (part = [] ∨ part = here) ∨ part = up ∨ Plain part := by
  by_cases hd : part = [] ∨ part = here
  · exact .inl hd
  · by_cases hu : part = up
    · exact .inr (.inl hu)
    · exact .inr (.inr ⟨fun h => hd (.inl h), fun h => hd (.inr h), hu⟩)

theorem plain_of_mem {part : List Char} {c : Char} (h : c ∈ part) (hc : c ≠ '.') : Plain part := by
  refine ⟨?_, ?_, ?_⟩ <;> rintro rfl <;> simp_all [here, up]

theorem parts_append_slash (a b : List Char) : parts (a ++ '/' :: b) = parts a ++ parts b :=
  List.splitOn_append_cons_self a b

theorem parts_of_not_mem {a : List Char} (h : '/' ∉ a) : parts a = [a] :=
  List.splitOn_eq_singleton h

theorem parts_ne_nil (path : List Char) : parts path ≠ [] := List.splitOn_ne_nil '/' path

theorem unparts_parts (path : List Char) : unparts (parts path) = path := List.intercalate_splitOn '/'

theorem parts_unparts (hn : l ≠ []) (hs : ∀ p ∈ l, '/' ∉ p) : parts (unparts l) = l :=
  List.splitOn_intercalate '/' hs hn

@[simp] theorem unparts_singleton (part : List Char) : unparts [part] = part := by
  simp [unparts, List.intercalate]

theorem unparts_cons_cons (part next : List Char) (rest : List (List Char)) :
    unparts (part :: next :: rest) = part ++ '/' :: unparts (next :: rest) := by
  simp [unparts, List.intercalate]

theorem unparts_cons (part : List Char) (hn : l ≠ []) :
    unparts (part :: l) = part ++ '/' :: unparts l := by
  obtain ⟨next, rest, rfl⟩ := List.exists_cons_of_ne_nil hn
  exact unparts_cons_cons part next rest

/-- Where one path is put right after another, the last part of the one and the first of the other make
one part. -/
theorem unparts_append (front : List (List Char)) (last first : List Char)
    (rest : List (List Char)) :
    unparts (front ++ (last ++ first) :: rest) =
      unparts (front ++ [last]) ++ unparts (first :: rest) := by
  induction front with
  | nil =>
    cases rest with
    | nil => simp
    | cons next rest => simp [unparts_cons_cons]
  | cons part front ih =>
    rw [List.cons_append, unparts_cons part (by simp), ih, List.cons_append,
      unparts_cons part (by simp), List.append_assoc, List.cons_append]

theorem unparts_append_of_ne_nil {front back : List (List Char)} (hf : front ≠ []) (hb : back ≠ []) :
    unparts (front ++ back) = unparts front ++ '/' :: unparts back := by
  induction front with
  | nil => exact absurd rfl hf
  | cons part front ih =>
    cases front with
    | nil => rw [List.singleton_append, unparts_cons part hb, unparts_singleton]
    | cons next front =>
      rw [List.cons_append, unparts_cons part (by simp), ih (by simp), unparts_cons_cons,
        List.append_assoc, List.cons_append]

theorem unparts_eq_nil_iff {l : List (List Char)} (h : ∀ p ∈ l, p ≠ []) : unparts l = [] ↔ l = [] := by
  refine ⟨fun hl => ?_, fun hl => hl ▸ rfl⟩
  cases l with
  | nil => rfl
  | cons part rest =>
    have hp := h part (List.mem_cons_self ..)
    cases rest with
    | nil => exact absurd (unparts_singleton part ▸ hl) hp
    | cons next rest =>
      rw [unparts_cons_cons] at hl
      exact absurd (List.append_eq_nil_iff.mp hl).1 hp

theorem count_slash_unparts {l : List (List Char)} (h : ∀ p ∈ l, '/' ∉ p) :
    (unparts l).count '/' = l.length - 1 := by
  induction l with
  | nil => rfl
  | cons part rest ih =>
    have hpart : part.count '/' = 0 := List.count_eq_zero_of_not_mem (h part (List.mem_cons_self ..))
    cases rest with
    | nil => rw [unparts_singleton, hpart, List.length_singleton]
    | cons next rest =>
      rw [unparts_cons_cons, List.count_append, List.count_cons_self, hpart,
        ih fun p hp => h p (List.mem_cons_of_mem _ hp)]
      simp

theorem unparts_take_drop {l : List (List Char)} {n : Nat} (hl : l ≠ []) (hn : 0 < n) :
    unparts (l.take n) ++ '/' :: unparts (l.drop n) = unparts l ∨
      unparts (l.take n) ++ '/' :: unparts (l.drop n) = unparts l ++ ['/'] := by
  by_cases hd : l.drop n = []
  · rw [hd, List.take_of_length_le (List.drop_eq_nil_iff.mp hd)]
    exact .inr rfl
  · have ht : l.take n ≠ [] := by
      simp only [ne_eq, List.take_eq_nil_iff, not_or]
      exact ⟨by omega, hl⟩
    rw [← unparts_append_of_ne_nil ht hd, List.take_append_drop]
    exact .inl rfl

theorem parts_unparts_eq_flatMap (hn : l ≠ []) : parts (unparts l) = l.flatMap parts := by
  induction l with
  | nil => exact absurd rfl hn
  | cons a rest ih =>
    cases rest with
    | nil => simp
    | cons b rest =>
      rw [unparts_cons_cons, parts_append_slash, ih (List.cons_ne_nil b rest)]
      simp only [List.flatMap_cons]

theorem slash_not_mem_of_mem_parts {path : List Char} (h : part ∈ parts path) : '/' ∉ part := by
  induction path generalizing part with
  | nil =>
    have hp : part = [] := by simpa [parts] using h
    simp [hp]
  | cons c rest ih =>
    obtain ⟨first, others, hrest⟩ := List.exists_cons_of_ne_nil (parts_ne_nil rest)
    rw [parts, List.splitOn_cons_eq_if_modifyHead] at h
    change part ∈ if c == '/' then [] :: parts rest else (parts rest).modifyHead (c :: ·) at h
    rw [hrest] at h ih
    split at h
    · rcases List.mem_cons.mp h with rfl | h
      · exact List.not_mem_nil
      · exact ih h
    · next hc =>
      rcases List.mem_cons.mp h with rfl | h
      · intro hm
        rcases List.mem_cons.mp hm with rfl | hm
        · exact hc (beq_self_eq_true _)
        · exact ih (List.mem_cons_self ..) hm
      · exact ih (List.mem_cons_of_mem _ h)

theorem parts_append {a b last first : List Char} {front rest : List (List Char)}
    (ha : parts a = front ++ [last]) (hb : parts b = first :: rest) :
    parts (a ++ b) = front ++ (last ++ first) :: rest := by
  rw [← unparts_parts a, ← unparts_parts b, ha, hb, ← unparts_append]
  refine parts_unparts (by simp) fun p hp => ?_
  have hfront : ∀ q ∈ front ++ [last], '/' ∉ q := fun q hq =>
    slash_not_mem_of_mem_parts (ha.symm ▸ hq)
  have hrest : ∀ q ∈ first :: rest, '/' ∉ q := fun q hq =>
    slash_not_mem_of_mem_parts (hb.symm ▸ hq)
  rcases List.mem_append.mp hp with hp | hp
  · exact hfront p (List.mem_append_left _ hp)
  · rcases List.mem_cons.mp hp with rfl | hp
    · intro hm
      rcases List.mem_append.mp hm with hm | hm
      · exact hfront last (List.mem_append_right _ (List.mem_cons_self ..)) hm
      · exact hrest first (List.mem_cons_self ..) hm
    · exact hrest p (List.mem_cons_of_mem _ hp)

theorem parts_cons {c : Char} (hc : c ≠ '/') (path : List Char) :
    ∃ first rest, parts (c :: path) = (c :: first) :: rest := by
  obtain ⟨first, rest, hp⟩ := List.exists_cons_of_ne_nil (parts_ne_nil path)
  have hone : parts [c] = [] ++ [[c]] := parts_of_not_mem (by simpa using hc.symm)
  exact ⟨first, rest, parts_append hone hp⟩

/-! ## One part after another -/

theorem push_dropped (h : part = [] ∨ part = here) : push absolute stack part = stack := if_pos h

theorem push_plain (h : Plain part) : push absolute stack part = part :: stack := by
  unfold push
  rw [if_neg fun hd => hd.elim h.1 h.2.1, if_neg h.2.2]

theorem push_up_up (below : List (List Char)) :
    push absolute (up :: below) up = up :: up :: below := rfl

theorem push_up_cons {top : List Char} (h : top ≠ up) (below : List (List Char)) :
    push absolute (top :: below) up = below := by
  unfold push
  rw [if_neg (by decide), if_pos rfl]
  exact if_neg h

theorem length_push_le (absolute : Bool) (stack : List (List Char)) (part : List Char) :
    (push absolute stack part).length ≤ stack.length + 1 := by
  rcases dropped_or_up_or_plain part with hd | rfl | hp
  · rw [push_dropped hd]
    omega
  · cases stack with
    | nil => cases absolute <;> decide
    | cons top below =>
      by_cases ht : top = up
      · subst ht
        exact Nat.le_refl _
      · rw [push_up_cons ht, List.length_cons]
        omega
  · rw [push_plain hp]
    exact Nat.le_refl _

theorem mem_push {p : List Char} (h : p ∈ push absolute stack part) :
    p ∈ stack ∨ p = part ∧ (p = up ∨ Plain p) := by
  rcases dropped_or_up_or_plain part with hd | rfl | hp
  · rw [push_dropped hd] at h
    exact .inl h
  · cases stack with
    | nil => cases absolute <;> simp_all [push]
    | cons top below =>
      by_cases ht : top = up
      · subst ht
        rw [push_up_up] at h
        exact (List.mem_cons.mp h).symm.imp_right fun he => ⟨he, .inl he⟩
      · rw [push_up_cons ht] at h
        exact .inl (List.mem_cons_of_mem _ h)
  · rw [push_plain hp] at h
    exact (List.mem_cons.mp h).symm.imp_right fun he => ⟨he, .inr (he ▸ hp)⟩

theorem mem_foldl_push {p : List Char} (h : p ∈ l.foldl (push absolute) stack) :
    p ∈ stack ∨ p ∈ l ∧ (p = up ∨ Plain p) := by
  induction l generalizing stack with
  | nil => exact .inl h
  | cons part rest ih =>
    rcases ih h with h | ⟨h, hp⟩
    · exact (mem_push h).imp_right fun ⟨he, hp⟩ => ⟨List.mem_cons.mpr (.inl he), hp⟩
    · exact .inr ⟨List.mem_cons_of_mem _ h, hp⟩

theorem mem_reduce {p : List Char} (h : p ∈ reduce absolute l) : p ∈ l ∧ (p = up ∨ Plain p) :=
  (mem_foldl_push (List.mem_reverse.mp h)).resolve_left List.not_mem_nil

theorem foldl_push_plain (h : ∀ p ∈ l, Plain p) : l.foldl (push absolute) stack = l.reverse ++ stack := by
  induction l generalizing stack with
  | nil => rfl
  | cons part rest ih =>
    rw [List.foldl_cons, push_plain (h part (List.mem_cons_self ..)),
      ih fun p hp => h p (List.mem_cons_of_mem _ hp), List.reverse_cons, List.append_assoc]
    rfl

theorem reduce_of_plain (h : ∀ p ∈ l, Plain p) : reduce absolute l = l := by
  rw [reduce, foldl_push_plain h, List.append_nil, List.reverse_reverse]

/-- Below an up there is nothing but ups. -/
def Settled (stack : List (List Char)) : Prop :=
  ∃ names n, stack = names ++ List.replicate n up ∧ ∀ p ∈ names, Plain p

theorem settled_nil : Settled [] := ⟨[], 0, rfl, fun _ hp => nomatch hp⟩

theorem Settled.push (h : Settled stack) (part : List Char) : Settled (push false stack part) := by
  obtain ⟨names, n, rfl, hn⟩ := h
  rcases dropped_or_up_or_plain part with hd | rfl | hp
  · rw [push_dropped hd]
    exact ⟨names, n, rfl, hn⟩
  · match names, n with
    | [], 0 => exact ⟨[], 1, rfl, hn⟩
    | [], n + 1 => exact ⟨[], n + 2, rfl, hn⟩
    | top :: names, n =>
      rw [List.cons_append, push_up_cons (hn top (List.mem_cons_self ..)).2.2]
      exact ⟨names, n, rfl, fun p hp => hn p (List.mem_cons_of_mem _ hp)⟩
  · rw [push_plain hp]
    refine ⟨part :: names, n, rfl, fun p hm => ?_⟩
    rcases List.mem_cons.mp hm with rfl | hm
    · exact hp
    · exact hn p hm

theorem Settled.foldl (h : Settled stack) (l : List (List Char)) :
    Settled (l.foldl (Path.push false) stack) := by
  induction l generalizing stack with
  | nil => exact h
  | cons part rest ih => exact ih (h.push part)

/-! ## Climbing -/

/-- Going along the parts leads up from where it began. -/
def Climbs (l : List (List Char)) : Prop := up ∈ l.foldl (push false) []

instance : DecidablePred Climbs := fun _ => inferInstanceAs (Decidable (_ ∈ _))

theorem climbs_iff : Climbs l ↔ up ∈ reduce false l := List.mem_reverse.symm

theorem up_mem_push (h : up ∈ stack) (part : List Char) : up ∈ push false stack part := by
  rcases dropped_or_up_or_plain part with hd | rfl | hp
  · rwa [push_dropped hd]
  · cases stack with
    | nil => cases h
    | cons top below =>
      by_cases ht : top = up
      · subst ht
        exact List.mem_cons_self ..
      · rw [push_up_cons ht]
        exact (List.mem_cons.mp h).resolve_left fun he => ht he.symm
  · rw [push_plain hp]
    exact List.mem_cons_of_mem _ h

theorem up_mem_foldl (h : up ∈ stack) (l : List (List Char)) : up ∈ l.foldl (push false) stack := by
  induction l generalizing stack with
  | nil => exact h
  | cons part rest ih => exact ih (up_mem_push h part)

/-- What does not climb leaves alone what is below. -/
theorem foldl_push_append (h : up ∉ l.foldl (push false) stack) (below : List (List Char)) :
    l.foldl (push absolute) (stack ++ below) = l.foldl (push false) stack ++ below := by
  induction l generalizing stack with
  | nil => rfl
  | cons part rest ih =>
    rw [List.foldl_cons, List.foldl_cons]
    rw [List.foldl_cons] at h
    have hpush : push absolute (stack ++ below) part = push false stack part ++ below := by
      rcases dropped_or_up_or_plain part with hd | rfl | hp
      · rw [push_dropped hd, push_dropped hd]
      · match stack with
        | [] => exact absurd (up_mem_foldl (List.mem_singleton.mpr rfl) rest) h
        | top :: stack =>
          have ht : top ≠ up := fun ht =>
            h (up_mem_foldl (up_mem_push (ht ▸ List.mem_cons_self ..) up) rest)
          rw [List.cons_append, push_up_cons ht, push_up_cons ht]
      · rw [push_plain hp, push_plain hp, List.cons_append]
    rw [hpush, ih h]

/-- The more stands before it, the less a path climbs. -/
theorem up_not_mem_foldl_of_length_le {more : List (List Char)} (hm : up ∉ more)
    (hl : stack.length ≤ more.length) (h : up ∉ l.foldl (push false) stack) :
    up ∉ l.foldl (push false) more := by
  induction l generalizing stack more with
  | nil => exact hm
  | cons part rest ih =>
    rw [List.foldl_cons] at h ⊢
    rcases dropped_or_up_or_plain part with hd | rfl | hp
    · rw [push_dropped hd] at h ⊢
      exact ih hm hl h
    · match stack, more with
      | [], _ => exact absurd (up_mem_foldl (List.mem_singleton.mpr rfl) rest) h
      | top :: stack, top' :: more =>
        have ht : top ≠ up := fun ht =>
          h (up_mem_foldl (up_mem_push (ht ▸ List.mem_cons_self ..) up) rest)
        have ht' : top' ≠ up := fun ht' => hm (ht' ▸ List.mem_cons_self ..)
        rw [push_up_cons ht] at h
        rw [push_up_cons ht']
        exact ih (fun hu => hm (List.mem_cons_of_mem _ hu)) (Nat.le_of_succ_le_succ hl) h
    · rw [push_plain hp] at h ⊢
      have hm' : up ∉ part :: more := fun hu =>
        (List.mem_cons.mp hu).elim (fun he => hp.2.2 he.symm) hm
      exact ih hm' (by simpa using hl) h

theorem not_climbs_of_plain (h : ∀ p ∈ l, Plain p) : ¬ Climbs l := by
  rw [climbs_iff, reduce_of_plain h]
  exact fun hu => (h up hu).2.2 rfl

theorem not_climbs_pair {first : List Char} (h : Plain first) (second : List Char) :
    ¬ Climbs [first, second] := by
  have hfirst : up ∉ [first] := fun hu => h.2.2 (List.mem_singleton.mp hu).symm
  rw [Climbs, List.foldl_cons, push_plain h]
  rcases dropped_or_up_or_plain second with hd | rfl | hp
  · rwa [List.foldl_cons, push_dropped hd]
  · rw [List.foldl_cons, push_up_cons h.2.2]
    exact List.not_mem_nil
  · rw [List.foldl_cons, push_plain hp]
    exact fun hu => (List.mem_cons.mp hu).elim (fun he => hp.2.2 he.symm) hfirst

theorem plain_of_mem_reduce (h : ¬ Climbs l) {p : List Char} (hp : p ∈ reduce false l) : Plain p := by
  obtain ⟨names, n, hs, hn⟩ := settled_nil.foldl l
  have hp : p ∈ l.foldl (push false) [] := List.mem_reverse.mp hp
  rw [hs] at hp
  rcases List.mem_append.mp hp with hp | hp
  · exact hn p hp
  · obtain ⟨_, rfl⟩ := List.mem_replicate.mp hp
    exact absurd (hs ▸ List.mem_append_right names hp : up ∈ l.foldl (push false) []) h

theorem reduce_of_climbs (h : Climbs l) : ∃ rest, reduce false l = up :: rest := by
  obtain ⟨names, n, hs, hn⟩ := settled_nil.foldl l
  cases n with
  | zero =>
    rw [Climbs, hs, List.replicate_zero, List.append_nil] at h
    exact absurd rfl (hn up h).2.2
  | succ n =>
    refine ⟨List.replicate n up ++ names.reverse, ?_⟩
    rw [reduce, hs, List.reverse_append, List.reverse_replicate, List.replicate_succ, List.cons_append]

end DeclarationFetch.Path
