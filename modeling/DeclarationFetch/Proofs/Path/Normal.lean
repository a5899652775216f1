import DeclarationFetch.Proofs.Path.Inside

/-! # Paths in normal form

* `normalize_normalize`: the normal form of a relative path is its own normal form.
* `Straight.normalize_eq`: so is a path of plain parts.
* `straight_of_normal`: a path inside that is its own normal form has plain parts alone, or is `.`.
* `normalize_join`: a joined path is in normal form, unless it ends in a slash.
-/

namespace DeclarationFetch.Path

variable {l : List (List Char)}

/-! ## Reduced parts -/

theorem foldl_push_ups (n m : Nat) :
    (List.replicate n up).foldl (push false) (List.replicate m up) = List.replicate (m + n) up := by
  induction n generalizing m with
  | zero => rfl
  | succ n ih =>
    have hpush : push false (List.replicate m up) up = List.replicate (m + 1) up := by
      cases m <;> rfl
    rw [List.replicate_succ, List.foldl_cons, hpush, ih, Nat.add_right_comm]
    rfl

theorem reduce_reduce (l : List (List Char)) : reduce false (reduce false l) = reduce false l := by
  obtain ⟨names, n, hs, hn⟩ := settled_nil.foldl l
  have hups : (List.replicate n up).foldl (push false) [] = List.replicate n up := by
    simpa using foldl_push_ups n 0
  have hnames : ∀ p ∈ names.reverse, Plain p := fun p hp => hn p (List.mem_reverse.mp hp)
  unfold reduce
  rw [hs, List.reverse_append, List.reverse_replicate, List.foldl_append, hups,
    foldl_push_plain hnames, List.reverse_reverse, List.reverse_append, List.reverse_replicate]

/-! ## Normal forms -/

theorem head_normalizeChars_ne_slash {path : List Char} (h : path.head? ≠ some '/') :
    (normalizeChars path).head? ≠ some '/' := by
  intro hh
  obtain ⟨rest, hrest⟩ := List.head?_eq_some_iff.mp hh
  refine nil_not_mem_parts_normalizeChars h ?_
  rw [hrest]
  exact (parts_append_slash [] rest).symm ▸ List.mem_append_left _ (List.mem_cons_self ..)

theorem normalizeChars_normalizeChars {path : List Char} (h : path.head? ≠ some '/') :
    normalizeChars (normalizeChars path) = normalizeChars path := by
  rw [normalizeChars_of_relative (head_normalizeChars_ne_slash h), normalizeChars_of_relative h]
  split
  · rfl
  · next hr =>
    rw [parts_unparts hr fun p hp => slash_not_mem_of_mem_reduce hp, reduce_reduce, if_neg hr]

theorem Straight.normalize_eq {path : String} (h : Straight path) : normalize path = path := by
  unfold normalize
  rw [normalizeChars_of_relative h.relative, reduce_of_plain h, if_neg (parts_ne_nil _), unparts_parts,
    String.ofList_toList]

theorem straight_of_normal {path : String} (hin : Inside path) (hnormal : normalize path = path)
    (hhere : path ≠ ".") : Straight path := by
  obtain ⟨hrel, hclimbs⟩ := inside_iff.mp hin
  have hchars : normalizeChars path.toList = path.toList := by
    rw [← hnormal, normalize, String.toList_ofList, normalizeChars_normalizeChars hrel]
  rw [normalizeChars_of_relative hrel] at hchars
  split at hchars
  · exact absurd (String.toList_inj.mp hchars.symm) hhere
  · next hr =>
    intro p hp
    rw [← hchars, parts_unparts hr fun p hp => slash_not_mem_of_mem_reduce hp] at hp
    exact plain_of_mem_reduce hclimbs hp

/-- Where the first segment is relative, a joined path is in normal form unless it ends in a slash. -/
theorem normalize_join {segments : List String} (h : (joined segments).head? ≠ some '/') :
    normalize (join segments) = join segments ∨ (join segments).toList.getLast? = some '/' := by
  rcases join_eq_or segments with hj | hj
  · refine .inl ?_
    unfold normalize
    rw [hj, normalizeChars_normalizeChars h, ← hj, String.ofList_toList]
  · exact .inr (by rw [hj, List.getLast?_concat])

end DeclarationFetch.Path
