import DeclarationFetch.Proofs.Path.Normal

/-! # Paths that are joined in groups

* `joined_append`: what stands before the normal form of all segments, by two groups of them.
* `toList_join`: a relative joined path is a normal form, with a slash at its end if the segments have one.
* `join_join`: segments that are joined, and joined with more, make the path of all of them.
-/

namespace DeclarationFetch.Path

variable {segments more : List String}

/-! ## Two groups of segments -/

theorem joined_eq_nil_iff :
    joined segments = [] ↔ (segments.map String.toList).filter (· ≠ []) = [] :=
  unparts_eq_nil_iff fun _ hp => of_decide_eq_true (List.mem_filter.mp hp).2

theorem joined_append (segments more : List String) :
    joined (segments ++ more) =
      if joined segments = [] then joined more
      else if joined more = [] then joined segments
      else joined segments ++ '/' :: joined more := by
  simp only [joined_eq_nil_iff]
  unfold joined
  rw [List.map_append, List.filter_append]
  split
  · next hs => rw [hs, List.nil_append]
  · next hs =>
    split
    · next hm => rw [hm, List.append_nil]
    · next hm => exact unparts_append_of_ne_nil hs hm

theorem head_joined_append (h : joined segments ≠ []) (more : List String) :
    (joined (segments ++ more)).head? = (joined segments).head? := by
  obtain ⟨c, rest, hc⟩ := List.exists_cons_of_ne_nil h
  rw [joined_append, if_neg h]
  split
  · rfl
  · rw [hc]
    rfl

theorem head_joined_append_ne_slash (hs : (joined segments).head? ≠ some '/')
    (hm : (joined more).head? ≠ some '/') : (joined (segments ++ more)).head? ≠ some '/' := by
  by_cases hn : joined segments = []
  · rwa [joined_append, if_pos hn]
  · rwa [head_joined_append hn]

theorem endsInSlash_joined_append (segments more : List String) :
    endsInSlash (joined (segments ++ more)) =
      if joined more = [] then endsInSlash (joined segments) else endsInSlash (joined more) := by
  rw [joined_append]
  by_cases hm : joined more = []
  · rw [if_pos hm, if_pos hm, hm]
    split
    · next hs => rw [hs]
    · rfl
  · rw [if_neg hm, if_neg hm]
    split
    · rfl
    · unfold endsInSlash
      obtain ⟨front, last, hlast⟩ := (joined more).eq_nil_or_concat.resolve_left hm
      rw [hlast, List.concat_eq_append, List.getLast?_append, List.getLast?_cons, List.getLast?_concat]
      rfl

theorem head_joined_ne_slash (h : ∀ s ∈ segments, s.toList.head? ≠ some '/') :
    (joined segments).head? ≠ some '/' := by
  induction segments with
  | nil => decide
  | cons segment rest ih =>
    by_cases hs : segment = ""
    · subst hs
      exact ih fun s hm => h s (List.mem_cons_of_mem _ hm)
    · rw [head_joined hs]
      exact h segment (List.mem_cons_self ..)

theorem join_append_empty (segments more : List String) :
    join (segments ++ "" :: more) = join (segments ++ more) := by
  unfold join joinChars
  rw [List.map_append, List.map_append, List.filter_append, List.filter_append]
  rfl

/-! ## Joining again -/

theorem toList_join (h : (joined segments).head? ≠ some '/') :
    (join segments).toList =
      normalizeChars (joined segments) ++ if endsInSlash (joined segments) then ['/'] else [] := by
  have hend : endsInSlash (normalizeChars (joined segments)) = false :=
    decide_eq_false (last_normalizeChars_ne_slash h)
  unfold join joinChars
  rw [String.toList_ofList, ← joined]
  dsimp only
  rw [hend]
  split
  · next hn =>
    rw [hn]
    rfl
  · split <;> simp_all

theorem foldl_push_normalizeChars {path : List Char} (h : path.head? ≠ some '/') :
    (parts (normalizeChars path)).foldl (push false) [] = (parts path).foldl (push false) [] := by
  refine List.reverse_inj.mp ?_
  show reduce false (parts (normalizeChars path)) = reduce false (parts path)
  rw [normalizeChars_of_relative h]
  split
  · next hr =>
    rw [hr]
    rfl
  · next hr =>
    rw [parts_unparts hr fun p hp => slash_not_mem_of_mem_reduce hp, reduce_reduce]

theorem foldl_push_join (h : (joined segments).head? ≠ some '/') :
    (parts (join segments).toList).foldl (push false) [] =
      ((segments.map String.toList).flatMap parts).foldl (push false) [] := by
  rw [← foldl_push_joined, ← foldl_push_normalizeChars h, toList_join h]
  split
  · rw [parts_append_slash, List.foldl_append]
    rfl
  · rw [List.append_nil]

theorem normalizeChars_ne_nil (path : List Char) : normalizeChars path ≠ [] := by
  unfold normalizeChars
  dsimp only
  split
  · decide
  · next hn => exact hn

theorem join_ne_empty (segments : List String) : join segments ≠ "" := by
  intro he
  have hn : (join segments).toList = [] := String.toList_eq_nil_iff.mpr he
  rcases join_eq_or segments with hj | hj
  · exact normalizeChars_ne_nil _ (hj.symm.trans hn)
  · exact absurd (hj.symm.trans hn) (by simp)

theorem joined_join (segments : List String) : joined [join segments] = (join segments).toList := by
  have hn : (join segments).toList ≠ [] := fun h => join_ne_empty segments (String.toList_eq_nil_iff.mp h)
  rw [joined, List.map_singleton, List.filter_cons_of_pos (by simpa using hn), List.filter_nil,
    unparts_singleton]

theorem head_join_ne_slash (h : (joined segments).head? ≠ some '/') :
    (join segments).toList.head? ≠ some '/' := by
  have hhead := head_normalizeChars_ne_slash h
  obtain ⟨c, rest, hc⟩ := List.exists_cons_of_ne_nil (normalizeChars_ne_nil (joined segments))
  rw [hc] at hhead
  rw [toList_join h, hc]
  exact hhead

theorem endsInSlash_join (h : (joined segments).head? ≠ some '/') :
    endsInSlash (join segments).toList = endsInSlash (joined segments) := by
  rw [toList_join h]
  cases hend : endsInSlash (joined segments) with
  | true => exact decide_eq_true List.getLast?_concat
  | false =>
    rw [if_neg Bool.false_ne_true, List.append_nil]
    exact decide_eq_false (last_normalizeChars_ne_slash h)

/-- Relative paths are the same if their segments leave the same parts and end alike. -/
theorem join_congr (h : (joined segments).head? ≠ some '/') (hm : (joined more).head? ≠ some '/')
    (hparts : (parts (joined segments)).foldl (push false) [] = (parts (joined more)).foldl (push false) [])
    (hend : endsInSlash (joined segments) = endsInSlash (joined more)) : join segments = join more := by
  have hreduce : reduce false (parts (joined segments)) = reduce false (parts (joined more)) :=
    congrArg List.reverse hparts
  rw [← String.toList_inj, toList_join h, toList_join hm, normalizeChars_of_relative h,
    normalizeChars_of_relative hm, hreduce, hend]

/-- Segments that are joined, and joined with more, make the path of all of them. -/
theorem join_join (h : (joined (segments ++ more)).head? ≠ some '/') :
    join (join segments :: more) = join (segments ++ more) := by
  have hs : (joined segments).head? ≠ some '/' := by
    by_cases hn : joined segments = []
    · rw [hn]
      decide
    · rwa [← head_joined_append hn more]
  have hone : joined [join segments] ≠ [] := by
    rw [joined_join]
    exact fun hn => join_ne_empty segments (String.toList_eq_nil_iff.mp hn)
  rw [← List.singleton_append]
  refine join_congr ?_ h ?_ ?_
  · rw [head_joined_append hone, joined_join]
    exact head_join_ne_slash hs
  · -- the parts of the joined path leave what those of its segments leave
    rw [foldl_push_joined, foldl_push_joined, List.map_append, List.map_append, List.flatMap_append,
      List.flatMap_append, List.foldl_append, List.foldl_append, List.map_singleton,
      List.flatMap_singleton, foldl_push_join hs]
  · rw [endsInSlash_joined_append, endsInSlash_joined_append, joined_join, endsInSlash_join hs]

end DeclarationFetch.Path
