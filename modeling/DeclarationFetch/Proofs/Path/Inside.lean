import DeclarationFetch.Proofs.Path.Reduction

/-! # Paths inside a directory

* `Inside path`: a relative path whose normal form does not lead up; `inside_iff` reads it off the parts.
* `Straight path`: a path of plain parts alone, as the normal forms of paths inside are.
* `Lands path`: a path inside that may be one of a file.
* `join_eq_unparts`: a joined path by the parts that are left of it.
-/

namespace DeclarationFetch.Path

/-! ## Relative paths -/

theorem startsWith_eq_false {text lead : String} :
    Text.startsWith text lead = false ↔ ¬ lead.toList <+: text.toList := by
  rw [Text.startsWith, ← Bool.not_eq_true, List.isPrefixOf_iff_prefix]

theorem startsWith_iff_head {text lead : String} {c : Char} (h : lead.toList = [c]) :
    Text.startsWith text lead = true ↔ text.toList.head? = some c := by
  rw [Text.startsWith, List.isPrefixOf_iff_prefix, h]
  cases text.toList <;> simp [eq_comm]

theorem startsWith_slash_eq_false {path : String} :
    Text.startsWith path "/" = false ↔ path.toList.head? ≠ some '/' := by
  rw [← Bool.not_eq_true]
  exact not_congr (startsWith_iff_head rfl)

theorem root_of_relative {path : List Char} (h : path.head? ≠ some '/') : root path = [] := by
  cases path with
  | nil => rfl
  | cons c rest =>
    unfold root
    split <;> simp_all

theorem unparts_reduce_eq_nil {absolute : Bool} {l : List (List Char)} :
    unparts (reduce absolute l) = [] ↔ reduce absolute l = [] := by
  refine unparts_eq_nil_iff fun p hp => ?_
  rcases (mem_reduce hp).2 with rfl | hp
  · decide
  · exact hp.1

theorem normalizeChars_of_relative {path : List Char} (h : path.head? ≠ some '/') :
    normalizeChars path =
      if reduce false (parts path) = [] then here else unparts (reduce false (parts path)) := by
  unfold normalizeChars
  simp only [root_of_relative h, List.isEmpty_nil, Bool.not_true, List.nil_append,
    unparts_reduce_eq_nil]

theorem exists_normalizeChars_of_absolute {path : List Char} (h : path.head? = some '/') :
    ∃ rest, normalizeChars path = '/' :: rest := by
  have hroot : ∃ lead, root path = '/' :: lead := by
    cases path with
    | nil => cases h
    | cons c rest =>
      cases h
      unfold root
      split <;> simp_all
  obtain ⟨lead, hlead⟩ := hroot
  unfold normalizeChars
  rw [hlead]
  exact ⟨_, if_neg (by simp)⟩

theorem slash_not_mem_of_mem_reduce {absolute : Bool} {path part : List Char}
    (h : part ∈ reduce absolute (parts path)) : '/' ∉ part :=
  slash_not_mem_of_mem_parts (mem_reduce h).1

/-! ## Inside -/

def normalize (path : String) : String := String.ofList (normalizeChars path.toList)

/-- A relative path whose normal form does not lead up. -/
def Inside (path : String) : Prop :=
  Text.startsWith path "/" = false ∧ normalize path ≠ ".." ∧
    Text.startsWith (normalize path) "../" = false

instance : DecidablePred Inside := fun _ => inferInstanceAs (Decidable (_ ∧ _ ∧ _))

theorem climbs_iff_normalizeChars {path : List Char} (h : path.head? ≠ some '/') :
    Climbs (parts path) ↔ normalizeChars path = up ∨ up ++ ['/'] <+: normalizeChars path := by
  rw [normalizeChars_of_relative h]
  split
  · next hr =>
    rw [climbs_iff, hr]
    exact iff_of_false List.not_mem_nil (by decide)
  · next hr =>
    have hparts : parts (unparts (reduce false (parts path))) = reduce false (parts path) :=
      parts_unparts hr fun p hp => slash_not_mem_of_mem_reduce hp
    constructor
    · intro hc
      obtain ⟨rest, hrest⟩ := reduce_of_climbs hc
      rw [hrest]
      cases rest with
      | nil => exact .inl (unparts_singleton up)
      | cons next rest =>
        rw [unparts_cons_cons]
        exact .inr ⟨unparts (next :: rest), by simp⟩
    · rw [climbs_iff]
      rintro (hu | ⟨rest, hrest⟩)
      · rw [hu] at hparts
        rw [← hparts]
        decide
      · rw [← hrest, List.append_assoc] at hparts
        rw [← hparts, List.singleton_append, parts_append_slash]
        exact List.mem_append_left _ (by decide)

theorem inside_iff {path : String} :
    Inside path ↔ path.toList.head? ≠ some '/' ∧ ¬ Climbs (parts path.toList) := by
  unfold Inside
  rw [startsWith_slash_eq_false, startsWith_eq_false]
  refine and_congr_right fun hrel => ?_
  have hl : (normalize path).toList = normalizeChars path.toList := String.toList_ofList
  rw [climbs_iff_normalizeChars hrel, not_or, ← hl, ne_eq, ← String.toList_inj]
  rfl

/-! ## Straight paths -/

def Straight (path : String) : Prop := ∀ p ∈ parts path.toList, Plain p

instance : DecidablePred Straight := fun _ => inferInstanceAs (Decidable (∀ _ ∈ _, _))

namespace Straight

variable {path : String}

theorem not_climbs (h : Straight path) : ¬ Climbs (parts path.toList) := not_climbs_of_plain h

theorem relative (h : Straight path) : path.toList.head? ≠ some '/' := by
  intro hs
  cases hl : path.toList with
  | nil =>
    rw [hl] at hs
    cases hs
  | cons c rest =>
    rw [hl] at hs
    cases hs
    refine (h [] ?_).1 rfl
    rw [hl]
    exact (parts_append_slash [] rest).symm ▸ List.mem_append_left _ (List.mem_cons_self ..)

theorem inside (h : Straight path) : Inside path := inside_iff.mpr ⟨h.relative, h.not_climbs⟩

theorem last_ne_slash (h : Straight path) : path.toList.getLast? ≠ some '/' := by
  intro hs
  obtain ⟨front, hf⟩ := List.getLast?_eq_some_iff.mp hs
  refine (h [] ?_).1 rfl
  rw [hf, parts_append_slash]
  exact List.mem_append_right _ (List.mem_cons_self ..)

theorem ofList_unparts {l : List (List Char)} (hn : l ≠ []) (h : ∀ p ∈ l, Plain p ∧ '/' ∉ p) :
    Straight (String.ofList (unparts l)) := by
  intro p hp
  rw [String.toList_ofList, parts_unparts hn fun p hp => (h p hp).2] at hp
  exact (h p hp).1

theorem ne_empty (h : Straight path) : path ≠ "" := by
  rintro rfl
  exact absurd h (by decide)

end Straight

/-- A path inside that leads to something there and has no slash at its end. -/
structure Lands (path : String) : Prop where
  inside : Inside path
  somewhere : reduce false (parts path.toList) ≠ []
  last : path.toList.getLast? ≠ some '/'

theorem lands_iff {path : String} : Lands path ↔
    Inside path ∧ reduce false (parts path.toList) ≠ [] ∧ path.toList.getLast? ≠ some '/' :=
  ⟨fun h => ⟨h.inside, h.somewhere, h.last⟩, fun h => ⟨h.1, h.2.1, h.2.2⟩⟩

instance : DecidablePred Lands := fun _ => decidable_of_iff _ lands_iff.symm

theorem Straight.lands {path : String} (h : Straight path) : Lands path where
  inside := h.inside
  somewhere := by
    rw [reduce_of_plain h]
    exact parts_ne_nil _
  last := h.last_ne_slash

theorem Lands.ne_empty {path : String} (h : Lands path) : path ≠ "" := by
  rintro rfl
  exact absurd h (by decide)

/-! ## Joined paths -/

/-- The joined segments, before the path is brought into its normal form. -/
def joined (segments : List String) : List Char :=
  unparts ((segments.map String.toList).filter (· ≠ []))

theorem head_joined {segment : String} (h : segment ≠ "") (segments : List String) :
    (joined (segment :: segments)).head? = segment.toList.head? := by
  have hn : segment.toList ≠ [] := fun hn => h (String.toList_eq_nil_iff.mp hn)
  obtain ⟨c, rest, hc⟩ := List.exists_cons_of_ne_nil hn
  rw [joined, List.map_cons, List.filter_cons_of_pos (by simpa using hn), hc]
  cases (segments.map String.toList).filter (· ≠ []) with
  | nil => rw [unparts_singleton]
  | cons next others => rw [unparts_cons_cons]; rfl

theorem getLast?_joined {segment : String} (h : segment ≠ "") (segments : List String) :
    (joined (segments ++ [segment])).getLast? = segment.toList.getLast? := by
  have hn : segment.toList ≠ [] := fun hn => h (String.toList_eq_nil_iff.mp hn)
  rw [joined, List.map_append, List.filter_append, List.map_singleton,
    List.filter_cons_of_pos (by simpa using hn), List.filter_nil]
  induction (segments.map String.toList).filter (· ≠ []) with
  | nil => rw [List.nil_append, unparts_singleton]
  | cons part rest ih =>
    rw [List.cons_append, unparts_cons part (by simp), List.getLast?_append, List.getLast?_cons, ih]
    obtain ⟨c, rest, hc⟩ := List.exists_cons_of_ne_nil hn
    rw [hc, List.getLast?_cons]
    rfl

theorem join_eq_or (segments : List String) :
    (join segments).toList = normalizeChars (joined segments) ∨
      (join segments).toList = normalizeChars (joined segments) ++ ['/'] := by
  unfold join joinChars
  rw [String.toList_ofList, ← joined]
  dsimp only
  split
  · next hn =>
    rw [hn]
    exact .inl rfl
  · split
    · exact .inr rfl
    · exact .inl rfl

theorem nil_not_mem_parts_normalizeChars {path : List Char} (h : path.head? ≠ some '/') :
    [] ∉ parts (normalizeChars path) := by
  intro hnil
  rw [normalizeChars_of_relative h] at hnil
  split at hnil
  · exact absurd hnil (by decide)
  · next hr =>
    rw [parts_unparts hr fun p hp => slash_not_mem_of_mem_reduce hp] at hnil
    rcases (mem_reduce hnil).2 with hu | hp
    · exact absurd hu (by decide)
    · exact hp.1 rfl

theorem last_normalizeChars_ne_slash {path : List Char} (h : path.head? ≠ some '/') :
    (normalizeChars path).getLast? ≠ some '/' := by
  intro hl
  obtain ⟨front, hfront⟩ := List.getLast?_eq_some_iff.mp hl
  refine nil_not_mem_parts_normalizeChars h ?_
  rw [hfront, parts_append_slash]
  exact List.mem_append_right _ (List.mem_cons_self ..)

theorem foldl_push_filter {absolute : Bool} (segments : List (List Char)) (stack : List (List Char)) :
    ((segments.filter (· ≠ [])).flatMap parts).foldl (push absolute) stack =
      (segments.flatMap parts).foldl (push absolute) stack := by
  induction segments generalizing stack with
  | nil => rfl
  | cons segment rest ih =>
    by_cases hs : segment = []
    · subst hs
      rw [List.filter_cons_of_neg (by simp), ih, List.flatMap_cons, List.foldl_append]
      rfl
    · rw [List.filter_cons_of_pos (by simpa using hs), List.flatMap_cons, List.foldl_append, ih,
        List.flatMap_cons, List.foldl_append]

theorem foldl_push_joined {absolute : Bool} (segments : List String) (stack : List (List Char)) :
    (parts (joined segments)).foldl (push absolute) stack =
      ((segments.map String.toList).flatMap parts).foldl (push absolute) stack := by
  rw [← foldl_push_filter]
  by_cases hn : (segments.map String.toList).filter (· ≠ []) = []
  · rw [joined, hn]
    rfl
  · rw [joined, parts_unparts_eq_flatMap hn]

theorem join_eq_unparts {segments : List String} (hrel : (joined segments).head? ≠ some '/')
    (hend : (joined segments).getLast? ≠ some '/')
    (hr : reduce false ((segments.map String.toList).flatMap parts) ≠ []) :
    join segments =
      String.ofList (unparts (reduce false ((segments.map String.toList).flatMap parts))) := by
  have heq : reduce false (parts (joined segments)) =
      reduce false ((segments.map String.toList).flatMap parts) :=
    congrArg List.reverse (foldl_push_joined segments [])
  have hn : joined segments ≠ [] := fun h => hr (by rw [← heq, h]; decide)
  unfold join joinChars
  rw [← joined, if_neg hn]
  simp only [normalizeChars_of_relative hrel, heq, if_neg hr, endsInSlash, decide_eq_false hend,
    Bool.false_and, Bool.false_eq_true, if_false]

theorem head_join_of_absolute {segments : List String} (h : (joined segments).head? = some '/') :
    (join segments).toList.head? = some '/' := by
  obtain ⟨rest, hrest⟩ := exists_normalizeChars_of_absolute h
  rcases join_eq_or segments with hj | hj <;> rw [hj, hrest] <;> rfl

/-! ## Files of a directory -/

section Files

variable {directory file : String}

theorem reduce_append_straight (directory : List (List Char)) (hf : Straight file) :
    reduce false (directory ++ parts file.toList) = reduce false directory ++ parts file.toList := by
  rw [reduce, List.foldl_append, foldl_push_plain hf, List.reverse_append, List.reverse_reverse]
  rfl

theorem head_joined_file (directory : String) (hf : Straight file) :
    (joined [directory, file]).head? =
      if directory = "" then file.toList.head? else directory.toList.head? := by
  split
  · next hd =>
    subst hd
    exact head_joined hf.ne_empty []
  · next hd => exact head_joined hd [file]

theorem join_straight (hd : directory.toList.head? ≠ some '/') (hf : Straight file) :
    join [directory, file] =
      String.ofList (unparts (reduce false (parts directory.toList) ++ parts file.toList)) := by
  have hparts : ([directory, file].map String.toList).flatMap parts =
      parts directory.toList ++ parts file.toList := by simp
  have heq := reduce_append_straight (parts directory.toList) hf
  rw [← heq, ← hparts]
  refine join_eq_unparts ?_ ?_ (by simp [heq, parts_ne_nil])
  · rw [head_joined_file directory hf]
    split
    · exact hf.relative
    · exact hd
  · exact getLast?_joined hf.ne_empty [directory] ▸ hf.last_ne_slash

theorem Inside.join (hd : Inside directory) (hf : Straight file) : Straight (join [directory, file]) := by
  obtain ⟨hrel, hclimbs⟩ := inside_iff.mp hd
  rw [join_straight hrel hf]
  refine .ofList_unparts (by simp [parts_ne_nil]) fun p hp => ?_
  rcases List.mem_append.mp hp with hp | hp
  · exact ⟨plain_of_mem_reduce hclimbs hp, slash_not_mem_of_mem_reduce hp⟩
  · exact ⟨hf p hp, slash_not_mem_of_mem_parts hp⟩

/-- A path from a directory is inside only if the directory is. -/
theorem inside_of_inside_join (hf : Straight file) (h : Inside (Path.join [directory, file])) :
    Inside directory := by
  obtain ⟨hrel, hclimbs⟩ := inside_iff.mp h
  have hd : directory.toList.head? ≠ some '/' := fun hd => by
    refine hrel (head_join_of_absolute ?_)
    rw [head_joined_file directory hf, if_neg, hd]
    rintro rfl
    cases hd
  refine inside_iff.mpr ⟨hd, fun hc => hclimbs ?_⟩
  obtain ⟨rest, hrest⟩ := reduce_of_climbs hc
  rw [join_straight hd hf, String.toList_ofList, parts_unparts (by simp [parts_ne_nil]) fun p hp => ?_]
  · rw [hrest]
    exact up_mem_foldl (List.mem_singleton.mpr rfl) _
  · rcases List.mem_append.mp hp with hp | hp
    · exact slash_not_mem_of_mem_reduce hp
    · exact slash_not_mem_of_mem_parts hp

end Files

end DeclarationFetch.Path
