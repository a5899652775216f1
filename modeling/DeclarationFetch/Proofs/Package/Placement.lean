import DeclarationFetch.Package
import DeclarationFetch.Proofs.Path.Inside

/-! # Where files of packages are put

* `toList_fileKey`, `toList_definitelyTyped_scoped`: the characters of keys, and of the names of packages
  that declare types.
* `Placed path`: a path below the root of all packages, of plain parts alone.
* `placed_hostPath`: where the files of a package are put, if its name does not climb.
* `not_climbs_definitelyTyped`: a package that declares types climbs no more than the one it is for.
-/

namespace DeclarationFetch

namespace Text

theorem replaceFirstIn_cases {find : List Char} (hf : find ≠ []) (put text : List Char) :
    replaceFirstIn find put text = text ∨
      ∃ front rest, text = front ++ find ++ rest ∧
        replaceFirstIn find put text = front ++ put ++ rest := by
  induction text with
  | nil =>
    left
    rw [replaceFirstIn, if_neg hf]
  | cons c text ih =>
    by_cases hp : find.isPrefixOf (c :: text) = true
    · obtain ⟨rest, hrest⟩ := List.isPrefixOf_iff_prefix.mp hp
      refine .inr ⟨[], rest, hrest.symm, ?_⟩
      rw [replaceFirstIn, if_pos hp, ← hrest, List.drop_left]
      rfl
    · rw [replaceFirstIn, if_neg hp]
      rcases ih with ih | ⟨front, rest, ht, hr⟩
      · exact .inl (by rw [ih])
      · exact .inr ⟨c :: front, rest, by rw [ht]; rfl, by rw [hr]; rfl⟩

theorem replaceFirstIn_slash (put text : List Char) :
    ('/' ∉ text ∧ replaceFirstIn ['/'] put text = text) ∨
      ∃ front rest, '/' ∉ front ∧ text = front ++ '/' :: rest ∧
        replaceFirstIn ['/'] put text = front ++ put ++ rest := by
  induction text with
  | nil => exact .inl ⟨List.not_mem_nil, rfl⟩
  | cons c text ih =>
    by_cases hc : c = '/'
    · subst hc
      refine .inr ⟨[], text, List.not_mem_nil, rfl, ?_⟩
      simp [replaceFirstIn]
    · have hrec : replaceFirstIn ['/'] put (c :: text) = c :: replaceFirstIn ['/'] put text := by
        rw [replaceFirstIn, if_neg]
        simp [Ne.symm hc]
      rw [hrec]
      rcases ih with ⟨hn, heq⟩ | ⟨front, rest, hn, ht, heq⟩
      · exact .inl ⟨by simp [hn, Ne.symm hc], by rw [heq]⟩
      · exact .inr ⟨c :: front, rest, by simp [hn, Ne.symm hc], by rw [ht]; rfl, by rw [heq]; rfl⟩

end Text

namespace Package

open DeclarationFetch.Path

/-! ## Keys and names -/

theorem versioned_none (name : String) : versioned name none = name := rfl

theorem toList_fileKey (name : String) (version : Option String) (path : String) :
    (fileKey name version path).toList = (versioned name version).toList ++ '/' :: path.toList := by
  show (versioned name version ++ "/" ++ path).toList = _
  rw [String.toList_append, String.toList_append, List.append_assoc]
  rfl

theorem toList_definitelyTyped_scoped {name : String} {rest : List Char} (h : name.toList = '@' :: rest) :
    (definitelyTyped name).toList = typesScope.toList ++ Text.replaceFirstIn ['/'] "__".toList rest := by
  unfold definitelyTyped
  rw [h]
  show (typesScope ++ Text.replaceFirst (String.ofList rest) "/" "__").toList = _
  simp only [String.toList_append, Text.replaceFirst, String.toList_ofList]
  rfl

theorem definitelyTyped_plain {name : String} (h : name.toList.head? ≠ some '@') :
    definitelyTyped name = typesScope ++ name := by
  unfold definitelyTyped
  split
  · next rest hname =>
    rw [hname] at h
    exact absurd rfl h
  · rfl

theorem length_lt_definitelyTyped (name : String) :
    name.toList.length < (definitelyTyped name).toList.length := by
  have hscope : typesScope.toList.length = 7 := by decide
  by_cases h : name.toList.head? = some '@'
  · obtain ⟨rest, hname⟩ := List.head?_eq_some_iff.mp h
    rw [toList_definitelyTyped_scoped hname, hname, List.length_append, List.length_cons, hscope]
    rcases Text.replaceFirstIn_slash "__".toList rest with ⟨-, heq⟩ | ⟨front, tail, -, rfl, heq⟩
    · rw [heq]
      omega
    · rw [heq]
      simp only [List.length_append, List.length_cons]
      omega
  · rw [definitelyTyped_plain h, String.toList_append, List.length_append, hscope]
    omega

theorem definitelyTyped_ne (name : String) : definitelyTyped name ≠ name := fun heq => by
  have hlt := length_lt_definitelyTyped name
  rw [heq] at hlt
  exact Nat.lt_irrefl _ hlt

/-! ## The scope of declarations -/

def scope : List Char := "@types".toList

theorem toList_typesScope : typesScope.toList = scope ++ ['/'] := by decide

theorem parts_scoped (path : List Char) : parts (typesScope.toList ++ path) = scope :: parts path := by
  rw [toList_typesScope, List.append_assoc, List.singleton_append, parts_append_slash]
  rfl

/-- Where the scope occurs in a path, it ends a part. -/
theorem parts_around_scope {front last : List Char} {initial : List (List Char)}
    (hfront : parts front = initial ++ [last]) (tail : List Char) :
    parts (front ++ typesScope.toList ++ tail) = initial ++ (last ++ scope) :: parts tail := by
  have hscope : parts scope = [scope] := by decide
  rw [toList_typesScope, ← List.append_assoc, List.append_assoc _ _ tail, List.singleton_append,
    parts_append_slash, parts_append hfront hscope, List.append_assoc]
  rfl

/-! ## Places -/

def directory : List Char := "node_modules".toList

/-- A path below the directory of all packages, of plain parts alone. -/
def Placed (path : String) : Prop :=
  ∃ rest, parts path.toList = directory :: rest ∧ rest ≠ [] ∧ ∀ p ∈ rest, Plain p

theorem plain_append {last first : List Char} (h : Plain first) : Plain (last ++ first) := by
  refine ⟨fun hx => h.1 (List.append_eq_nil_iff.mp hx).2, fun hx => ?_, fun hx => ?_⟩
  · match last, hx with
    | [], hx => exact h.2.1 hx
    | [c], hx => exact h.1 (List.cons.inj hx).2
  · match last, hx with
    | [], hx => exact h.2.2 hx
    | [c], hx => exact h.2.1 (List.cons.inj hx).2
    | [c, d], hx => exact h.1 (List.cons.inj (List.cons.inj hx).2).2

/-- The parts of the place of a file: what is left of those of its package and of its own. -/
def placeParts (name path : String) : List (List Char) :=
  reduce false (parts name.toList) ++ reduce false (parts path.toList)

theorem plain_of_mem_placeParts {name path p : _} (hn : ¬ Climbs (parts name.toList))
    (hp : Lands path) (h : p ∈ placeParts name path) : Plain p ∧ '/' ∉ p := by
  rcases List.mem_append.mp h with h | h
  · exact ⟨plain_of_mem_reduce hn h, slash_not_mem_of_mem_reduce h⟩
  · exact ⟨plain_of_mem_reduce (inside_iff.mp hp.inside).2 h, slash_not_mem_of_mem_reduce h⟩

theorem join_directory {name path : String} (hn : ¬ Climbs (parts name.toList)) (hp : Lands path) :
    join ["node_modules", name, path] =
      String.ofList (unparts (directory :: placeParts name path)) := by
  have hparts : (["node_modules", name, path].map String.toList).flatMap parts =
      directory :: (parts name.toList ++ parts path.toList) := by simp; rfl
  have heq : reduce false (directory :: (parts name.toList ++ parts path.toList)) =
      directory :: placeParts name path := by
    have hfirst : push false [] directory = [] ++ [directory] := by decide
    have hname : (parts name.toList).foldl (push false) ([] ++ [directory]) =
        (parts name.toList).foldl (push false) [] ++ [directory] := foldl_push_append hn [directory]
    have hpath : ∀ below, (parts path.toList).foldl (push false) ([] ++ below) =
        (parts path.toList).foldl (push false) [] ++ below := fun below =>
      foldl_push_append (inside_iff.mp hp.inside).2 below
    rw [reduce, List.foldl_cons, List.foldl_append, hfirst, hname, ← List.nil_append (_ ++ _), hpath,
      placeParts, reduce, reduce]
    simp
  rw [← heq, ← hparts]
  refine join_eq_unparts ?_ ?_ ?_
  · rw [head_joined (by decide)]
    decide
  · exact getLast?_joined hp.ne_empty ["node_modules", name] ▸ hp.last
  · rw [hparts, heq]
    exact List.cons_ne_nil _ _

/-- What is cut out of a path of plain parts up to a slash leaves plain parts. -/
theorem placed_of_replaceFirst {path : String} (h : Placed path) :
    Placed (Text.replaceFirst path typesScope "") := by
  obtain ⟨rest, hparts, hn, hp⟩ := h
  unfold Placed Text.replaceFirst
  rw [String.toList_ofList]
  have hscope : typesScope.toList ≠ [] := by decide
  rcases Text.replaceFirstIn_cases hscope "".toList path.toList with heq | ⟨front, tail, hsplit, heq⟩
  · rw [heq]
    exact ⟨rest, hparts, hn, hp⟩
  · obtain ⟨initial, last, hfront⟩ :=
      (parts front).eq_nil_or_concat.resolve_left (parts_ne_nil front)
    rw [List.concat_eq_append] at hfront
    obtain ⟨first, others, htail⟩ := List.exists_cons_of_ne_nil (parts_ne_nil tail)
    have hcut : parts path.toList = initial ++ (last ++ scope) :: first :: others := by
      rw [hsplit, parts_around_scope hfront, htail]
    rw [hparts] at hcut
    cases initial with
    | nil =>
      have hat : '@' ∈ directory := by
        rw [(List.cons.inj hcut).1]
        exact List.mem_append_right _ (by decide)
      exact absurd hat (by decide)
    | cons root initial =>
      obtain ⟨rfl, rfl⟩ := List.cons.inj hcut
      have hwhole : parts (front ++ "".toList ++ tail) =
          directory :: (initial ++ (last ++ first) :: others) := by
        show parts (front ++ [] ++ tail) = _
        rw [List.append_nil, parts_append hfront htail, List.cons_append]
      rw [heq, hwhole]
      refine ⟨_, rfl, by simp, fun p hm => ?_⟩
      rcases List.mem_append.mp hm with hm | hm
      · exact hp p (List.mem_append_left _ hm)
      · rcases List.mem_cons.mp hm with rfl | hm
        · exact plain_append (hp first (by simp))
        · exact hp p (by simp [hm])

theorem placed_hostPath {name path : String} (hn : ¬ Climbs (parts name.toList)) (hp : Lands path) :
    Placed (hostPath name path) := by
  refine placed_of_replaceFirst ⟨placeParts name path, ?_, ?_, fun p hm => ?_⟩
  · rw [join_directory hn hp, String.toList_ofList]
    refine parts_unparts (List.cons_ne_nil _ _) fun p hm => ?_
    rcases List.mem_cons.mp hm with rfl | hm
    · decide
    · exact (plain_of_mem_placeParts hn hp hm).2
  · exact List.append_ne_nil_of_right_ne_nil _ hp.somewhere
  · exact (plain_of_mem_placeParts hn hp hm).1

/-! ## Packages that declare types -/

theorem climbs_scoped {l : List (List Char)} :
    Climbs (scope :: l) ↔ up ∈ l.foldl (push false) [scope] := Iff.rfl

theorem not_climbs_definitelyTyped {name : String} (h : ¬ Climbs (parts name.toList)) :
    ¬ Climbs (parts (definitelyTyped name).toList) := by
  by_cases hat : name.toList.head? = some '@'
  · obtain ⟨tail, hname⟩ := List.head?_eq_some_iff.mp hat
    rw [toList_definitelyTyped_scoped hname, parts_scoped]
    rcases Text.replaceFirstIn_slash "__".toList tail with ⟨hs, heq⟩ | ⟨front, rest, hs, rfl, heq⟩
    · rw [heq, parts_of_not_mem hs]
      exact not_climbs_pair (by decide) tail
    · obtain ⟨first, others, hrest⟩ := List.exists_cons_of_ne_nil (parts_ne_nil rest)
      have hmerged : Plain (front ++ "__".toList ++ first) :=
        plain_of_mem (c := '_') (by simp) (by decide)
      have hhead : Plain ('@' :: front) := plain_of_mem (List.mem_cons_self ..) (by decide)
      have hfront : parts (front ++ "__".toList) = [] ++ [front ++ "__".toList] :=
        parts_of_not_mem (by simp [hs])
      have hnew : parts (front ++ "__".toList ++ rest) = (front ++ "__".toList ++ first) :: others :=
        parts_append hfront hrest
      have hlength : (push false ['@' :: front] first).length ≤
          [front ++ "__".toList ++ first, scope].length := length_push_le ..
      rw [hname, ← List.cons_append, parts_append_slash, parts_of_not_mem (by simp [hs]), hrest,
        Climbs] at h
      rw [heq, hnew, climbs_scoped, List.foldl_cons, push_plain hmerged]
      refine up_not_mem_foldl_of_length_le (fun hu => ?_) hlength ?_
      · rcases List.mem_cons.mp hu with hu | hu
        · exact hmerged.2.2 hu.symm
        · exact absurd hu (by decide)
      · simpa [push_plain hhead] using h
  · rw [definitelyTyped_plain hat, String.toList_append, parts_scoped, climbs_scoped]
    exact up_not_mem_foldl_of_length_le (by decide) (Nat.zero_le _) h

end Package

end DeclarationFetch
