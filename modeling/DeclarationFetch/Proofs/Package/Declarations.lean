import DeclarationFetch.Proofs.Package.Keys
import DeclarationFetch.Proofs.Path.Normal

/-! # Where declarations for another package are put

* `infix_typesScope_iff`: the scope of declarations occurs in a path where a part other than the last ends
  in it.
* `hostPath_eq_place`, `hostPath_typesScope`: the places of files, with the scope left out.
* `hostPath_definitelyTyped`: a package in no scope is where its declarations are put, and one in a scope is
  not.
-/

namespace DeclarationFetch

namespace Text

theorem replaceFirstIn_eq_self {find text : List Char} (put : List Char) (hf : find ≠ [])
    (h : ¬ find <:+: text) : replaceFirstIn find put text = text := by
  rcases replaceFirstIn_cases hf put text with heq | ⟨front, rest, heq, -⟩
  · exact heq
  · exact absurd ⟨front, rest, heq.symm⟩ h

theorem replaceFirstIn_append {c : Char} {front : List Char} (h : c ∉ front) (find put rest : List Char) :
    replaceFirstIn (c :: find) put (front ++ (c :: find) ++ rest) = front ++ put ++ rest := by
  induction front with
  | nil =>
    have hstarts : (c :: find).isPrefixOf (c :: (find ++ rest)) = true :=
      List.isPrefixOf_iff_prefix.mpr ⟨rest, rfl⟩
    show replaceFirstIn (c :: find) put (c :: (find ++ rest)) = put ++ rest
    rw [replaceFirstIn, if_pos hstarts]
    simp
  | cons d front ih =>
    have hstarts : ¬ (c :: find).isPrefixOf (d :: (front ++ (c :: find) ++ rest)) = true := by
      rw [List.isPrefixOf_iff_prefix, List.cons_prefix_cons]
      exact fun hp => h (hp.1 ▸ List.mem_cons_self ..)
    show replaceFirstIn (c :: find) put (d :: (front ++ (c :: find) ++ rest)) = _
    rw [replaceFirstIn, if_neg hstarts, ih fun hm => h (List.mem_cons_of_mem _ hm)]
    rfl

end Text

namespace Package

open DeclarationFetch.Path

variable {path : String}

/-! ## Where the scope occurs -/

theorem infix_typesScope_iff {text : List Char} :
    typesScope.toList <:+: text ↔ ∃ p ∈ (parts text).dropLast, scope <:+ p := by
  constructor
  · rintro ⟨front, tail, rfl⟩
    obtain ⟨initial, last, hfront⟩ := (parts front).eq_nil_or_concat.resolve_left (parts_ne_nil front)
    rw [List.concat_eq_append] at hfront
    rw [parts_around_scope hfront, List.append_cons, List.dropLast_append_of_ne_nil (parts_ne_nil tail)]
    exact ⟨last ++ scope, by simp, List.suffix_append last scope⟩
  · rintro ⟨p, hp, before, rfl⟩
    obtain ⟨initial, last, hlast⟩ := (parts text).eq_nil_or_concat.resolve_left (parts_ne_nil text)
    rw [hlast, List.concat_eq_append, List.dropLast_concat] at hp
    obtain ⟨front, back, hsplit⟩ := List.append_of_mem hp
    have htext : text = unparts (front ++ ((before ++ scope) :: (back ++ [last]))) := by
      rw [← unparts_parts text, hlast, hsplit]
      simp
    have htail : typesScope.toList <:+: unparts ((before ++ scope) :: (back ++ [last])) := by
      rw [unparts_cons _ (by simp), toList_typesScope]
      exact ⟨before, unparts (back ++ [last]), by simp⟩
    rw [htext]
    by_cases hfront : front = []
    · rw [hfront]
      exact htail
    · rw [unparts_append_of_ne_nil hfront (by simp)]
      exact htail.trans ⟨unparts front ++ ['/'], [], by simp⟩

/-! ## Places -/

theorem placeParts_straight (name : String) (hpath : Straight path) :
    placeParts name path = reduce false (parts name.toList) ++ parts path.toList := by
  rw [placeParts, reduce_of_plain hpath]

theorem place_inj {l l' : List (List Char)} (hl : ∀ p ∈ l, '/' ∉ p) (hl' : ∀ p ∈ l', '/' ∉ p)
    (hne : l ≠ []) (hne' : l' ≠ []) (h : String.ofList (unparts l) = String.ofList (unparts l')) :
    l = l' := by
  have hchars := congrArg String.toList h
  rw [String.toList_ofList, String.toList_ofList] at hchars
  rw [← parts_unparts hne hl, ← parts_unparts hne' hl', hchars]

theorem slash_not_mem_place {name : String} (hn : ¬ Climbs (parts name.toList)) (hpath : Straight path) :
    ∀ p ∈ directory :: placeParts name path, '/' ∉ p := fun p hp =>
  (List.mem_cons.mp hp).elim (fun h => h ▸ by decide) fun hp =>
    (plain_of_mem_placeParts hn hpath.lands hp).2

theorem not_climbs_word {word : String} (hslash : '/' ∉ word.toList) (hup : word ≠ "..") :
    ¬ Climbs (parts word.toList) := by
  rw [parts_of_not_mem hslash]
  rcases dropped_or_up_or_plain word.toList with hd | hu | hp
  · rw [Climbs, List.foldl_cons, push_dropped hd]
    exact List.not_mem_nil
  · exact absurd (String.toList_inj.mp hu) hup
  · exact not_climbs_of_plain (by simpa using hp)

theorem hostPath_eq_place {name : String} (hn : ¬ Climbs (parts name.toList)) (hpath : Straight path)
    (hfree : ¬ typesScope.toList <:+: path.toList)
    (hname : ∀ p ∈ reduce false (parts name.toList), ¬ scope <:+ p) :
    hostPath name path = String.ofList (unparts (directory :: placeParts name path)) := by
  have hnone : ¬ typesScope.toList <:+: unparts (directory :: placeParts name path) := by
    rw [infix_typesScope_iff, parts_unparts (List.cons_ne_nil _ _) (slash_not_mem_place hn hpath),
      placeParts_straight name hpath, ← List.cons_append, List.dropLast_append_of_ne_nil (parts_ne_nil _)]
    rintro ⟨p, hp, hscope⟩
    rcases List.mem_append.mp hp with hp | hp
    · rcases List.mem_cons.mp hp with rfl | hp
      · exact absurd (hscope.subset (by decide : '@' ∈ scope)) (by decide)
      · exact hname p hp hscope
    · exact hfree (infix_typesScope_iff.mpr ⟨p, hp, hscope⟩)
  have hchars : (String.ofList (unparts (directory :: placeParts name path))).toList =
      unparts (directory :: placeParts name path) := String.toList_ofList
  rw [hostPath, join_directory hn hpath.lands, Text.replaceFirst, hchars,
    Text.replaceFirstIn_eq_self _ (by decide) hnone]

section TypesScope

variable {word : String}

theorem parts_typesScope (hslash : '/' ∉ word.toList) :
    parts (typesScope ++ word).toList = [scope, word.toList] := by
  rw [String.toList_append, parts_scoped, parts_of_not_mem hslash]

theorem placeParts_typesScope (hslash : '/' ∉ word.toList) (hup : word ≠ "..") (path : String) :
    placeParts (typesScope ++ word) path = scope :: placeParts word path := by
  have hscope : Plain scope := by decide
  have hreduce : reduce false [scope, word.toList] = scope :: reduce false [word.toList] := by
    rcases dropped_or_up_or_plain word.toList with hd | hu | hp
    · simp only [reduce, List.foldl_cons, push_plain hscope, push_dropped hd]
      rfl
    · exact absurd (String.toList_inj.mp hu) hup
    · rw [reduce_of_plain (by simp [hscope, hp]), reduce_of_plain (by simp [hp])]
  rw [placeParts, placeParts, parts_typesScope hslash, hreduce, parts_of_not_mem hslash]
  rfl

theorem hostPath_typesScope (hslash : '/' ∉ word.toList) (hup : word ≠ "..") (hpath : Straight path) :
    hostPath (typesScope ++ word) path = String.ofList (unparts (directory :: placeParts word path)) := by
  have hclimbs : ¬ Climbs (parts (typesScope ++ word).toList) := by
    rw [parts_typesScope hslash]
    exact not_climbs_pair (by decide) _
  have hne : placeParts word path ≠ [] := by
    rw [placeParts_straight word hpath]
    exact List.append_ne_nil_of_right_ne_nil _ (parts_ne_nil _)
  have hchars : (String.ofList (unparts (directory :: scope :: placeParts word path))).toList =
      (directory ++ ['/']) ++ typesScope.toList ++ unparts (placeParts word path) := by
    rw [String.toList_ofList, unparts_cons _ (List.cons_ne_nil _ _), unparts_cons _ hne, toList_typesScope]
    simp
  have hat : '@' ∉ directory ++ ['/'] := by decide
  rw [hostPath, join_directory hclimbs hpath.lands, placeParts_typesScope hslash hup, Text.replaceFirst, hchars,
    unparts_cons _ hne]
  refine congrArg String.ofList ((Text.replaceFirstIn_append hat "types/".toList [] _).trans ?_)
  simp

end TypesScope

/-! ## Names and their declarations -/

/-- The word by which declarations for a package are named. -/
def Name.declared : Name → String
  | .plain word => word.text
  | .within outer word => outer.text ++ "__" ++ word.text

theorem definitelyTyped_eq (name : Name) : definitelyTyped name.text = typesScope ++ name.declared := by
  cases name with
  | plain word =>
    refine definitelyTyped_plain fun hat => ?_
    obtain ⟨_, _, h⟩ := (head_withVersion (.plain word) none).mp hat
    cases h
  | within outer word =>
    rw [← String.toList_inj, toList_definitelyTyped_scoped (toList_within outer word)]
    show _ = (typesScope ++ (outer.text ++ "__" ++ word.text)).toList
    rw [String.toList_append]
    congr 1
    rcases Text.replaceFirstIn_slash "__".toList (outer.text.toList ++ '/' :: word.text.toList) with
      ⟨hs, -⟩ | ⟨front, rest, hs, hsplit, heq⟩
    · exact absurd (List.mem_append_right _ (List.mem_cons_self ..)) hs
    · obtain ⟨rfl, hrest⟩ := Text.append_inj_of_mark outer.no_slash hs (by simp) (by simp) hsplit
      obtain rfl := (List.cons.inj hrest).2
      rw [heq]
      simp only [String.toList_append]

/-! ### A package in no scope -/

theorem hostPath_plain (word : Word) (hup : word.text ≠ "..") (hpath : Straight path)
    (hfree : ¬ typesScope.toList <:+: path.toList) :
    hostPath (definitelyTyped (Name.plain word).text) path = hostPath word.text path := by
  have hname : ∀ p ∈ reduce false (parts word.text.toList), ¬ scope <:+ p := by
    intro p hp hscope
    have hmem := (mem_reduce hp).1
    rw [parts_of_not_mem word.no_slash, List.mem_singleton] at hmem
    exact word.no_at (hmem ▸ hscope.subset (by decide))
  rw [definitelyTyped_eq, hostPath_eq_place (not_climbs_word word.no_slash hup) hpath hfree hname]
  exact hostPath_typesScope word.no_slash hup hpath

theorem join_parent (hpath : Straight path) : join ["node_modules", "..", path] = path := by
  have hparts : (["node_modules", "..", path].map String.toList).flatMap parts =
      directory :: up :: parts path.toList := by simp; rfl
  have hleft : reduce false (directory :: up :: parts path.toList) = parts path.toList :=
    reduce_of_plain hpath
  rw [join_eq_unparts, hparts, hleft, unparts_parts, String.ofList_toList]
  · rw [head_joined (by decide)]
    decide
  · exact getLast?_joined hpath.ne_empty ["node_modules", ".."] ▸ hpath.last_ne_slash
  · rw [hparts, hleft]
    exact parts_ne_nil _

theorem hostPath_parent (hpath : Straight path) (hfree : ¬ typesScope.toList <:+: path.toList) :
    hostPath ".." path = path := by
  rw [hostPath, join_parent hpath, Text.replaceFirst, Text.replaceFirstIn_eq_self _ (by decide) hfree,
    String.ofList_toList]

/-- A name that leads up leads out of the directory of all packages, but its declarations stay there. -/
theorem hostPath_up (hpath : Straight path) (hfree : ¬ typesScope.toList <:+: path.toList) :
    hostPath (typesScope ++ "..") path ≠ hostPath ".." path := by
  have hclimbs : ¬ Climbs (parts (typesScope ++ "..").toList) := by decide
  have hreduce : reduce false (parts (typesScope ++ "..").toList) = [] := by decide
  have hplace : placeParts (typesScope ++ "..") path = parts path.toList := by
    rw [placeParts_straight _ hpath, hreduce]
    rfl
  rw [hostPath_parent hpath hfree, hostPath_eq_place hclimbs hpath hfree (by rw [hreduce]; simp), hplace]
  intro h
  have hlength := congrArg (fun s => s.toList.length) h
  simp only [String.toList_ofList, unparts_cons _ (parts_ne_nil _), unparts_parts, List.length_append,
    List.length_cons] at hlength
  omega

/-! ### A package in a scope -/

section Within

variable (outer word : Word)

theorem toList_declared : (Name.within outer word).declared.toList =
    outer.text.toList ++ "__".toList ++ word.text.toList := by
  rw [← String.toList_append, ← String.toList_append]
  rfl

theorem slash_not_mem_declared : '/' ∉ (Name.within outer word).declared.toList := by
  have hmark : '/' ∉ "__".toList := by decide
  simp only [toList_declared, List.mem_append, not_or]
  exact ⟨⟨outer.no_slash, hmark⟩, word.no_slash⟩

theorem plain_declared : Plain (Name.within outer word).declared.toList := by
  refine plain_of_mem (c := '_') ?_ (by decide)
  rw [toList_declared]
  exact List.mem_append_left _ (List.mem_append_right _ (by decide))

theorem declared_ne_up : (Name.within outer word).declared ≠ ".." := fun h =>
  (plain_declared outer word).2.2 (h ▸ rfl)

theorem placeParts_declared (hpath : Straight path) : placeParts (Name.within outer word).declared path =
    (Name.within outer word).declared.toList :: parts path.toList := by
  rw [placeParts_straight _ hpath, parts_of_not_mem (slash_not_mem_declared outer word),
    reduce_of_plain (by simpa using plain_declared outer word)]
  rfl

theorem parts_text :
    parts (Name.within outer word).text.toList = ['@' :: outer.text.toList, word.text.toList] := by
  have hparts := parts_within outer word none
  rwa [mark, List.append_nil] at hparts

theorem hostPath_within (hpath : Straight path) :
    hostPath (definitelyTyped (Name.within outer word).text) path =
      "node_modules/" ++ outer.text ++ "__" ++ word.text ++ "/" ++ path := by
  rw [definitelyTyped_eq,
    hostPath_typesScope (slash_not_mem_declared outer word) (declared_ne_up outer word) hpath,
    placeParts_declared outer word hpath, ← String.toList_inj, String.toList_ofList,
    unparts_cons _ (List.cons_ne_nil _ _), unparts_cons _ (parts_ne_nil _), unparts_parts, toList_declared]
  simp only [String.toList_append, List.append_assoc]
  rfl

variable {outer word}

theorem scope_not_suffix (hout : Text.startsWith (Name.within outer word).text typesScope = false)
    {p : List Char} (hp : p ∈ parts (Name.within outer word).text.toList) : ¬ scope <:+ p := by
  have hat : '@' ∈ scope := by decide
  intro hscope
  rw [parts_text] at hp
  rcases List.mem_cons.mp hp with rfl | hp
  · rcases List.suffix_cons_iff.mp hscope with heq | hsuffix
    · refine startsWith_eq_false.mp hout ⟨word.text.toList, ?_⟩
      rw [toList_within, ← List.cons_append, ← heq, toList_typesScope, List.append_assoc]
      rfl
    · exact outer.no_at (hsuffix.subset hat)
  · exact word.no_at (List.mem_singleton.mp hp ▸ hscope.subset hat)

/-- A package in a scope is in the directory of its scope, where its declarations are not. -/
theorem hostPath_within_ne (hout : Text.startsWith (Name.within outer word).text typesScope = false)
    (hpath : Straight path) (hfree : ¬ typesScope.toList <:+: path.toList) :
    hostPath (definitelyTyped (Name.within outer word).text) path ≠
      hostPath (Name.within outer word).text path := by
  have hplain : Plain ('@' :: outer.text.toList) := plain_of_mem (List.mem_cons_self ..) (by decide)
  have hclimbs : ¬ Climbs (parts (Name.within outer word).text.toList) := by
    rw [parts_text]
    exact not_climbs_pair hplain _
  have hclimbs' := not_climbs_word (slash_not_mem_declared outer word) (declared_ne_up outer word)
  rw [definitelyTyped_eq,
    hostPath_typesScope (slash_not_mem_declared outer word) (declared_ne_up outer word) hpath,
    hostPath_eq_place hclimbs hpath hfree fun p hp => scope_not_suffix hout (mem_reduce hp).1]
  intro h
  have hplaces := place_inj (slash_not_mem_place hclimbs' hpath) (slash_not_mem_place hclimbs hpath)
    (List.cons_ne_nil _ _) (List.cons_ne_nil _ _) h
  rw [List.cons.injEq, placeParts_declared outer word hpath, placeParts_straight _ hpath,
    ← List.singleton_append, List.append_cancel_right_eq] at hplaces
  have hmem : (Name.within outer word).declared.toList ∈ reduce false (parts (Name.within outer word).text.toList) :=
    hplaces.2 ▸ List.mem_singleton_self _
  have hpart := (mem_reduce hmem).1
  rw [parts_text, toList_declared] at hpart
  rcases List.mem_cons.mp hpart with heq | hpart
  · -- the name of the declarations has no at sign
    have hat : '@' ∈ outer.text.toList ++ "__".toList ++ word.text.toList := heq ▸ List.mem_cons_self ..
    have hmark : '@' ∉ "__".toList := by decide
    simp only [List.mem_append] at hat
    exact hat.elim (fun h => h.elim outer.no_at hmark) word.no_at
  · -- and is longer than the word
    have hlength := congrArg List.length (List.mem_singleton.mp hpart)
    have hmark : "__".toList.length = 2 := by decide
    simp only [List.length_append] at hlength
    omega

end Within

/-- The declarations for a package are put where the package is looked up if it is in no scope. Those for
a package in a scope are put in a directory of their own, named by the scope and the word. -/
theorem hostPath_definitelyTyped (name : Name) (hout : Text.startsWith name.text typesScope = false)
    (hin : Inside path) (hnormal : normalize path = path) (hhere : path ≠ ".")
    (hfree : ¬ typesScope.toList <:+: path.toList) :
    (hostPath (definitelyTyped name.text) path = hostPath name.text path ↔
      ∃ word, name = .plain word ∧ word.text ≠ "..") ∧
    ∀ outer word, name = .within outer word → hostPath (definitelyTyped name.text) path =
      "node_modules/" ++ outer.text ++ "__" ++ word.text ++ "/" ++ path := by
  have hpath := straight_of_normal hin hnormal hhere
  refine ⟨?_, fun outer word hname => hname ▸ hostPath_within outer word hpath⟩
  -- only a plain name has its declarations where it is placed itself
  cases name with
  | plain word =>
    by_cases hup : word.text = ".."
    · refine iff_of_false ?_ ?_
      · rw [definitelyTyped_eq]
        show hostPath (typesScope ++ word.text) path ≠ hostPath word.text path
        rw [hup]
        exact hostPath_up hpath hfree
      · rintro ⟨word', hname, hne⟩
        cases hname
        exact hne hup
    · exact iff_of_true (hostPath_plain word hup hpath hfree) ⟨word, rfl, hup⟩
  | within outer word =>
    refine iff_of_false (hostPath_within_ne hout hpath hfree) ?_
    rintro ⟨word', hname, -⟩
    cases hname

namespace Scoped

def core : Name := .within ⟨"babel", by decide, by decide, by decide⟩ ⟨"core", by decide, by decide, by decide⟩

def lodash : Name := .plain ⟨"lodash", by decide, by decide, by decide⟩

theorem not_infix_of_no_at (h : '@' ∉ path.toList) : ¬ typesScope.toList <:+: path.toList := fun hoccurs =>
  h (hoccurs.subset (by decide))

/-- A package in no scope, and one in a scope. -/
theorem names_told : Text.startsWith lodash.text typesScope = false ∧
    Text.startsWith core.text typesScope = false ∧
    Inside "fp/map.d.ts" ∧ normalize "fp/map.d.ts" = "fp/map.d.ts" ∧ "fp/map.d.ts" ≠ "." ∧
    ¬ typesScope.toList <:+: "fp/map.d.ts".toList ∧
    hostPath (definitelyTyped lodash.text) "fp/map.d.ts" = hostPath lodash.text "fp/map.d.ts" ∧
    hostPath (definitelyTyped core.text) "fp/map.d.ts" = "node_modules/babel__core/fp/map.d.ts" := by
  have hlodash : Text.startsWith lodash.text typesScope = false := by decide
  have hcore : Text.startsWith core.text typesScope = false := by decide
  have hin : Inside "fp/map.d.ts" := by decide
  have hnormal : normalize "fp/map.d.ts" = "fp/map.d.ts" := by decide
  have hhere : "fp/map.d.ts" ≠ "." := by decide
  have hfree : ¬ typesScope.toList <:+: "fp/map.d.ts".toList := not_infix_of_no_at (by decide)
  refine ⟨hlodash, hcore, hin, hnormal, hhere, hfree, ?_, ?_⟩
  · exact (hostPath_definitelyTyped lodash hlodash hin hnormal hhere hfree).1.mpr ⟨_, rfl, by decide⟩
  · exact ((hostPath_definitelyTyped core hcore hin hnormal hhere hfree).2 _ _ rfl).trans (by decide)

/-- The declarations for a package in a scope are not where it is looked up. -/
theorem core_apart : core.text = "@babel/core" ∧ Text.startsWith core.text typesScope = false ∧
    Inside "index.d.ts" ∧ normalize "index.d.ts" = "index.d.ts" ∧
    ¬ typesScope.toList <:+: "index.d.ts".toList ∧
    hostPath (definitelyTyped core.text) "index.d.ts" = "node_modules/babel__core/index.d.ts" ∧
    hostPath core.text "index.d.ts" = "node_modules/@babel/core/index.d.ts" ∧
    hostPath (definitelyTyped core.text) "index.d.ts" ≠ hostPath core.text "index.d.ts" :=
  ⟨by decide, by decide, by decide, by decide, not_infix_of_no_at (by decide), by decide, by decide, by decide⟩

end Scoped

end Package

end DeclarationFetch
