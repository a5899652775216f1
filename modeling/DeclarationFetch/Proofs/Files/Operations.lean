import DeclarationFetch.Proofs.Files.Routes

/-! # Operations on file trees

What each operation does to the nodes of a tree, and when it succeeds.

* `Grows`: between two trees only directories have come into being.
* `makeUp_keeps`: what every new directory keeps is kept when all directories of a route are made.
* `makeAll_grows`, `makeAll_status`: directories are made and nothing else happens.
* `plantAt_cases`: a file is planted, or the operation fails and has made directories at most.
* `plantAt_along`: these directories are on the way to the file, and all else is as before.
* `Listed.plantAt`: a tree that lists each location once goes on doing so.
* `remove_of_file`: a file is removed with nothing that a route leads to.
* `read_of_file`, `Content.joinLines_eq_self_iff`: what is read, and when it is what was written.
* `node?_clean`: the nodes after several locations are pruned.
-/

namespace DeclarationFetch

/-! ## Texts as they are read -/

namespace Content

theorem not_mem_joinLines (cs : List Char) : '\r' ∉ joinLines cs := by
  induction cs using joinLines.induct with
  | case1 => exact List.not_mem_nil
  | case2 rest ih =>
    rw [joinLines]
    simpa using ih
  | case3 c rest hnext ih =>
    rw [joinLines.eq_3 _ _ hnext, List.mem_cons, not_or]
    refine ⟨fun h => ?_, ih⟩
    split at h
    · cases h
    · next hc => exact hc h.symm

theorem joinLines_of_not_mem {cs : List Char} (h : '\r' ∉ cs) : joinLines cs = cs := by
  induction cs using joinLines.induct with
  | case1 => rfl
  | case2 rest ih => simp at h
  | case3 c rest hnext ih =>
    have hc : c ≠ '\r' := fun hc => h (hc ▸ List.mem_cons_self)
    rw [joinLines.eq_3 _ _ hnext, if_neg hc, ih fun hrest => h (List.mem_cons_of_mem c hrest)]

theorem joinLines_eq_self_iff {cs : List Char} : joinLines cs = cs ↔ '\r' ∉ cs :=
  ⟨fun h => h ▸ not_mem_joinLines cs, joinLines_of_not_mem⟩

end Content

namespace FileTree

open Location

theorem read_of_file {t : FileTree} {route : Route} {content : Content}
    (h : t.status route = .ok (.file content)) : t.read route = match content.read? with
      | none => .error .undecodable
      | some text => .ok text := by
  unfold read FileTree.content
  rw [h]
  cases hcontent : content.read? <;> simp [bind, Except.bind, hcontent]

/-! ## Trees that grow -/

/-- Directories may have come where nothing was; all else is as before. -/
def Grows (t t' : FileTree) : Prop :=
  ∀ l, t'.node? l = t.node? l ∨ t.node? l = none ∧ t'.node? l = some .directory

namespace Grows

variable {t t' t'' : FileTree}

theorem refl (t : FileTree) : Grows t t := fun _ => .inl rfl

theorem trans (h : Grows t t') (h' : Grows t' t'') : Grows t t'' := by
  intro l
  rcases h l with hl | ⟨hnone, hl⟩ <;> rcases h' l with hl' | ⟨hnone', hl'⟩
  · exact .inl (hl'.trans hl)
  · exact .inr ⟨hl ▸ hnone', hl'⟩
  · exact .inr ⟨hnone, hl'.trans hl⟩
  · exact .inr ⟨hnone, hl'⟩

theorem node (h : Grows t t') {l : Location} {node : Node} (hl : t.node? l = some node) :
    t'.node? l = some node := by
  rcases h l with hl' | ⟨hnone, -⟩
  · exact hl'.trans hl
  · rw [hl] at hnone
    cases hnone

theorem file_iff (h : Grows t t') {l : Location} {content : Content} :
    t'.node? l = some (.file content) ↔ t.node? l = some (.file content) := by
  refine ⟨fun hl' => ?_, h.node⟩
  rcases h l with hl | ⟨-, hl⟩
  · exact hl ▸ hl'
  · rw [hl'] at hl
    cases hl

theorem status (h : Grows t t') {route : Route} {node : Node} (hr : t.status route = .ok node) :
    t'.status route = .ok node := by
  obtain ⟨⟨hsize, hopens⟩, hnode⟩ := status_eq_ok_iff.mp hr
  exact status_eq_ok_iff.mpr ⟨⟨hsize, hopens.mono fun _ => h.node⟩, h.node hnode⟩

theorem put_directory {l : Location} (hnone : t.node? l = none) : Grows t (t.put l .directory) := by
  have hroot : l ≠ root := fun h => by simp [h] at hnone
  intro other
  rw [node?_put t hroot]
  by_cases h : other = l
  · exact .inr ⟨h ▸ hnone, if_pos h⟩
  · exact .inl (if_neg h)

end Grows

/-! ## Directories -/

variable {t t' : FileTree} {route : Route}

theorem make_eq_ok_iff : t.make route = .ok t' ↔
    t.Reaches route ∧ t.node? (ofRoute route) = none ∧ t' = t.put (ofRoute route) .directory := by
  unfold make
  rw [goto_bind_eq_ok_iff]
  cases t.node? (ofRoute route) <;> simp [eq_comm]

theorem make_grows (h : t.make route = .ok t') : Grows t t' := by
  obtain ⟨-, hnone, rfl⟩ := make_eq_ok_iff.mp h
  exact Grows.put_directory hnone

theorem make_status (h : t.make route = .ok t') : t'.status route = .ok .directory := by
  have hgrows := make_grows h
  obtain ⟨⟨hsize, hopens⟩, hnone, rfl⟩ := make_eq_ok_iff.mp h
  have hroot : ofRoute route ≠ root := fun h => by simp [h] at hnone
  exact status_eq_ok_iff.mpr
    ⟨⟨hsize, hopens.mono fun _ => hgrows.node⟩, by rw [node?_put t hroot, if_pos rfl]⟩

theorem orDirectory_make (t : FileTree) (route : Route) :
    (∃ t', t.make route = .ok t' ∧ t.orDirectory route (t.make route) = (.ok (), t')) ∨
      (t.orDirectory route (t.make route)).2 = t ∧
        ((t.orDirectory route (t.make route)).1 = .ok () → t.status route = .ok .directory) := by
  cases hmake : t.make route with
  | ok t' => exact .inl ⟨t', rfl, rfl⟩
  | error fault =>
    refine .inr ⟨rfl, fun hok => ?_⟩
    simp only [orDirectory] at hok
    cases hdirectory : t.isDirectory route with
    | error other => rw [hdirectory] at hok; cases hok
    | ok there =>
      rw [hdirectory] at hok
      cases there with
      | true => exact isDirectory_eq_true_iff.mp hdirectory
      | false => cases hok

theorem orDirectory_make_status (h : (t.orDirectory route (t.make route)).1 = .ok ()) :
    (t.orDirectory route (t.make route)).2.status route = .ok .directory := by
  rcases orDirectory_make t route with ⟨t', hmake, hmade⟩ | ⟨hsame, hstatus⟩
  · rw [hmade]
    exact make_status hmake
  · rw [hsame]
    exact hstatus h

/-- What every new directory on the way keeps is kept when all directories of a route are made. -/
theorem makeUp_keeps_along {P : FileTree → Prop} {above : Route}
    (hput : ∀ {t : FileTree} {front : Route}, front <+: above.reverse → P t →
      t.node? (ofRoute front) = none → P (t.put (ofRoute front) .directory))
    {t : FileTree} (h : P t) : P (t.makeUp above).2 := by
  have hmakes : ∀ {t : FileTree} (route : Route), route <+: above.reverse → P t →
      P (t.orDirectory route (t.make route)).2 := by
    intro t route hroute ht
    rcases orDirectory_make t route with ⟨t', hmake, hmade⟩ | ⟨hsame, -⟩
    · obtain ⟨-, hnone, rfl⟩ := make_eq_ok_iff.mp hmake
      rw [hmade]
      exact hput hroute ht hnone
    · rwa [hsame]
  -- Every directory that is made on the way is in front of the one that is wanted.
  induction above with
  | nil => exact h
  | cons name above ih =>
    have hshorter : above.reverse <+: (name :: above).reverse := by
      rw [List.reverse_cons]
      exact List.prefix_append _ _
    have ih := ih (fun hfront => hput (hfront.trans hshorter))
      (fun route hroute => hmakes route (hroute.trans hshorter))
    unfold makeUp
    dsimp only
    split
    · split
      · next made =>
        rw [made] at ih
        exact hmakes _ (List.prefix_refl _) ih
      · exact ih
    · exact hmakes _ (List.prefix_refl _) h

theorem makeUp_keeps {P : FileTree → Prop} (hput : ∀ {t : FileTree} {l : Location}, P t →
    t.node? l = none → P (t.put l .directory)) {t : FileTree} (h : P t) (above : Route) :
    P (t.makeUp above).2 :=
  makeUp_keeps_along (fun _ ht hnone => hput ht hnone) h

theorem makeUp_status {above : Route} (h : (t.makeUp above).1 = .ok ()) :
    (t.makeUp above).2.status above.reverse = .ok .directory := by
  cases above with
  | nil => rfl
  | cons name above =>
    unfold makeUp at h ⊢
    dsimp only at h ⊢
    split at h
    · split at h
      · exact orDirectory_make_status h
      · next hfailed => exact (hfailed () _ (Prod.ext h rfl)).elim
    · exact orDirectory_make_status h

theorem makeAll_grows (t : FileTree) (route : Route) : Grows t (t.makeAll route).2 :=
  makeUp_keeps (fun hgrows hnone => hgrows.trans (Grows.put_directory hnone)) (Grows.refl t) _

theorem makeAll_status (h : (t.makeAll route).1 = .ok ()) :
    (t.makeAll route).2.status route = .ok .directory := by
  have hspec := makeUp_status h
  rwa [List.reverse_reverse] at hspec

/-- Directories may have come on the way along a route where nothing was; all else is as before. -/
def GrowsAlong (route : Route) (t t' : FileTree) : Prop := ∀ l, t'.node? l = t.node? l ∨
  t.node? l = none ∧ t'.node? l = some .directory ∧ ∃ front, front <+: route ∧ ofRoute front = l

theorem GrowsAlong.put_directory {front : Route} (h : GrowsAlong route t t') (hfront : front <+: route)
    (hnone : t'.node? (ofRoute front) = none) : GrowsAlong route t (t'.put (ofRoute front) .directory) := by
  have hroot : ofRoute front ≠ root := fun heq => by simp [heq] at hnone
  intro l
  rw [node?_put t' hroot]
  by_cases hl : l = ofRoute front
  · subst hl
    rw [if_pos rfl]
    rcases h (ofRoute front) with hsame | ⟨hfree, -⟩
    · exact .inr ⟨hsame ▸ hnone, rfl, front, hfront, rfl⟩
    · exact .inr ⟨hfree, rfl, front, hfront, rfl⟩
  · rw [if_neg hl]
    exact h l

theorem makeAll_along (t : FileTree) (route : Route) : GrowsAlong route t (t.makeAll route).2 := by
  refine makeUp_keeps_along (fun hfront halong hnone => ?_) fun l => .inl rfl
  rw [List.reverse_reverse] at hfront
  exact halong.put_directory hfront hnone

theorem makeUp_of_make {name : String} {above : Route} {made : Except FileFault FileTree}
    (h : t.make (name :: above).reverse = made) (hfound : made ≠ .error .notFound) :
    t.makeUp (name :: above) = t.orDirectory (name :: above).reverse made := by
  unfold makeUp
  dsimp only
  rw [h]
  split
  · exact absurd rfl hfound
  · rfl

theorem makeAll_of_make {name : String} {made : Except FileFault FileTree}
    (h : t.make (route ++ [name]) = made) (hfound : made ≠ .error .notFound) :
    t.makeAll (route ++ [name]) = t.orDirectory (route ++ [name]) made := by
  have hreverse : (name :: route.reverse).reverse = route ++ [name] := by simp
  unfold makeAll
  rw [List.reverse_append, List.reverse_singleton, List.singleton_append,
    makeUp_of_make (hreverse ▸ h) hfound, hreverse]

theorem makeAll_of_directory (h : t.status route = .ok .directory) : t.makeAll route = (.ok (), t) := by
  rcases List.eq_nil_or_concat route with rfl | ⟨front, name, hroute⟩
  · rfl
  obtain rfl : route = front ++ [name] := hroute.trans List.concat_eq_append
  obtain ⟨hreaches, hnode⟩ := status_eq_ok_iff.mp h
  have hmake : t.make (front ++ [name]) = .error .alreadyExists := by
    unfold make
    rw [goto_eq_ok_iff.mpr ⟨hreaches, rfl⟩]
    simp only [bind, Except.bind, hnode]
  rw [makeAll_of_make hmake (by simp), orDirectory, isDirectory_eq_true_iff.mpr h]
  rfl

theorem makeAll_of_reaches {name : String} (hreaches : t.Reaches (route ++ [name]))
    (hnone : t.node? (ofRoute (route ++ [name])) = none) :
    t.makeAll (route ++ [name]) = (.ok (), t.put (ofRoute (route ++ [name])) .directory) := by
  have hmake := make_eq_ok_iff.mpr ⟨hreaches, hnone, rfl⟩
  rw [makeAll_of_make hmake (by simp)]
  rfl

/-! ## Files -/

theorem write_eq_ok_iff {content : Content} : t.write route content = .ok t' ↔
    t.Reaches route ∧ t.node? (ofRoute route) ≠ some .directory ∧
      t' = t.put (ofRoute route) (.file content) := by
  unfold write
  rw [goto_bind_eq_ok_iff]
  rcases t.node? (ofRoute route) with _ | _ | _ <;> simp [eq_comm]

/-- A file is planted in a tree that has grown, or the tree has grown and that is all. -/
theorem plantAt_cases (t : FileTree) (route : Route) (content : Content) :
    (∃ grown, Grows t grown ∧ grown.Reaches route ∧ grown.node? (ofRoute route) ≠ some .directory ∧
      t.plantAt route content = (.ok (), grown.put (ofRoute route) (.file content))) ∨
    Grows t (t.plantAt route content).2 ∧ ∃ fault, (t.plantAt route content).1 = .error fault := by
  have hgrows := makeAll_grows t route.dropLast
  unfold plantAt
  obtain ⟨made, hmade⟩ : ∃ made, t.makeAll route.dropLast = made := ⟨_, rfl⟩
  obtain ⟨result, grown⟩ := made
  rw [hmade] at hgrows ⊢
  cases result with
  | error fault => exact .inr ⟨hgrows, fault, rfl⟩
  | ok _ =>
    cases hwrite : grown.write route content with
    | error fault =>
      simp only [hwrite]
      exact .inr ⟨hgrows, fault, rfl⟩
    | ok t' =>
      obtain ⟨hreaches, hnode, rfl⟩ := write_eq_ok_iff.mp hwrite
      exact .inl ⟨grown, hgrows, hreaches, hnode, by simp [hwrite]⟩

theorem ne_root_of_not_directory {l : Location} (h : t.node? l ≠ some .directory) : l ≠ root :=
  fun hroot => h (hroot ▸ node?_root t)

theorem plantAt_along (t : FileTree) (route : Route) (content : Content) (l : Location) :
    (t.plantAt route content).2.node? l = t.node? l ∨
    (t.node? l = none ∧ (t.plantAt route content).2.node? l = some .directory ∧
      ∃ front, front <+: route.dropLast ∧ ofRoute front = l) ∨
    (l = ofRoute route ∧ (t.plantAt route content).1 = .ok () ∧ t.node? l ≠ some .directory ∧
      (t.plantAt route content).2.node? l = some (.file content)) := by
  have halong := makeAll_along t route.dropLast
  have hgrows := makeAll_grows t route.dropLast
  unfold plantAt
  obtain ⟨made, hmade⟩ : ∃ made, t.makeAll route.dropLast = made := ⟨_, rfl⟩
  obtain ⟨result, grown⟩ := made
  rw [hmade] at halong hgrows ⊢
  cases result with
  | error fault => exact (halong l).imp_right .inl
  | ok _ =>
    cases hwrite : grown.write route content with
    | error fault =>
      simp only [hwrite]
      exact (halong l).imp_right .inl
    | ok t' =>
      obtain ⟨-, hfree, rfl⟩ := write_eq_ok_iff.mp hwrite
      simp only [hwrite]
      rw [node?_put grown (ne_root_of_not_directory hfree)]
      by_cases hl : l = ofRoute route
      · refine .inr (.inr ⟨hl, trivial, fun hdirectory => hfree ?_, if_pos hl⟩)
        exact hl ▸ hgrows.node hdirectory
      · rw [if_neg hl]
        exact (halong l).imp_right .inl

theorem plantAt_node {l : Location} {node : Node} (content : Content) (hnode : t.node? l = some node)
    (h : node = .directory ∨ l ≠ ofRoute route) : (t.plantAt route content).2.node? l = some node := by
  rcases plantAt_cases t route content with ⟨grown, hgrows, -, hfree, hplant⟩ | ⟨hgrows, -⟩
  · rw [hplant, node?_put grown (ne_root_of_not_directory hfree)]
    by_cases hl : l = ofRoute route
    · subst hl
      obtain rfl : node = .directory := h.resolve_right fun hne => hne rfl
      exact absurd (hgrows.node hnode) hfree
    · rw [if_neg hl, hgrows.node hnode]
  · exact hgrows.node hnode

theorem file_of_plantAt {l : Location} {planted content : Content} (hl : l ≠ ofRoute route)
    (h : (t.plantAt route planted).2.node? l = some (.file content)) :
    t.node? l = some (.file content) := by
  rcases plantAt_cases t route planted with ⟨grown, hgrows, -, hfree, hplant⟩ | ⟨hgrows, -⟩
  · rw [hplant, node?_put grown (ne_root_of_not_directory hfree), if_neg hl] at h
    exact hgrows.file_iff.mp h
  · exact hgrows.file_iff.mp h

theorem plantAt_status {other : Route} {node : Node} (content : Content)
    (hstatus : t.status other = .ok node) (h : node = .directory ∨ ofRoute other ≠ ofRoute route) :
    (t.plantAt route content).2.status other = .ok node := by
  obtain ⟨⟨hsize, hopens⟩, hnode⟩ := status_eq_ok_iff.mp hstatus
  exact status_eq_ok_iff.mpr ⟨⟨hsize, hopens.mono fun _ hd => plantAt_node content hd (.inl rfl)⟩,
    plantAt_node content hnode h⟩

theorem plantAt_planted {content : Content} (h : (t.plantAt route content).1 = .ok ()) :
    (t.plantAt route content).2.status route = .ok (.file content) := by
  rcases plantAt_cases t route content with ⟨grown, -, ⟨hsize, hopens⟩, hfree, hplant⟩ | ⟨-, fault, herror⟩
  · have hroot := ne_root_of_not_directory hfree
    rw [hplant]
    refine status_eq_ok_iff.mpr ⟨⟨hsize, hopens.mono fun l hd => ?_⟩, ?_⟩
    · rw [node?_put grown hroot, if_neg (fun hl : l = ofRoute route => hfree (hl ▸ hd)), hd]
    · rw [node?_put grown hroot, if_pos rfl]
  · rw [h] at herror
    cases herror

theorem plantAt_of_makeAll {directory : Route} {name : String} {content : Content} {grown : FileTree}
    (hmake : t.makeAll directory = (.ok (), grown)) (hfits : Fits (directory ++ [name]))
    (hfree : grown.node? (ofRoute (directory ++ [name])) ≠ some .directory) :
    t.plantAt (directory ++ [name]) content =
      (.ok (), grown.put (ofRoute (directory ++ [name])) (.file content)) := by
  have hstatus : grown.status directory = .ok .directory := by
    have hmade := makeAll_status (congrArg Prod.fst hmake)
    rwa [hmake] at hmade
  obtain ⟨⟨-, hopens⟩, hdirectory⟩ := status_eq_ok_iff.mp hstatus
  have hreaches : grown.Reaches (directory ++ [name]) :=
    ⟨hfits.1, opens_append.mpr ⟨hopens, hdirectory, hfits.2 name (by simp), trivial⟩⟩
  unfold plantAt
  rw [List.dropLast_concat, hmake]
  simp only [write_eq_ok_iff.mpr ⟨hreaches, hfree, rfl⟩]

theorem plantAt_of_reaches (hreaches : t.Reaches route) (hfree : t.node? (ofRoute route) ≠ some .directory)
    (content : Content) : t.plantAt route content = (.ok (), t.put (ofRoute route) (.file content)) := by
  rcases List.eq_nil_or_concat route with rfl | ⟨front, name, hroute⟩
  · exact absurd (node?_root t) hfree
  obtain rfl : route = front ++ [name] := hroute.trans List.concat_eq_append
  have hfront := makeAll_of_directory (hreaches.front (List.cons_ne_nil name []))
  exact plantAt_of_makeAll hfront hreaches.fits hfree

/-! ## Trees without repetition -/

/-- What is listed in a tree is what is there. -/
def Listed (t : FileTree) : Prop := ∀ entry ∈ t.nodes, t.node? entry.1 = some entry.2

theorem Listed.put (h : t.Listed) {l : Location} (hroot : l ≠ root) (node : Node) :
    (t.put l node).Listed := by
  intro entry hentry
  rw [node?_put t hroot]
  rcases List.mem_append.mp hentry with hold | hnew
  · obtain ⟨hmem, hne⟩ := List.mem_filter.mp hold
    rw [if_neg (by simpa using hne), h entry hmem]
  · obtain rfl := List.mem_singleton.mp hnew
    exact if_pos rfl

theorem Listed.makeAll (h : t.Listed) (route : Route) : (t.makeAll route).2.Listed := by
  refine makeUp_keeps (fun hlisted hnone => hlisted.put ?_ _) h _
  rintro rfl
  cases hnone

theorem Listed.plantAt (h : t.Listed) (route : Route) (content : Content) :
    (t.plantAt route content).2.Listed := by
  have hmade := h.makeAll route.dropLast
  unfold FileTree.plantAt
  split
  · next grown made =>
    rw [made] at hmade
    split
    · next hwrite =>
      obtain ⟨-, hfree, rfl⟩ := write_eq_ok_iff.mp hwrite
      exact hmade.put (ne_root_of_not_directory hfree) _
    · exact hmade
  · exact hmade

/-! ## What only a reader finds -/

theorem make_ne_undecodable (t : FileTree) (route : Route) : t.make route ≠ .error .undecodable := by
  unfold make
  cases hgoto : t.goto route with
  | error fault =>
    intro h
    cases h
    exact goto_ne_undecodable t route hgoto
  | ok l =>
    simp only [bind, Except.bind]
    split <;> exact nofun

theorem orDirectory_ne_undecodable (t : FileTree) (route : Route) {made : Except FileFault FileTree}
    (h : made ≠ .error .undecodable) : (t.orDirectory route made).1 ≠ .error .undecodable := by
  cases made with
  | ok t' => exact nofun
  | error fault =>
    have hlook := isDirectory_ne_undecodable t route
    unfold orDirectory
    cases hdirectory : t.isDirectory route with
    | error other =>
      rw [hdirectory] at hlook
      exact fun hfault => hlook (by cases hfault; rfl)
    | ok there =>
      cases there with
      | true => exact nofun
      | false => exact fun hfault => h (by cases hfault; rfl)

theorem makeUp_ne_undecodable (t : FileTree) (above : Route) :
    (t.makeUp above).1 ≠ .error .undecodable := by
  induction above with
  | nil => exact nofun
  | cons name above ih =>
    have hmake := make_ne_undecodable t (name :: above).reverse
    unfold makeUp
    dsimp only
    split
    · split
      · exact orDirectory_ne_undecodable _ _ (make_ne_undecodable _ _)
      · exact ih
    · exact orDirectory_ne_undecodable _ _ hmake

theorem plantAt_ne_undecodable (t : FileTree) (route : Route) (content : Content) :
    (t.plantAt route content).1 ≠ .error .undecodable := by
  have hmade := makeUp_ne_undecodable t route.dropLast.reverse
  unfold plantAt makeAll
  split
  · next grown _ =>
    cases hgoto : grown.goto route with
    | error fault =>
      simp only [write, hgoto, bind, Except.bind]
      exact fun h => goto_ne_undecodable grown route (by cases h; exact hgoto)
    | ok l =>
      simp only [write, hgoto, bind, Except.bind]
      rcases grown.node? l with _ | _ | _ <;> exact nofun
  · next failed h => exact hmade

theorem remove_of_file {content : Content} (h : t.status route = .ok (.file content)) :
    t.remove route = .ok (t.prune (ofRoute route)) := by
  obtain ⟨hreaches, hnode⟩ := status_eq_ok_iff.mp h
  unfold remove
  rw [goto_eq_ok_iff.mpr ⟨hreaches, rfl⟩]
  simp only [bind, Except.bind, hnode]

theorem node?_clean (places : List Location) (t : FileTree) (l : Location) :
    (places.foldl prune t).node? l =
      if l ≠ root ∧ ∃ place ∈ places, l.isBelow place = true then none else t.node? l := by
  induction places generalizing t with
  | nil => simp
  | cons place places ih =>
    rw [List.foldl_cons, ih, node?_prune]
    by_cases hroot : l = root
    · simp [hroot]
    · by_cases hbelow : l.isBelow place = true
      · simp [hroot, hbelow]
      · simp [hroot, hbelow]

end FileTree

end DeclarationFetch
