import DeclarationFetch.FileTree

/-! # Nodes and routes

What is at a location after a change of the tree, and when a route can be followed to its end.

* `node?_put`, `node?_prune`: the nodes after a change.
* `walk_eq_ok_iff`, `goto_eq_ok_iff`: a route leads where its names say, or nowhere.
* `Opens.mono`: a route stays open as long as directories stay.
* `Opens.prune`: no route leads through what is below a file.
* `status_error`: only a route that is too long cannot be looked at.
-/

namespace DeclarationFetch

namespace Location

theorem isBelow_iff {l base : Location} : l.isBelow base = true ↔ base.names <+: l.names :=
  List.isPrefixOf_iff_prefix

theorem isBelow_self (l : Location) : l.isBelow l = true := isBelow_iff.mpr (List.prefix_refl _)

theorem child_isBelow (l : Location) (name : String) : (l.child name).isBelow l = true :=
  isBelow_iff.mpr (List.prefix_append _ _)

theorem isBelow_trans {a b c : Location} (hab : a.isBelow b = true) (hbc : b.isBelow c = true) :
    a.isBelow c = true :=
  isBelow_iff.mpr ((isBelow_iff.mp hbc).trans (isBelow_iff.mp hab))

theorem isBelow_parent (l : Location) : l.isBelow l.parent = true :=
  isBelow_iff.mpr (List.dropLast_prefix _)

theorem eq_or_isBelow_of_child {l base : Location} {name : String}
    (h : (l.child name).isBelow base = true) : l.child name = base ∨ l.isBelow base = true := by
  rw [isBelow_iff, child, List.prefix_concat_iff] at h
  rcases h with h | h
  · exact .inl (by rw [child, ← h])
  · exact .inr (isBelow_iff.mpr h)

@[simp] theorem parent_child (l : Location) (name : String) : (l.child name).parent = l := by
  simp [parent, child]

theorem child_ne_root (l : Location) (name : String) : l.child name ≠ root := by
  simp [child, root]

/-- Where the names of a route lead from here, whatever there is. -/
def follow (l : Location) (route : Route) : Location := route.foldl step l

def ofRoute (route : Route) : Location := root.follow route

theorem follow_append (l : Location) (a b : Route) : l.follow (a ++ b) = (l.follow a).follow b :=
  List.foldl_append

theorem ofRoute_append (a b : Route) : ofRoute (a ++ b) = (ofRoute a).follow b := follow_append root a b

theorem step_of_ne (l : Location) {name : String} (h : name ≠ "..") : l.step name = l.child name :=
  if_neg h

end Location

namespace FileTree

open Location

/-! ## Nodes -/

@[simp] theorem node?_root (t : FileTree) : t.node? root = some .directory := if_pos rfl

theorem find_append (a b : List (Location × Node)) (l : Location) :
    find (a ++ b) l = (find a l).or (find b l) := by
  induction a with
  | nil => rfl
  | cons entry a ih =>
    simp only [List.cons_append, find]
    split
    · rfl
    · exact ih

theorem find_filter (nodes : List (Location × Node)) (keeps : Location → Bool) (l : Location) :
    find (nodes.filter fun entry => keeps entry.1) l = if keeps l then find nodes l else none := by
  induction nodes with
  | nil => simp [find]
  | cons entry nodes ih =>
    obtain ⟨place, node⟩ := entry
    by_cases hplace : place = l
    · subst hplace
      by_cases hkeeps : keeps place = true
      · simp [find, hkeeps]
      · simp [hkeeps, ih]
    · by_cases hkeeps : keeps place = true
      · simp [find, hkeeps, hplace, ih]
      · simp [find, hkeeps, hplace, ih]

theorem node?_put (t : FileTree) {l : Location} (h : l ≠ root) (node : Node) (other : Location) :
    (t.put l node).node? other = if other = l then some node else t.node? other := by
  have hfilter : find (t.nodes.filter fun entry => entry.1 ≠ l) other =
      if other = l then none else find t.nodes other := by
    rw [find_filter t.nodes (fun place => place ≠ l) other]
    by_cases ho : other = l <;> simp [ho]
  unfold node? put
  rw [find_append, hfilter]
  by_cases ho : other = l
  · subst ho
    simp [h, find]
  · simp [ho, Ne.symm ho, find]

theorem node?_prune (t : FileTree) (l other : Location) :
    (t.prune l).node? other =
      if other ≠ root ∧ other.isBelow l = true then none else t.node? other := by
  unfold node? prune
  rw [find_filter t.nodes (fun place => !place.isBelow l) other]
  by_cases hroot : other = root
  · simp [hroot]
  · by_cases hbelow : other.isBelow l = true <;> simp [hroot, hbelow]

/-! ## Routes -/

/-- From here every name of a route can be followed. -/
def Opens (t : FileTree) : Location → Route → Prop
  | _, [] => True
  | here, name :: rest =>
      t.node? here = some .directory ∧ tooLong name = false ∧ t.Opens (here.step name) rest

def Reaches (t : FileTree) (route : Route) : Prop :=
  routeSize route ≤ mostBytes ∧ t.Opens root route

theorem opens_append {t : FileTree} {here : Location} {a b : Route} :
    t.Opens here (a ++ b) ↔ t.Opens here a ∧ t.Opens (here.follow a) b := by
  induction a generalizing here with
  | nil => simp [Opens, follow]
  | cons name a ih => simp only [List.cons_append, Opens, ih, follow, List.foldl_cons, and_assoc]

theorem Opens.mono {t t' : FileTree}
    (hkeep : ∀ l, t.node? l = some .directory → t'.node? l = some .directory) {here : Location}
    {route : Route} (h : t.Opens here route) : t'.Opens here route := by
  induction route generalizing here with
  | nil => trivial
  | cons name rest ih => exact ⟨hkeep here h.1, h.2.1, ih h.2.2⟩

/-- A directory that is one name away from what is not below a file is not below it either. -/
theorem not_isBelow_step {t : FileTree} {here l : Location} {content : Content} {name : String}
    (hl : t.node? l = some (.file content)) (houtside : ¬ here.isBelow l)
    (hnext : t.node? (here.step name) = some .directory) : ¬ (here.step name).isBelow l := by
  intro hbelow
  by_cases hname : name = ".."
  · rw [step, if_pos hname] at hbelow
    exact houtside (isBelow_trans (isBelow_parent here) hbelow)
  · rw [step_of_ne here hname] at hbelow hnext
    rcases eq_or_isBelow_of_child hbelow with heq | hin
    · rw [heq, hl] at hnext
      cases hnext
    · exact houtside hin

theorem routeSize_append (a b : Route) : routeSize (a ++ b) = routeSize a + routeSize b := by
  have hfold : ∀ (route : Route) (bytes : Nat),
      route.foldl (fun bytes name => bytes + name.utf8ByteSize + 1) bytes = bytes + routeSize route := by
    intro route
    induction route with
    | nil => exact fun _ => rfl
    | cons name route ih =>
      intro bytes
      rw [routeSize, List.foldl_cons, List.foldl_cons, ih, ih]
      omega
  rw [routeSize, List.foldl_append, hfold b]
  rfl

theorem Opens.prune {t : FileTree} {l : Location} {content : Content}
    (hl : t.node? l = some (.file content)) {here : Location} {route : Route}
    (houtside : ¬ here.isBelow l) (h : t.Opens here route) : (t.prune l).Opens here route := by
  induction route generalizing here with
  | nil => trivial
  | cons name rest ih =>
    refine ⟨?_, h.2.1, ?_⟩
    · rw [node?_prune, if_neg (fun hbelow => houtside hbelow.2), h.1]
    · cases rest with
      | nil => trivial
      | cons next rest => exact ih (not_isBelow_step hl houtside h.2.2.1) h.2.2

theorem Reaches.prune {t : FileTree} {l : Location} {content : Content} {route : Route}
    (hl : t.node? l = some (.file content)) (h : t.Reaches route) : (t.prune l).Reaches route := by
  refine ⟨h.1, h.2.prune hl fun hbelow => ?_⟩
  have hroot : l = root := by
    have hnames : l.names = [] := List.prefix_nil.mp (isBelow_iff.mp hbelow)
    cases l
    exact congrArg _ hnames
  rw [hroot, node?_root] at hl
  cases hl

theorem walk_eq_ok_iff {t : FileTree} {here l : Location} {route : Route} :
    t.walk here route = .ok l ↔ t.Opens here route ∧ here.follow route = l := by
  induction route generalizing here with
  | nil => simp [walk, Opens, follow]
  | cons name rest ih =>
    unfold walk
    split
    · next h => simp [Opens, h]
    · next h => simp [Opens, h]
    · next h =>
      by_cases hlong : tooLong name = true
      · simp [Opens, hlong]
      · rw [if_neg hlong, ih]
        simp [Opens, h, hlong, follow]

theorem goto_eq_ok_iff {t : FileTree} {route : Route} {l : Location} :
    t.goto route = .ok l ↔ t.Reaches route ∧ ofRoute route = l := by
  unfold goto Reaches ofRoute
  split
  · next h => simp [Nat.not_le.mpr h]
  · next h => rw [walk_eq_ok_iff]; simp [Nat.le_of_not_lt h]

theorem goto_bind_eq_ok_iff {α : Type} {t : FileTree} {route : Route}
    {f : Location → Except FileFault α} {a : α} :
    (t.goto route >>= f) = .ok a ↔ t.Reaches route ∧ f (ofRoute route) = .ok a := by
  cases hgoto : t.goto route with
  | error fault =>
    have hnot : ¬ t.Reaches route := fun h =>
      nomatch hgoto.symm.trans (goto_eq_ok_iff.mpr ⟨h, rfl⟩)
    simp [bind, Except.bind, hnot]
  | ok l =>
    obtain ⟨hreaches, rfl⟩ := goto_eq_ok_iff.mp hgoto
    simp [bind, Except.bind, hreaches]

theorem status_eq_ok_iff {t : FileTree} {route : Route} {node : Node} :
    t.status route = .ok node ↔ t.Reaches route ∧ t.node? (ofRoute route) = some node := by
  unfold status
  rw [goto_bind_eq_ok_iff]
  cases t.node? (ofRoute route) <;> simp

/-- A longer route passes through the end of a shorter one, which is a directory. -/
theorem Reaches.front {t : FileTree} {a b : Route} (h : t.Reaches (a ++ b)) (hb : b ≠ []) :
    t.status a = .ok .directory := by
  obtain ⟨hsize, hopens⟩ := h
  rw [routeSize_append] at hsize
  obtain ⟨ha, hrest⟩ := opens_append.mp hopens
  cases b with
  | nil => exact absurd rfl hb
  | cons name b => exact status_eq_ok_iff.mpr ⟨⟨by omega, ha⟩, hrest.1⟩

theorem names_follow_of_plain {route : Route} (h : ".." ∉ route) (here : Location) :
    (here.follow route).names = here.names ++ route := by
  induction route generalizing here with
  | nil => simp [follow]
  | cons name route ih =>
    have hname : name ≠ ".." := fun heq => h (heq ▸ List.mem_cons_self)
    rw [follow, List.foldl_cons, step_of_ne here hname, ← follow,
      ih (fun hmem => h (List.mem_cons_of_mem _ hmem)), child, List.append_assoc, List.singleton_append]

/-- A route that never goes up needs only the nodes above its end. -/
theorem Opens.congr_above {t t' : FileTree} {route : Route} (hplain : ".." ∉ route) {here : Location}
    (hsame : ∀ l : Location, l.names.length < (here.follow route).names.length →
      t'.node? l = t.node? l) (h : t.Opens here route) : t'.Opens here route := by
  induction route generalizing here with
  | nil => trivial
  | cons name route ih =>
    have hend := names_follow_of_plain hplain here
    refine ⟨?_, h.2.1, ih (fun hmem => hplain (List.mem_cons_of_mem _ hmem)) hsame h.2.2⟩
    rw [hsame here (by rw [hend]; simp), h.1]

/-! ## Looking -/

/-- Neither the names of a route nor the route are too long. -/
def Fits (route : Route) : Prop := routeSize route ≤ mostBytes ∧ ∀ name ∈ route, tooLong name = false

theorem Reaches.fits {t : FileTree} {route : Route} (h : t.Reaches route) : Fits route := by
  have hnames : ∀ {here : Location} {route : Route}, t.Opens here route →
      ∀ name ∈ route, tooLong name = false := by
    intro here route hopens
    induction route generalizing here with
    | nil => exact nofun
    | cons name rest ih =>
      intro other ho
      rcases List.mem_cons.mp ho with rfl | ho
      · exact hopens.2.1
      · exact ih hopens.2.2 other ho
  exact ⟨h.1, hnames h.2⟩

instance (route : Route) : Decidable (Fits route) := inferInstanceAs (Decidable (_ ∧ _))

theorem walk_error {t : FileTree} {here : Location} {route : Route} {fault : FileFault}
    (h : t.walk here route = .error fault) : fault = .notFound ∨ fault = .notADirectory ∨
      fault = .nameTooLong ∧ ∃ name ∈ route, tooLong name = true := by
  induction route generalizing here with
  | nil => cases h
  | cons name rest ih =>
    unfold walk at h
    split at h
    · cases h; exact .inl rfl
    · cases h; exact .inr (.inl rfl)
    · split at h
      · next hlong => cases h; exact .inr (.inr ⟨rfl, name, List.mem_cons_self, hlong⟩)
      · rcases ih h with hfault | hfault | ⟨hfault, other, ho, hlong⟩
        · exact .inl hfault
        · exact .inr (.inl hfault)
        · exact .inr (.inr ⟨hfault, other, List.mem_cons_of_mem _ ho, hlong⟩)

theorem goto_error {t : FileTree} {route : Route} {fault : FileFault}
    (h : t.goto route = .error fault) :
    fault = .notFound ∨ fault = .notADirectory ∨ fault = .nameTooLong ∧ ¬ Fits route := by
  unfold goto at h
  split at h
  · next hsize => cases h; exact .inr (.inr ⟨rfl, fun hfits => Nat.not_lt.mpr hfits.1 hsize⟩)
  · rcases walk_error h with hfault | hfault | ⟨hfault, name, hname, hlong⟩
    · exact .inl hfault
    · exact .inr (.inl hfault)
    · exact .inr (.inr ⟨hfault, fun hfits => Bool.noConfusion (hlong.symm.trans (hfits.2 name hname))⟩)

theorem status_error {t : FileTree} {route : Route} {fault : FileFault}
    (h : t.status route = .error fault) :
    fault = .notFound ∨ fault = .notADirectory ∨ fault = .nameTooLong ∧ ¬ Fits route := by
  unfold status at h
  cases hgoto : t.goto route with
  | error other =>
    rw [hgoto] at h
    cases h
    exact goto_error hgoto
  | ok l =>
    rw [hgoto] at h
    simp only [bind, Except.bind] at h
    split at h <;> cases h
    exact .inl rfl

theorem status?_eq_some_iff {t : FileTree} {route : Route} {node : Node} :
    t.status? route = .ok (some node) ↔ t.status route = .ok node := by
  unfold status?
  split <;> simp_all

theorem status?_of_error {t : FileTree} {route : Route} {fault : FileFault}
    (h : t.status route = .error fault) :
    t.status? route = .ok none ∨ t.status? route = .error .nameTooLong ∧ ¬ Fits route := by
  unfold status?
  rcases status_error h with rfl | rfl | ⟨rfl, hlong⟩ <;> rw [h]
  · exact .inl rfl
  · exact .inl rfl
  · exact .inr ⟨rfl, hlong⟩

theorem isFile_of_file {t : FileTree} {route : Route} {content : Content}
    (h : t.status route = .ok (.file content)) : t.isFile route = .ok true := by
  rw [isFile, status?_eq_some_iff.mpr h]
  rfl

theorem isFile_of_not_file {t : FileTree} {route : Route}
    (h : ∀ content, t.status route ≠ .ok (.file content)) :
    t.isFile route = .ok false ∨ t.isFile route = .error .nameTooLong ∧ ¬ Fits route := by
  unfold isFile
  cases hstatus : t.status route with
  | error fault =>
    rcases status?_of_error hstatus with hlook | ⟨hlook, hlong⟩ <;> rw [hlook]
    · exact .inl rfl
    · exact .inr ⟨rfl, hlong⟩
  | ok node =>
    rw [status?_eq_some_iff.mpr hstatus]
    cases node with
    | file content => exact absurd hstatus (h content)
    | directory => exact .inl rfl

theorem isDirectory_eq_true_iff {t : FileTree} {route : Route} :
    t.isDirectory route = .ok true ↔ t.status route = .ok .directory := by
  unfold isDirectory
  rw [← status?_eq_some_iff]
  rcases t.status? route with fault | _ | _ | _ <;> simp [Except.map]

theorem there_of_status {t : FileTree} {route : Route} {node : Node} (h : t.status route = .ok node) :
    t.there route = .ok true := by
  rw [there, status?_eq_some_iff.mpr h]
  rfl

theorem there_of_error {t : FileTree} {route : Route} {fault : FileFault}
    (h : t.status route = .error fault) :
    t.there route = .ok false ∨ t.there route = .error .nameTooLong ∧ ¬ Fits route := by
  unfold there
  rcases status?_of_error h with hlook | ⟨hlook, hlong⟩ <;> rw [hlook]
  · exact .inl rfl
  · exact .inr ⟨rfl, hlong⟩

/-! ## What only a reader finds -/

theorem goto_ne_undecodable (t : FileTree) (route : Route) : t.goto route ≠ .error .undecodable := by
  intro h
  rcases goto_error h with h | h | ⟨h, -⟩ <;> cases h

theorem isDirectory_ne_undecodable (t : FileTree) (route : Route) :
    t.isDirectory route ≠ .error .undecodable := by
  unfold isDirectory
  cases hstatus : t.status route with
  | error fault => rcases status?_of_error hstatus with h | ⟨h, -⟩ <;> rw [h] <;> exact nofun
  | ok node => rw [status?_eq_some_iff.mpr hstatus]; exact nofun

end FileTree

end DeclarationFetch
