import DeclarationFetch.Cache.Disk
import DeclarationFetch.Proofs.Files.Operations
import DeclarationFetch.Proofs.Json.ReadBack
import DeclarationFetch.Proofs.Path.Reduction

/-! # Entries of caches on disk

Where the entry of a key is, what the operations on a key do to it, and that an entry that was written
is read back.

* `entryRoute_of_grouped`, `entryRoute_of_dropped`, `entryRoute_of_up`: the three kinds of entry routes.
* `place_of_grouped`: the entry of a key is in a directory of its own package version, in the cache.
* `readEntry_entryText`: an entry that was written says its key and its content.
* `get_of_entry`, `get_of_no_file`: what is answered with an entry and without a file.
* `held_of_get`, `held_of_set`: the texts that the entries have, of which only setting adds one.
* `clear_cases`: the directories in the cache directory are removed.
-/

namespace DeclarationFetch

namespace DiskCache

open FileTree Location

/-! ## Where entries are -/

/-- The package part of the key is a name of its own for a directory. -/
def Grouped (key : String) : Prop := packageOf key ≠ "" ∧ packageOf key ≠ "." ∧ packageOf key ≠ ".."

instance (key : String) : Decidable (Grouped key) := inferInstanceAs (Decidable (_ ∧ _ ∧ _))

def fileName (key : String) : String := digest key ++ ".json"

def home (c : DiskCache) : Location := .ofRoute c.directory

def place (c : DiskCache) (key : String) : Location := .ofRoute (c.entry key)

theorem isPlain_dot : isPlain '.' = true := by simp [isPlain]

theorem plain_ne_slash (c : Char) : (if isPlain c then c else '+') ≠ '/' := by
  have hslash : isPlain '/' = false := by decide +kernel
  intro h
  split at h
  · next hplain =>
    rw [h, hslash] at hplain
    cases hplain
  · cases h

theorem plain_eq_dot_iff (c : Char) : (if isPlain c then c else '+') = '.' ↔ c = '.' := by
  constructor
  · intro h
    split at h
    · exact h
    · cases h
  · rintro rfl
    exact if_pos isPlain_dot

theorem map_plain_eq_iff {dots : List Char} (hdots : ∀ c ∈ dots, c = '.') (cs : List Char) :
    cs.map (fun c => if isPlain c then c else '+') = dots ↔ cs = dots := by
  induction dots generalizing cs with
  | nil => simp
  | cons dot dots ih =>
    obtain rfl := hdots dot List.mem_cons_self
    cases cs with
    | nil => simp
    | cons c cs =>
      rw [List.map_cons, List.cons.injEq, List.cons.injEq, plain_eq_dot_iff,
        ih fun c hc => hdots c (List.mem_cons_of_mem _ hc)]

theorem directoryName_eq_iff {dots : String} (hdots : ∀ c ∈ dots.toList, c = '.') (key : String) :
    directoryName key = dots ↔ packageOf key = dots := by
  have hmap := map_plain_eq_iff hdots (packageOf key).toList
  rw [String.toList_inj] at hmap
  rw [← hmap, directoryName, ← String.toList_inj, String.toList_ofList]

theorem slash_not_mem_directoryName (key : String) : '/' ∉ (directoryName key).toList := by
  intro h
  rw [directoryName, String.toList_ofList, List.mem_map] at h
  obtain ⟨c, -, hc⟩ := h
  exact plain_ne_slash c hc

/-- A package directory that is named by nothing or `.` is the cache directory itself. -/
theorem namesOf_directoryName (key : String) : namesOf (directoryName key) =
    if packageOf key = "" ∨ packageOf key = "." then [] else [directoryName key] := by
  have hempty : (directoryName key).toList = [] ↔ packageOf key = "" := by
    rw [← directoryName_eq_iff (by simp) key, ← String.toList_inj]
    rfl
  have hhere : (directoryName key).toList = Path.here ↔ packageOf key = "." := by
    rw [← directoryName_eq_iff (by simp) key, ← String.toList_inj]
    rfl
  rw [namesOf, Path.parts_of_not_mem (slash_not_mem_directoryName key)]
  by_cases h : packageOf key = "" ∨ packageOf key = "."
  · rw [if_pos h, List.filter_cons_of_neg, List.filter_nil, List.map_nil]
    simp only [ne_eq, hempty, hhere, decide_eq_true_eq]
    exact fun hplain => h.elim hplain.1 hplain.2
  · rw [if_neg h, List.filter_cons_of_pos, List.filter_nil, List.map_singleton, String.ofList_toList]
    simp only [ne_eq, hempty, hhere, decide_eq_true_eq]
    exact not_or.mp h

theorem directoryName_ne_up {key : String} (h : Grouped key) : directoryName key ≠ ".." :=
  fun heq => h.2.2 ((directoryName_eq_iff (by simp) key).mp heq)

theorem fileName_ne_up (key : String) : fileName key ≠ ".." := by
  intro h
  have hlength := congrArg (fun s => s.toList.length) h
  simp [fileName] at hlength

theorem entryRoute_of_grouped {key : String} (h : Grouped key) :
    entryRoute key = [directoryName key, fileName key] := by
  rw [entryRoute, namesOf_directoryName, if_neg (not_or.mpr ⟨h.1, h.2.1⟩)]
  rfl

theorem entryRoute_of_dropped {key : String} (h : packageOf key = "" ∨ packageOf key = ".") :
    entryRoute key = [fileName key] := by
  rw [entryRoute, namesOf_directoryName, if_pos h]
  rfl

theorem entryRoute_of_up {key : String} (h : packageOf key = "..") :
    entryRoute key = ["..", fileName key] := by
  have hname : directoryName key = ".." := (directoryName_eq_iff (by simp) key).mpr h
  rw [entryRoute, namesOf_directoryName, if_neg (by rw [h]; decide), hname]
  rfl

variable {c : DiskCache} {t : FileTree} {key : String}

def shelf (c : DiskCache) (key : String) : Location := c.home.child (directoryName key)

theorem place_of_grouped (c : DiskCache) (h : Grouped key) :
    c.place key = (c.shelf key).child (fileName key) := by
  rw [place, entry, ofRoute_append, entryRoute_of_grouped h]
  simp only [follow, List.foldl_cons, List.foldl_nil, step_of_ne _ (directoryName_ne_up h),
    step_of_ne _ (fileName_ne_up key)]
  rfl

theorem place_of_dropped (c : DiskCache) (h : packageOf key = "" ∨ packageOf key = ".") :
    c.place key = c.home.child (fileName key) := by
  rw [place, entry, ofRoute_append, entryRoute_of_dropped h]
  simp only [follow, List.foldl_cons, List.foldl_nil, step_of_ne _ (fileName_ne_up key)]
  rfl

theorem place_of_up (c : DiskCache) (h : packageOf key = "..") :
    c.place key = c.home.parent.child (fileName key) := by
  rw [place, entry, ofRoute_append, entryRoute_of_up h]
  simp only [follow, List.foldl_cons, List.foldl_nil, step_of_ne _ (fileName_ne_up key)]
  rfl

theorem place_inj {other : String} (h : Grouped key) (ho : Grouped other)
    (heq : c.place key = c.place other) : c.entry key = c.entry other := by
  rw [place_of_grouped c h, place_of_grouped c ho] at heq
  simp only [shelf, child, Location.mk.injEq, List.append_assoc, List.append_cancel_left_eq] at heq
  rw [entry, entry, entryRoute_of_grouped h, entryRoute_of_grouped ho]
  exact congrArg _ heq

theorem shelf_of_entry {node : Node} (h : Grouped key) (hstatus : t.status (c.entry key) = .ok node) :
    t.status c.directory = .ok .directory ∧ t.node? (c.shelf key) = some .directory := by
  have hreaches := (status_eq_ok_iff.mp hstatus).1
  rw [entry, entryRoute_of_grouped h] at hreaches
  refine ⟨hreaches.front (by simp), ?_⟩
  rw [List.append_cons] at hreaches
  have hshelf := (status_eq_ok_iff.mp (hreaches.front (by simp))).2
  rwa [ofRoute_append, follow, List.foldl_cons, List.foldl_nil,
    step_of_ne _ (directoryName_ne_up h)] at hshelf

/-! ## What entries say -/

theorem readEntry_entryText (key content : String) :
    readEntry (entryText key content) = .ok (some (.text key, .text content)) := by
  have hread := Json.read_write_texts (List.cons_ne_nil ("key", key) [("content", content)])
  unfold readEntry entryText
  simp only [List.map_cons, List.map_nil] at hread
  rw [hread]
  simp [Value.ofEntries, Value.put, Value.field?, Value.lookup, Value.sameKey]

theorem read?_entryText (key content : String) :
    (Content.text (entryText key content)).read? = some (entryText key content) := by
  have hline := Json.inLine_write_texts [("key", key), ("content", content)]
  have hreturn : '\r' ∉ (entryText key content).toList := fun h =>
    absurd (hline '\r' h).1 (by decide)
  rw [Content.read?, Content.joinLines_of_not_mem hreturn, String.ofList_toList]

/-! ## Operations on one entry -/

@[simp] theorem onFiles_ok {α : Type} (a : α) : onFiles (.ok a) = .ok a := rfl

@[simp] theorem onFiles_error {α : Type} (fault : FileFault) :
    (onFiles (.error fault) : Except Fault α) = .error (.file fault) := rfl

theorem get_of_not_file (h : t.isFile (c.entry key) = .ok false) : c.get t key = .ok (.null, t) := by
  unfold get
  rw [h]
  rfl

theorem get_of_file {content : Content} (h : t.status (c.entry key) = .ok (.file content)) :
    c.get t key = (match content.read? with
      | none => .error (.file .undecodable)
      | some text => match readEntry text with
        | .error fault => .error fault
        | .ok none => .ok (.null, t.prune (c.place key))
        | .ok (some (.text stored, value)) => .ok (if stored = key then value else .null, t)
        | .ok (some _) => .ok (.null, t)) := by
  unfold get
  rw [isFile_of_file h, read_of_file h, remove_of_file h]
  cases hcontent : content.read? with
  | none => rfl
  | some text =>
    cases hentry : readEntry text with
    | error fault => simp [bind, Except.bind, hentry]
    | ok found =>
      simp only [onFiles_ok, bind, Except.bind, hentry]
      rcases found with _ | ⟨stored, value⟩
      · rfl
      · cases stored <;> rfl

theorem get_of_entry {content : String}
    (h : t.status (c.entry key) = .ok (.file (.text (entryText key content)))) :
    c.get t key = .ok (.text content, t) := by
  rw [get_of_file h, read?_entryText]
  simp only [readEntry_entryText, if_true]

theorem set_entry {content : String} (h : (c.set t key content).1 = .ok ()) :
    (c.set t key content).2.status (c.entry key) = .ok (.file (.text (entryText key content))) := by
  refine plantAt_planted ?_
  unfold set onFiles at h
  dsimp only at h
  cases hplant : (t.plantAt (c.entry key) (.text (entryText key content))).1 with
  | ok _ => rfl
  | error fault =>
    rw [hplant] at h
    cases h

theorem get_of_no_file (h : ∀ content, t.status (c.entry key) ≠ .ok (.file content)) :
    c.get t key = .ok (.null, t) ∨
      c.get t key = .error (.file .nameTooLong) ∧ ¬ Fits (c.entry key) := by
  rcases isFile_of_not_file h with hlook | ⟨hlook, hlong⟩
  · exact .inl (get_of_not_file hlook)
  · refine .inr ⟨?_, hlong⟩
    unfold get
    rw [hlook]
    rfl

/-- What an answer comes from, and what looking up does to the tree. -/
theorem get_cases {value : Value} {t' : FileTree} (h : c.get t key = .ok (value, t')) :
    (value = .null ∧ (t' = t ∨ t' = t.prune (c.place key))) ∨
    (t' = t ∧ ∃ content text stored, t.node? (c.place key) = some (.file content) ∧
      content.read? = some text ∧ readEntry text = .ok (some (.text stored, value))) := by
  by_cases hfile : ∃ content, t.status (c.entry key) = .ok (.file content)
  · obtain ⟨content, hstatus⟩ := hfile
    have hnode := (status_eq_ok_iff.mp hstatus).2
    rw [get_of_file hstatus] at h
    cases hread : content.read? with
    | none =>
      rw [hread] at h
      cases h
    | some text =>
      simp only [hread] at h
      split at h
      · cases h
      · cases h
        exact .inl ⟨rfl, .inr rfl⟩
      · next stored found hentry =>
        split at h
        · cases h
          exact .inr ⟨rfl, content, text, stored, hnode, hread, hentry⟩
        · cases h
          exact .inl ⟨rfl, .inl rfl⟩
      · cases h
        exact .inl ⟨rfl, .inl rfl⟩
  · obtain hnull | ⟨hlong, -⟩ := get_of_no_file fun content hs => hfile ⟨content, hs⟩
    · rw [hnull] at h
      cases h
      exact .inl ⟨rfl, .inl rfl⟩
    · rw [hlong] at h
      cases h

/-! ## Texts of entries -/

/-- A file, wherever it is, reads as an entry with the text. -/
def Held (t : FileTree) (text : String) : Prop :=
  ∃ l content read stored, t.node? l = some (.file content) ∧ content.read? = some read ∧
    readEntry read = .ok (some (stored, .text text))

theorem get_held {text : String} {t' : FileTree} (h : c.get t key = .ok (.text text, t')) :
    Held t text := by
  obtain ⟨hnull, -⟩ | ⟨-, content, read, stored, hnode, hread, hentry⟩ := get_cases h
  · cases hnull
  · exact ⟨_, content, read, .text stored, hnode, hread, hentry⟩

theorem held_of_get {value : Value} {text : String} {t' : FileTree} (h : c.get t key = .ok (value, t'))
    (hh : Held t' text) : Held t text := by
  obtain ⟨l, content, read, stored, hnode, hread, hentry⟩ := hh
  obtain ⟨-, rfl | rfl⟩ | ⟨rfl, -⟩ := get_cases h
  · exact ⟨l, content, read, stored, hnode, hread, hentry⟩
  · rw [node?_prune] at hnode
    split at hnode
    · cases hnode
    · exact ⟨l, content, read, stored, hnode, hread, hentry⟩
  · exact ⟨l, content, read, stored, hnode, hread, hentry⟩

theorem held_of_set {content text : String} (h : Held (c.set t key content).2 text) :
    Held t text ∨ content = text := by
  obtain ⟨l, file, read, stored, hnode, hread, hentry⟩ := h
  have hset : (c.set t key content).2 = (t.plantAt (c.entry key) (.text (entryText key content))).2 := rfl
  rw [hset] at hnode
  obtain hsame | ⟨-, hdirectory, -⟩ | ⟨-, -, -, hplanted⟩ :=
    plantAt_along t (c.entry key) (.text (entryText key content)) l
  · exact .inl ⟨l, file, read, stored, hsame ▸ hnode, hread, hentry⟩
  · rw [hdirectory] at hnode
    cases hnode
  · rw [hplanted] at hnode
    cases hnode
    rw [read?_entryText] at hread
    cases hread
    rw [readEntry_entryText] at hentry
    cases hentry
    exact .inr rfl

/-! ## Clearing -/

def shelves (c : DiskCache) (t : FileTree) : List Location :=
  ((t.children c.home).filter fun child => child.2 = .directory).map Prod.fst

def swept (c : DiskCache) (t : FileTree) : FileTree := (c.shelves t).foldl prune t

theorem mem_nodes_of_find {nodes : List (Location × Node)} {l : Location} {node : Node}
    (h : find nodes l = some node) : (l, node) ∈ nodes := by
  induction nodes with
  | nil => cases h
  | cons entry nodes ih =>
    unfold find at h
    split at h
    · next hplace => cases h; exact hplace ▸ List.mem_cons_self
    · exact List.mem_cons_of_mem _ (ih h)

theorem mem_shelves {name : String} (h : t.node? (c.home.child name) = some .directory) :
    c.home.child name ∈ c.shelves t := by
  have hroot := child_ne_root c.home name
  rw [node?, if_neg hroot] at h
  refine List.mem_map.mpr ⟨_, List.mem_filter.mpr ⟨List.mem_filter.mpr ⟨mem_nodes_of_find h, ?_⟩, ?_⟩, rfl⟩
  · simp [hroot]
  · simp

theorem length_of_mem_shelves {place : Location} (h : place ∈ c.shelves t) :
    place.names.length = c.home.names.length + 1 := by
  obtain ⟨child, hchild, rfl⟩ := List.mem_map.mp h
  have hin := (List.mem_filter.mp (List.mem_filter.mp hchild).1).2
  rw [decide_eq_true_eq] at hin
  obtain ⟨hparent, hroot⟩ := hin
  have hnames : 0 < child.1.names.length :=
    List.length_pos_iff.mpr fun hnil => hroot (congrArg Location.mk hnil)
  rw [← hparent, parent, List.length_dropLast]
  omega

theorem node?_swept (c : DiskCache) (t : FileTree) (l : Location) :
    (c.swept t).node? l =
      if l ≠ root ∧ ∃ shelf ∈ c.shelves t, l.isBelow shelf = true then none else t.node? l :=
  node?_clean (c.shelves t) t l

theorem node?_swept_of_length_le {l : Location} (h : l.names.length ≤ c.home.names.length) :
    (c.swept t).node? l = t.node? l := by
  rw [node?_swept, if_neg]
  rintro ⟨-, shelf, hshelf, hbelow⟩
  have hlength := length_of_mem_shelves hshelf
  have hprefix := (isBelow_iff.mp hbelow).length_le
  omega

/-- What the cache does not open it does not clear. -/
theorem clear_cases (c : DiskCache) (t : FileTree) :
    t.status c.directory = .ok .directory ∧ c.clear t = .ok (c.swept t) ∨
      t.status c.directory ≠ .ok .directory ∧
        (c.clear t = .ok t ∨ ∃ fault, c.clear t = .error (.file fault) ∧ fault ≠ .undecodable) := by
  unfold clear
  cases hstatus : t.status c.directory with
  | error fault =>
    refine .inr ⟨nofun, ?_⟩
    rcases there_of_error hstatus with hthere | ⟨hthere, -⟩ <;> rw [hthere]
    · exact .inl rfl
    · exact .inr ⟨.nameTooLong, rfl, nofun⟩
  | ok node =>
    obtain ⟨hreaches, hnode⟩ := status_eq_ok_iff.mp hstatus
    rw [there_of_status hstatus, goto_eq_ok_iff.mpr ⟨hreaches, rfl⟩]
    simp only [onFiles_ok, bind, Except.bind, if_true, hnode]
    cases node with
    | file content => exact .inr ⟨nofun, .inr ⟨.notADirectory, rfl, nofun⟩⟩
    | directory =>
      refine .inl ⟨rfl, ?_⟩
      rw [swept, shelves, List.foldl_map, List.foldl_filter]
      simp only [decide_eq_true_eq]
      rfl

end DiskCache

end DeclarationFetch
