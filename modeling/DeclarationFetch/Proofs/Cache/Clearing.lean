import DeclarationFetch.Proofs.Cache.Entries

/-! # What clearing a cache on disk removes

An entry is in a directory of its own package version, in the cache directory, if and only if the
package part of its key can be the name of a directory there. Clearing removes these entries and
leaves the others, which are in the cache directory itself or next to it.

* `in_shelf_iff`, `in_home_iff`: where entries are.
* `setAll_file_iff`: entries that are set change no file but their own.
* `swept_forgets`, `swept_keeps`: which entries are gone.
* `clear_removes`: all of this of a cache that is opened, filled and cleared.
-/

namespace DeclarationFetch.DiskCache

open FileTree Location

variable {c : DiskCache} {t : FileTree} {key : String}

/-! ## Places -/

theorem grouped_or (key : String) :
    Grouped key ∨ (packageOf key = "" ∨ packageOf key = ".") ∨ packageOf key = ".." := by
  unfold Grouped
  by_cases hempty : packageOf key = ""
  · exact .inr (.inl (.inl hempty))
  by_cases hhere : packageOf key = "."
  · exact .inr (.inl (.inr hhere))
  by_cases hup : packageOf key = ".."
  · exact .inr (.inr hup)
  exact .inl ⟨hempty, hhere, hup⟩

theorem length_place_of_not_grouped (c : DiskCache) (h : ¬ Grouped key) :
    (c.place key).names.length ≤ c.home.names.length + 1 := by
  rcases (grouped_or key).resolve_left h with hdropped | hup
  · rw [place_of_dropped c hdropped]
    simp [child]
  · rw [place_of_up c hup]
    simp only [child, parent, List.length_append, List.length_dropLast, List.length_cons,
      List.length_nil]
    omega

/-- An entry is in a directory in the cache directory unless its package part names none. -/
theorem in_shelf_iff (c : DiskCache) (key : String) :
    (∃ directory name, c.place key = (c.home.child directory).child name) ↔ Grouped key := by
  constructor
  · rintro ⟨directory, name, hplace⟩
    refine Decidable.byContradiction fun hnot => ?_
    have hlength := length_place_of_not_grouped c hnot
    rw [hplace] at hlength
    simp [child] at hlength
  · exact fun h => ⟨_, _, place_of_grouped c h⟩

theorem in_home_of_not_up (c : DiskCache) (h : packageOf key ≠ "..") :
    (c.place key).isBelow c.home = true := by
  rcases grouped_or key with hgrouped | hdropped | hup
  · rw [place_of_grouped c hgrouped]
    exact isBelow_trans (child_isBelow _ _) (child_isBelow _ _)
  · rw [place_of_dropped c hdropped]
    exact child_isBelow _ _
  · exact absurd hup h

/-! ## Filling -/

def setAll (c : DiskCache) (t : FileTree) (entries : List (String × String)) : FileTree :=
  entries.foldl (fun t entry => (c.set t entry.1 entry.2).2) t

theorem setAll_keeps {P : FileTree → Prop} {entries : List (String × String)}
    (hset : ∀ entry ∈ entries, ∀ t, P t → P (c.set t entry.1 entry.2).2) (h : P t) :
    P (c.setAll t entries) := by
  induction entries generalizing t with
  | nil => exact h
  | cons entry entries ih =>
    exact ih (fun other ho => hset other (List.mem_cons_of_mem _ ho))
      (hset entry List.mem_cons_self t h)

theorem setAll_file_iff {entries : List (String × String)} {l : Location}
    (h : ∀ entry ∈ entries, l ≠ c.place entry.1) (content : Content) :
    (c.setAll t entries).node? l = some (.file content) ↔ t.node? l = some (.file content) := by
  refine setAll_keeps (P := fun filled => filled.node? l = some (.file content) ↔
    t.node? l = some (.file content)) (fun entry hentry filled hfilled => ?_) Iff.rfl
  exact ⟨fun hfile => hfilled.mp (file_of_plantAt (h entry hentry) hfile),
    fun hfile => plantAt_node _ (hfilled.mpr hfile) (.inr (h entry hentry))⟩

theorem setAll_status {route : Route} (h : t.status route = .ok .directory)
    (entries : List (String × String)) : (c.setAll t entries).status route = .ok .directory :=
  setAll_keeps (P := fun filled => filled.status route = .ok .directory)
    (fun _ _ _ hstatus => plantAt_status _ hstatus (.inl rfl)) h

theorem setAll_listed (h : t.Listed) (entries : List (String × String)) :
    (c.setAll t entries).Listed :=
  setAll_keeps (P := Listed) (fun _ _ _ hlisted => hlisted.plantAt _ _) h

/-! ## Sweeping -/

theorem swept_forgets (h : Grouped key) (node : Node) :
    (c.swept t).status (c.entry key) ≠ .ok node := by
  intro hstatus
  have hshelf := (shelf_of_entry h hstatus).2
  rw [node?_swept] at hshelf
  split at hshelf
  · cases hshelf
  · next hkept =>
    exact hkept ⟨child_ne_root _ _, _, mem_shelves hshelf, isBelow_self _⟩

/-- A file in the cache directory itself is left, and so is one next to it. -/
theorem swept_keeps (hlisted : t.Listed) {l : Location} {content : Content}
    (hlength : l.names.length ≤ c.home.names.length + 1) (h : t.node? l = some (.file content)) :
    (c.swept t).node? l = some (.file content) := by
  rw [node?_swept, if_neg, h]
  rintro ⟨-, shelf, hshelf, hbelow⟩
  have hprefix := isBelow_iff.mp hbelow
  have hshelfLength := length_of_mem_shelves hshelf
  have hnames : shelf.names = l.names := hprefix.eq_of_length_le (by omega)
  obtain ⟨child, hchild, rfl⟩ := List.mem_map.mp hshelf
  obtain ⟨hin, hdirectory⟩ := List.mem_filter.mp hchild
  have hnode := hlisted child (List.mem_filter.mp hin).1
  have hl : child.1 = l := congrArg Location.mk hnames
  rw [hl, h, decide_eq_true_eq.mp hdirectory] at hnode
  cases hnode

/-! ## Opened, filled and cleared -/

theorem openAt_eq {directory : Route} {before : FileTree} (h : openAt directory before = (.ok c, t)) :
    c.directory = directory ∧ before.makeAll directory = (.ok (), t) := by
  unfold openAt at h
  obtain ⟨made, hmade⟩ : ∃ made, before.makeAll directory = made := ⟨_, rfl⟩
  obtain ⟨result, after⟩ := made
  rw [hmade] at h ⊢
  cases result with
  | ok _ => cases h; exact ⟨rfl, rfl⟩
  | error fault => cases h

/-- An opened cache can be filled and cleared. Then no key has a content whose package part names a
directory in the cache directory, and these are the keys with an entry in such a directory. Other
entries are left, those of the package part `..` next to the cache directory; they are the only files
outside it that change. -/
theorem clear_removes {directory : Route} {before t : FileTree} {c : DiskCache}
    (hopen : openAt directory before = (.ok c, t)) (entries : List (String × String)) :
    (∀ key, (∃ package name, c.place key = (c.home.child package).child name) ↔ Grouped key) ∧
    (∃ cleared, c.clear (c.setAll t entries) = .ok cleared ∧
      (∀ key, Grouped key → c.get cleared key = .ok (.null, cleared) ∨
        c.get cleared key = .error (.file .nameTooLong) ∧ ¬ Fits (c.entry key)) ∧
      (before.Listed → ∀ key, ¬ Grouped key → ∀ content,
        (c.setAll t entries).node? (c.place key) = some (.file content) →
          cleared.node? (c.place key) = some (.file content))) ∧
    ∀ l, ¬ l.isBelow c.home → (∀ entry ∈ entries, packageOf entry.1 = ".." → l ≠ c.place entry.1) →
      ∀ content, (c.setAll t entries).node? l = some (.file content) ↔
        t.node? l = some (.file content) := by
  obtain ⟨rfl, hmake⟩ := openAt_eq hopen
  have hopened : t.status c.directory = .ok .directory := by
    have hmade := makeAll_status (congrArg Prod.fst hmake)
    rwa [hmake] at hmade
  refine ⟨in_shelf_iff c, ?_, fun l hout hup content => ?_⟩
  · rcases clear_cases c (c.setAll t entries) with ⟨-, hclear⟩ | ⟨hclosed, -⟩
    · refine ⟨_, hclear, fun key hkey => ?_, fun hlisted key hkey content hfile => ?_⟩
      · exact get_of_no_file fun content => swept_forgets hkey _
      · have hstart : t.Listed := by
          have hmade := hlisted.makeAll c.directory
          rwa [hmake] at hmade
        exact swept_keeps (setAll_listed hstart entries) (length_place_of_not_grouped c hkey) hfile
    -- what was opened is a directory, and what is stored leaves it one
    · exact absurd (setAll_status hopened entries) hclosed
  · refine setAll_file_iff (fun entry hentry heq => ?_) content
    -- only a package that is named `..` has its entries beside the home
    by_cases h : packageOf entry.1 = ".."
    · exact hup entry hentry h heq
    · exact hout (heq ▸ in_home_of_not_up c h)

namespace Strays

def cache : DiskCache := ⟨["root", "cache"]⟩

def tree : FileTree := (openAt ["root", "cache"] {}).2

def entries : List (String × String) := [("a/index.d.ts", "x"), ("../x", "y"), ("/x", "z"), ("./x", "w")]

/-- What is answered for a key once the cache is filled and cleared. -/
def left (key : String) : Option String :=
  (cache.clear (cache.setAll tree entries)).toOption.bind fun cleared =>
    (cache.get cleared key).toOption.bind fun found => found.1.text?

/-- An entry in its package directory is gone, and one next to the cache directory is left. -/
theorem entries_cleared : ∃ cleared, cache.clear (cache.setAll tree entries) = .ok cleared ∧
    cache.get cleared "a/index.d.ts" = .ok (.null, cleared) ∧
    cleared.node? (cache.place "../x") = some (.file (.text (entryText "../x" "y"))) := by
  obtain ⟨-, ⟨cleared, hclear, hgone, hleft⟩, -⟩ :=
    @clear_removes ["root", "cache"] {} tree cache rfl entries
  refine ⟨cleared, hclear, ?_, ?_⟩
  · exact (hgone "a/index.d.ts" (by decide +kernel)).resolve_right
      fun hlong => absurd (by decide +kernel) hlong.2
  · exact hleft nofun "../x" (by decide +kernel) _ (by decide +kernel)

/-- Keys whose package part is empty, `.` or `..` are answered when the cache is cleared, and an entry
of the last kind is outside the cache directory. -/
theorem strays_left : left "../x" = some "y" ∧ left "/x" = some "z" ∧ left "./x" = some "w" ∧
    ¬ (cache.place "../x").isBelow cache.home := by
  decide +kernel

end Strays

end DeclarationFetch.DiskCache
