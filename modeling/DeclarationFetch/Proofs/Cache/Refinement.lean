import DeclarationFetch.Cache.Memory
import DeclarationFetch.Proofs.Cache.Entries

/-! # A cache on disk as a cache in memory

Requests to a cache, one after the other, are answered on disk as they are in memory, as long as the
file system does what it is asked for.

* `Mirrors`: the tree holds the entries that the memory holds, and no others.
* `serve_mirrors`: one request is answered alike and keeps the two alike.
* `room_serve`: where there is room for the entries, the file system refuses nothing.
* `answers_eq_memory`: all requests are answered alike.
-/

namespace DeclarationFetch

/-! ## Requests -/

/-- What a cache is asked for. A cache in memory is not opened again. -/
inductive CacheRequest where
  | get (key : String)
  | contains (key : String)
  | set (key content : String)
  | clear
  | reopen
  deriving Repr, DecidableEq

def CacheRequest.key? : CacheRequest → Option String
  | get key => some key
  | contains key => some key
  | set key _ => some key
  | clear => none
  | reopen => none

inductive CacheAnswer where
  | content (value : Value)
  | present (there : Bool)
  | done

namespace MemoryCache

def serve (m : MemoryCache) : CacheRequest → CacheAnswer × MemoryCache
  | .get key => (.content (((m.get? key).map Value.text).getD .null), m)
  | .contains key => (.present (m.contains key), m)
  | .set key content => (.done, m.set key content)
  | .clear => (.done, m.clear)
  | .reopen => (.done, m)

def answers (m : MemoryCache) : List CacheRequest → List CacheAnswer
  | [] => []
  | request :: rest => (m.serve request).1 :: (m.serve request).2.answers rest

end MemoryCache

namespace DiskCache

open FileTree Location

def serve (c : DiskCache) (t : FileTree) : CacheRequest → Except Fault CacheAnswer × FileTree
  | .get key =>
      match c.get t key with
      | .ok (value, t') => (.ok (.content value), t')
      | .error fault => (.error fault, t)
  | .contains key =>
      match c.contains t key with
      | .ok (there, t') => (.ok (.present there), t')
      | .error fault => (.error fault, t)
  | .set key content => ((c.set t key content).1.map fun _ => .done, (c.set t key content).2)
  | .clear =>
      match c.clear t with
      | .ok t' => (.ok .done, t')
      | .error fault => (.error fault, t)
  | .reopen => ((openAt c.directory t).1.map fun _ => .done, (openAt c.directory t).2)

def answers (c : DiskCache) (t : FileTree) : List CacheRequest → List (Except Fault CacheAnswer)
  | [] => []
  | request :: rest => (c.serve t request).1 :: c.answers (c.serve t request).2 rest

/-- The file system did not do what it was asked for. Finding that a file is no text, or has too long an
integer, is none of its faults. -/
def Fault.Refuses : Fault → Prop
  | .file fault => fault ≠ .undecodable
  | .integerTooLong => False

/-! ## Tree and memory side by side -/

/-- Of some keys the tree holds the entries that the memory holds, and no file for any other. -/
structure Mirrors (c : DiskCache) (keys : List String) (m : MemoryCache) (t : FileTree) : Prop where
  held : ∀ key ∈ keys, ∀ content, m.get? key = some content →
    t.status (c.entry key) = .ok (.file (.text (entryText key content)))
  free : ∀ key ∈ keys, m.get? key = none → ∀ content, t.node? (c.place key) ≠ some (.file content)

variable {c : DiskCache} {keys : List String} {m : MemoryCache} {t : FileTree}

theorem Mirrors.grows (h : Mirrors c keys m t) {t' : FileTree} (hgrows : Grows t t') :
    Mirrors c keys m t' where
  held key hkey content hm := hgrows.status (h.held key hkey content hm)
  free key hkey hm content hfile := h.free key hkey hm content (hgrows.file_iff.mp hfile)

theorem Mirrors.get (h : Mirrors c keys m t) {key : String} (hkey : key ∈ keys) :
    c.get t key = .ok (((m.get? key).map Value.text).getD .null, t) ∨
      c.get t key = .error (.file .nameTooLong) ∧ ¬ Fits (c.entry key) := by
  cases hm : m.get? key with
  | none =>
    exact get_of_no_file fun content hfile =>
      h.free key hkey hm content (status_eq_ok_iff.mp hfile).2
  | some content => exact .inl (get_of_entry (h.held key hkey content hm))

theorem Mirrors.contains (h : Mirrors c keys m t) {key : String} (hkey : key ∈ keys) :
    c.contains t key = .ok (m.contains key, t) ∨
      c.contains t key = .error (.file .nameTooLong) ∧ ¬ Fits (c.entry key) := by
  unfold DiskCache.contains
  rcases h.get hkey with hget | ⟨hget, hlong⟩ <;> rw [hget]
  · left
    unfold MemoryCache.contains Assoc.contains
    change _ = Except.ok ((m.get? key).isSome, t)
    cases m.get? key <;> rfl
  · exact .inr ⟨rfl, hlong⟩

theorem Mirrors.set (h : Mirrors c keys m t) (hplaces : ∀ key ∈ keys, ∀ other ∈ keys,
    c.place key = c.place other → key = other) {key : String} (hkey : key ∈ keys) {content : String}
    (hset : (c.set t key content).1 = .ok ()) :
    Mirrors c keys (m.set key content) (c.set t key content).2 where
  held other ho held hm := by
    rw [MemoryCache.get?_set] at hm
    split at hm
    · next heq =>
      cases hm
      exact heq ▸ set_entry hset
    · next hne =>
      exact plantAt_status _ (h.held other ho held hm)
        (.inr fun hplace => hne (hplaces key hkey other ho hplace.symm))
  free other ho hm held hfile := by
    rw [MemoryCache.get?_set] at hm
    split at hm
    · cases hm
    · next hne =>
      refine h.free other ho hm held (file_of_plantAt (fun hplace => ?_) hfile)
      exact hne (hplaces key hkey other ho hplace.symm)

theorem Mirrors.clear (h : Mirrors c keys m t) (hgrouped : ∀ key ∈ keys, Grouped key)
    {t' : FileTree} (hclear : c.clear t = .ok t') : Mirrors c keys m.clear t' where
  held key hkey content hm := by cases hm
  free key hkey _ content hfile := by
    rcases clear_cases c t with ⟨-, hswept⟩ | ⟨hclosed, hsame | ⟨fault, hfault, -⟩⟩
    · obtain rfl : c.swept t = t' := Except.ok.inj (hswept.symm.trans hclear)
      rw [node?_swept] at hfile
      split at hfile
      · cases hfile
      · next hkept =>
        cases hm : m.get? key with
        | none => exact h.free key hkey hm content hfile
        | some held =>
          have hshelf := (shelf_of_entry (hgrouped key hkey) (h.held key hkey held hm)).2
          have hplace := place_of_grouped c (hgrouped key hkey)
          exact hkept ⟨hplace ▸ child_ne_root _ _, _, mem_shelves hshelf, hplace ▸ child_isBelow _ _⟩
    · obtain rfl : t = t' := Except.ok.inj (hsame.symm.trans hclear)
      cases hm : m.get? key with
      | none => exact h.free key hkey hm content hfile
      | some held => exact hclosed (shelf_of_entry (hgrouped key hkey) (h.held key hkey held hm)).1
    · cases hfault.symm.trans hclear

theorem refuses_of_onFiles {α : Type} {made : Except FileFault α} (hmade : made ≠ .error .undecodable)
    {fault : Fault} (h : onFiles made = .error fault) : fault.Refuses := by
  cases made with
  | ok _ => cases h
  | error other =>
    cases h
    exact fun hother => hmade (hother ▸ rfl)

theorem set_refused {key content : String} {fault : Fault} (h : (c.set t key content).1 = .error fault) :
    fault.Refuses :=
  refuses_of_onFiles (plantAt_ne_undecodable t (c.entry key) _) h

theorem openAt_refused {directory : Route} {fault : Fault} (h : (openAt directory t).1 = .error fault) :
    fault.Refuses := by
  refine refuses_of_onFiles (makeUp_ne_undecodable t directory.reverse) ?_
  change (onFiles (t.makeAll directory).1).map _ = _ at h
  unfold makeAll at h
  cases hmade : onFiles (t.makeUp directory.reverse).1 with
  | ok _ => rw [hmade] at h; cases h
  | error other => rw [hmade] at h; cases h; rfl

/-- One request is answered alike, or refused, and tree and memory stay alike. -/
theorem serve_mirrors (hgrouped : ∀ key ∈ keys, Grouped key) (hplaces : ∀ key ∈ keys,
    ∀ other ∈ keys, c.place key = c.place other → key = other) (h : Mirrors c keys m t)
    {request : CacheRequest} (hkeys : ∀ key, request.key? = some key → key ∈ keys) :
    (∃ fault, (c.serve t request).1 = .error fault ∧ fault.Refuses) ∨
      (c.serve t request).1 = .ok (m.serve request).1 ∧
        Mirrors c keys (m.serve request).2 (c.serve t request).2 := by
  cases request with
  | get key =>
    rcases h.get (hkeys key rfl) with hget | ⟨hget, -⟩ <;> rw [serve, hget]
    · exact .inr ⟨rfl, h⟩
    · exact .inl ⟨_, rfl, nofun⟩
  | contains key =>
    rcases h.contains (hkeys key rfl) with hcontains | ⟨hcontains, -⟩ <;> rw [serve, hcontains]
    · exact .inr ⟨rfl, h⟩
    · exact .inl ⟨_, rfl, nofun⟩
  | set key content =>
    cases hset : (c.set t key content).1 with
    | error fault => exact .inl ⟨fault, congrArg (Except.map _) hset, set_refused hset⟩
    | ok _ => exact .inr ⟨congrArg (Except.map _) hset, h.set hplaces (hkeys key rfl) hset⟩
  | clear =>
    rcases clear_cases c t with ⟨-, hclear⟩ | ⟨-, hclear | ⟨fault, hclear, hfault⟩⟩ <;>
      rw [serve, hclear]
    · exact .inr ⟨rfl, h.clear hgrouped hclear⟩
    · exact .inr ⟨rfl, h.clear hgrouped hclear⟩
    · exact .inl ⟨_, rfl, hfault⟩
  | reopen =>
    cases hopen : (openAt c.directory t).1 with
    | error fault => exact .inl ⟨fault, congrArg (Except.map _) hopen, openAt_refused hopen⟩
    | ok _ => exact .inr ⟨congrArg (Except.map _) hopen, h.grows (makeAll_grows t c.directory)⟩

/-- Whatever is asked, the answers are alike up to the first refusal. -/
theorem answers_mirrored (hgrouped : ∀ key ∈ keys, Grouped key) (hplaces : ∀ key ∈ keys,
    ∀ other ∈ keys, c.place key = c.place other → key = other) {requests : List CacheRequest}
    (hkeys : ∀ request ∈ requests, ∀ key, request.key? = some key → key ∈ keys)
    (hserved : ∀ fault, .error fault ∈ c.answers t requests → ¬ fault.Refuses)
    (h : Mirrors c keys m t) : c.answers t requests = (m.answers requests).map .ok := by
  induction requests generalizing m t with
  | nil => rfl
  | cons request rest ih =>
    rw [answers] at hserved
    rw [answers, MemoryCache.answers]
    rcases serve_mirrors hgrouped hplaces h (hkeys request List.mem_cons_self) with
      ⟨fault, hfault, hrefuses⟩ | ⟨hanswer, hafter⟩
    · exact absurd hrefuses (hserved fault (hfault ▸ List.mem_cons_self))
    · rw [List.map_cons, hanswer, ih (fun other ho => hkeys other (List.mem_cons_of_mem _ ho))
        (fun fault hmem => hserved fault (List.mem_cons_of_mem _ hmem)) hafter]

/-! ## Room for entries -/

/-- The cache directory is there, and nothing is in the way of the entries of some keys. -/
structure Room (c : DiskCache) (keys : List String) (t : FileTree) : Prop where
  plain : ".." ∉ c.directory
  opened : t.status c.directory = .ok .directory
  fits : ∀ key ∈ keys, Fits (c.entry key)
  shelf : ∀ key ∈ keys, ∀ content, t.node? (c.shelf key) ≠ some (.file content)
  entry : ∀ key ∈ keys, t.node? (c.place key) ≠ some .directory

theorem ofRoute_shelf (c : DiskCache) {key : String} (h : Grouped key) :
    ofRoute (c.directory ++ [directoryName key]) = c.shelf key := by
  rw [ofRoute_append, follow, List.foldl_cons, List.foldl_nil, step_of_ne _ (directoryName_ne_up h)]
  rfl

theorem shelf_ne_root (c : DiskCache) (key : String) : c.shelf key ≠ root := child_ne_root _ _

theorem shelf_ne_place (c : DiskCache) {key other : String} (h : Grouped other) :
    c.shelf key ≠ c.place other := by
  intro heq
  rw [place_of_grouped c h] at heq
  have hlength := congrArg (fun l => l.names.length) heq
  simp [shelf, child] at hlength

theorem Room.exists_set (h : Room c keys t) {key : String} (hkey : key ∈ keys) (hgrouped : Grouped key)
    (content : String) : ∃ grown, (grown = t ∨ grown = t.put (c.shelf key) .directory) ∧
      c.set t key content =
        (.ok (), grown.put (c.place key) (.file (.text (entryText key content)))) := by
  have hentry : c.entry key = (c.directory ++ [directoryName key]) ++ [fileName key] := by
    rw [DiskCache.entry, entryRoute_of_grouped hgrouped, List.append_assoc]
    rfl
  obtain ⟨hsize, hnames⟩ := hentry ▸ h.fits key hkey
  obtain ⟨⟨-, hopens⟩, hhome⟩ := status_eq_ok_iff.mp h.opened
  have hshelf := ofRoute_shelf c hgrouped
  have hreaches : t.Reaches (c.directory ++ [directoryName key]) := by
    rw [routeSize_append] at hsize
    exact ⟨by omega, opens_append.mpr ⟨hopens, hhome, hnames _ (by simp), trivial⟩⟩
  obtain ⟨grown, hgrown, hmake⟩ : ∃ grown, (grown = t ∨ grown = t.put (c.shelf key) .directory) ∧
      t.makeAll (c.directory ++ [directoryName key]) = (.ok (), grown) := by
    rcases hnode : t.node? (c.shelf key) with _ | held | _
    · rw [← hshelf] at hnode ⊢
      exact ⟨_, .inr rfl, makeAll_of_reaches hreaches hnode⟩
    · exact absurd hnode (h.shelf key hkey held)
    · exact ⟨t, .inl rfl, makeAll_of_directory (status_eq_ok_iff.mpr ⟨hreaches, hshelf ▸ hnode⟩)⟩
  refine ⟨grown, hgrown, ?_⟩
  have hfree : grown.node? (c.place key) ≠ some .directory := by
    rcases hgrown with rfl | rfl
    · exact h.entry key hkey
    · rw [node?_put t (shelf_ne_root c key), if_neg (shelf_ne_place c hgrouped).symm]
      exact h.entry key hkey
  have hplant : t.plantAt (c.entry key) (.text (entryText key content)) =
      (.ok (), grown.put (c.place key) (.file (.text (entryText key content)))) := by
    have hfits := h.fits key hkey
    rw [place] at hfree ⊢
    rw [hentry] at hfits hfree ⊢
    exact plantAt_of_makeAll hmake hfits hfree
  exact congrArg (fun planted => (onFiles planted.1, planted.2)) hplant

theorem Room.set (h : Room c keys t) (hgrouped : ∀ key ∈ keys, Grouped key) {key : String}
    (hkey : key ∈ keys) (content : String) : Room c keys (c.set t key content).2 := by
  obtain ⟨grown, hgrown, hset⟩ := h.exists_set hkey (hgrouped key hkey) content
  have hplace : c.place key ≠ root := place_of_grouped c (hgrouped key hkey) ▸ child_ne_root _ _
  have hdirectory : ∀ l, (c.set t key content).2.node? l = some .directory →
      t.node? l = some .directory ∨ l = c.shelf key := by
    intro l hl
    rw [hset, node?_put grown hplace] at hl
    split at hl
    · cases hl
    · rcases hgrown with rfl | rfl
      · exact .inl hl
      · rw [node?_put t (shelf_ne_root c key)] at hl
        split at hl
        · next heq => exact .inr heq
        · exact .inl hl
  exact {
    plain := h.plain
    opened := plantAt_status _ h.opened (.inl rfl)
    fits := h.fits
    shelf := fun other ho held hfile =>
      h.shelf other ho held (file_of_plantAt (shelf_ne_place c (hgrouped key hkey)) hfile)
    entry := fun other ho hdir => (hdirectory _ hdir).elim (h.entry other ho)
      fun heq => shelf_ne_place c (hgrouped other ho) heq.symm }

theorem Room.swept (h : Room c keys t) : Room c keys (c.swept t) where
  plain := h.plain
  opened := by
    obtain ⟨⟨hsize, hopens⟩, hhome⟩ := status_eq_ok_iff.mp h.opened
    refine status_eq_ok_iff.mpr ⟨⟨hsize, hopens.congr_above h.plain fun l hl => ?_⟩, ?_⟩
    · exact node?_swept_of_length_le (Nat.le_of_lt hl)
    · exact (node?_swept_of_length_le (Nat.le_refl c.home.names.length)).trans hhome
  fits := h.fits
  shelf key hkey content hfile := by
    rw [node?_swept] at hfile
    split at hfile
    · cases hfile
    · exact h.shelf key hkey content hfile
  entry key hkey hdirectory := by
    rw [node?_swept] at hdirectory
    split at hdirectory
    · cases hdirectory
    · exact h.entry key hkey hdirectory

/-- Where there is room no request is refused, and the room stays. -/
theorem room_serve (hgrouped : ∀ key ∈ keys, Grouped key) (h : Mirrors c keys m t)
    (hroom : Room c keys t) {request : CacheRequest}
    (hkeys : ∀ key, request.key? = some key → key ∈ keys) :
    (∃ answer, (c.serve t request).1 = .ok answer) ∧ Room c keys (c.serve t request).2 := by
  cases request with
  | get key =>
    rcases h.get (hkeys key rfl) with hget | ⟨-, hlong⟩
    · rw [serve, hget]
      exact ⟨⟨_, rfl⟩, hroom⟩
    · exact absurd (hroom.fits key (hkeys key rfl)) hlong
  | contains key =>
    rcases h.contains (hkeys key rfl) with hcontains | ⟨-, hlong⟩
    · rw [serve, hcontains]
      exact ⟨⟨_, rfl⟩, hroom⟩
    · exact absurd (hroom.fits key (hkeys key rfl)) hlong
  | set key content =>
    have hkey := hkeys key rfl
    obtain ⟨grown, -, hset⟩ := hroom.exists_set hkey (hgrouped key hkey) content
    exact ⟨⟨.done, congrArg (fun set => set.1.map fun _ => CacheAnswer.done) hset⟩,
      hroom.set hgrouped hkey content⟩
  | clear =>
    rcases clear_cases c t with ⟨-, hclear⟩ | ⟨hclosed, -⟩
    · rw [serve, hclear]
      exact ⟨⟨_, rfl⟩, hroom.swept⟩
    · exact absurd hroom.opened hclosed
  | reopen =>
    have hopen : openAt c.directory t = (.ok c, t) := by
      unfold openAt
      rw [makeAll_of_directory hroom.opened]
      rfl
    rw [serve, hopen]
    exact ⟨⟨_, rfl⟩, hroom⟩

theorem answers_served (hgrouped : ∀ key ∈ keys, Grouped key) (hplaces : ∀ key ∈ keys,
    ∀ other ∈ keys, c.place key = c.place other → key = other) {requests : List CacheRequest}
    (hkeys : ∀ request ∈ requests, ∀ key, request.key? = some key → key ∈ keys)
    (h : Mirrors c keys m t) (hroom : Room c keys t) (fault : Fault) :
    .error fault ∉ c.answers t requests := by
  -- Each request leaves room for the next one, and the cache mirrors the memory again.
  induction requests generalizing m t with
  | nil => exact nofun
  | cons request rest ih =>
    have hkey := hkeys request List.mem_cons_self
    obtain ⟨⟨answer, hanswer⟩, hafter⟩ := room_serve hgrouped h hroom hkey
    rcases serve_mirrors hgrouped hplaces h hkey with ⟨other, hother, -⟩ | ⟨-, hmirrors⟩
    · cases hother.symm.trans hanswer
    · rw [answers, List.mem_cons, hanswer, not_or]
      exact ⟨nofun, ih (fun other ho => hkeys other (List.mem_cons_of_mem _ ho)) hmirrors hafter⟩

/-! ## All requests -/

def keysOf (requests : List CacheRequest) : List String := requests.filterMap CacheRequest.key?

theorem mem_keysOf {requests : List CacheRequest} {request : CacheRequest} (h : request ∈ requests)
    {key : String} (hkey : request.key? = some key) : key ∈ keysOf requests :=
  List.mem_filterMap.mpr ⟨request, h, hkey⟩

/-- On a file system that does what it is asked for, a cache on disk without entries answers all
requests as an empty cache in memory does: the keys have package parts that name directories of their
own, and no two of them share an entry. The file system does so wherever there is room for the entries.
What a file with an entry in it says is the key and the content that it was written for. -/
theorem answers_eq_memory (c : DiskCache) (t : FileTree) (requests : List CacheRequest)
    (hgrouped : ∀ key ∈ keysOf requests, Grouped key)
    (hdistinct : ∀ key ∈ keysOf requests, ∀ other ∈ keysOf requests,
      c.entry key = c.entry other → key = other)
    (hfresh : ∀ key ∈ keysOf requests, ∀ content, t.node? (c.place key) ≠ some (.file content)) :
    ((∀ fault, .error fault ∈ c.answers t requests → ¬ fault.Refuses) →
      c.answers t requests = (({} : MemoryCache).answers requests).map .ok) ∧
    (Room c (keysOf requests) t → ∀ fault, .error fault ∉ c.answers t requests) ∧
    ∀ key content, (Content.text (entryText key content)).read?.map readEntry =
      some (.ok (some (.text key, .text content))) := by
  have hplaces : ∀ key ∈ keysOf requests, ∀ other ∈ keysOf requests,
      c.place key = c.place other → key = other := fun key hkey other ho heq =>
    hdistinct key hkey other ho (place_inj (hgrouped key hkey) (hgrouped other ho) heq)
  have hstart : Mirrors c (keysOf requests) {} t :=
    { held := fun _ _ _ hm => by cases hm
      free := fun key hkey _ => hfresh key hkey }
  refine ⟨fun hserved => ?_, fun hroom => ?_, fun key content => ?_⟩
  · exact answers_mirrored hgrouped hplaces (fun _ hr _ => mem_keysOf hr) hserved hstart
  · exact answers_served hgrouped hplaces (fun _ hr _ => mem_keysOf hr) hstart hroom
  · rw [read?_entryText, Option.map_some, readEntry_entryText]

namespace Bare

def tree : FileTree := ⟨[(⟨["cache"]⟩, .directory)]⟩

def cache : DiskCache := ⟨["cache"]⟩

/-- A text with a quote, a line feed and a character beyond the first plane is kept, also when the
cache is opened again, and until it is cleared. -/
def requests : List CacheRequest := [.contains "left-pad@1.3.0/index.d.ts",
  .set "@types/node/fs.d.ts" "\"\n𝄞", .get "@types/node/fs.d.ts", .reopen,
  .contains "@types/node/fs.d.ts", .clear, .get "@types/node/fs.d.ts"]

theorem no_file (l : Location) (content : Content) : tree.node? l ≠ some (.file content) := by
  unfold FileTree.node? tree find find
  intro h
  split at h
  · cases h
  · split at h <;> cases h

theorem room : Room cache (keysOf requests) tree where
  plain := by decide
  opened := rfl
  fits := by decide +kernel
  shelf _ _ := no_file _
  entry := by decide +kernel

theorem requests_mirrored : cache.answers tree requests = [.ok (.present false), .ok .done,
    .ok (.content (.text "\"\n𝄞")), .ok .done, .ok (.present true), .ok .done, .ok (.content .null)] := by
  have hmemory := answers_eq_memory cache tree requests (by decide +kernel) (by decide +kernel)
    (fun _ _ => no_file _)
  exact hmemory.1 fun fault hfault => absurd hfault (hmemory.2.1 room fault)

end Bare

end DiskCache

end DeclarationFetch
