import DeclarationFetch.Proofs.Package.Placement
import DeclarationFetch.Proofs.Resolution.Containment
import DeclarationFetch.Proofs.Resolution.Lasting
import DeclarationFetch.Proofs.Resolution.Routing

/-! # Which manifest names the entry of a package

Looking for the entry of a package, with nothing pinned and an empty cache, where the source has one answer
to each request and never fails.

* `manifestAt`, `namedEntry`: the manifest that counts for a path in a package, and the entry that a
  manifest names.
* `Stock c fit entries s`: nothing is pinned, and the cache has just these entries.
* `Walk.ComesTo`: what a walk comes to with such a source.
* `fileKey_ne_definitelyTyped`: the package that declares types is looked up under a key of its own.
* `packageEntry_in_order`: the package's own manifest counts first, then that of the package which declares
  its types. Without a manifest of its own a package has no entry.
-/

namespace DeclarationFetch

namespace Package

open DeclarationFetch.Path

/-! ## Keys -/

variable {name path : String}

theorem fileKey_root_ne_definitelyTyped (name : String) :
    fileKey name none "package.json" ≠ fileKey (definitelyTyped name) none "package.json" := by
  intro heq
  have hlength := congrArg (List.length ∘ String.toList) heq
  simp only [Function.comp_apply, toList_fileKey, versioned_none, List.length_append] at hlength
  have hlt := length_lt_definitelyTyped name
  omega

theorem parts_fileKey (name path : String) :
    parts (fileKey name none path).toList = parts name.toList ++ parts path.toList := by
  rw [toList_fileKey, parts_append_slash, versioned_none]

theorem parts_eq_of_fileKey_eq
    (h : fileKey name none path = fileKey (definitelyTyped name) none "package.json") :
    parts name.toList ++ parts path.toList =
      parts (definitelyTyped name).toList ++ ["package.json".toList] := by
  have hmanifest : parts "package.json".toList = ["package.json".toList] := by decide
  rw [← hmanifest, ← parts_fileKey, ← parts_fileKey, h]

/-- Only a name with a scope begins like that of the package which declares types. -/
theorem scoped_of_fileKey_eq
    (h : fileKey name none path = fileKey (definitelyTyped name) none "package.json") :
    name.toList.head? = some '@' := by
  refine Decidable.byContradiction fun hname => ?_
  have hhead := congrArg (List.head? ∘ String.toList) h
  have hscope : typesScope.toList = '@' :: "types/".toList := by decide
  simp only [Function.comp_apply, toList_fileKey, versioned_none, definitelyTyped_plain hname,
    String.toList_append, hscope] at hhead
  cases hchars : name.toList with
  | nil =>
    rw [hchars] at hhead
    exact absurd (Option.some.inj hhead) (by decide)
  | cons c rest =>
    rw [hchars] at hhead hname
    exact hname hhead

/-- Where the slash behind a scope is replaced, the next part gets longer. -/
theorem parts_ne_of_replaced {front tail : List Char} (hs : '/' ∉ front) (more : List (List Char)) :
    parts ('@' :: (front ++ '/' :: tail)) ++ more ≠
      scope :: parts (front ++ "__".toList ++ tail) ++ ["package.json".toList] := by
  intro hparts
  obtain ⟨first, others, htail⟩ := List.exists_cons_of_ne_nil (parts_ne_nil tail)
  have hfront : parts (front ++ "__".toList) = [] ++ [front ++ "__".toList] :=
    parts_of_not_mem (by simp [hs])
  rw [parts_append hfront htail, ← List.cons_append, parts_append_slash,
    parts_of_not_mem (by simp [hs]), htail] at hparts
  have hfirst := (List.cons.inj (List.cons.inj hparts).2).1
  have hlength := congrArg List.length hfirst
  simp only [List.length_append] at hlength
  have hunderscores : "__".toList.length = 2 := by decide
  omega

/-- A manifest has another key than that of the package which declares types, but for one in a directory of
the package that is named like the scope itself. -/
theorem fileKey_ne_definitelyTyped (h : ¬ (name = "@types" ∧ path = "types/package.json")) :
    fileKey name none path ≠ fileKey (definitelyTyped name) none "package.json" := by
  intro heq
  have hparts := parts_eq_of_fileKey_eq heq
  obtain ⟨rest, hname⟩ := List.head?_eq_some_iff.mp (scoped_of_fileKey_eq heq)
  have hscoped : parts (definitelyTyped name).toList =
      scope :: parts (Text.replaceFirstIn ['/'] "__".toList rest) := by
    rw [toList_definitelyTyped_scoped hname, parts_scoped]
  rw [hscoped, hname] at hparts
  rcases Text.replaceFirstIn_slash "__".toList rest with ⟨hs, hkept⟩ | ⟨front, tail, hs, rfl, hreplaced⟩
  · -- a name that is all scope
    rw [hkept, parts_of_not_mem hs, parts_of_not_mem (by simp [hs])] at hparts
    obtain ⟨hhead, htail⟩ := List.cons.inj hparts
    have hrest : rest = "types".toList := (List.cons.inj hhead).2
    subst hrest
    refine h ⟨String.toList_inj.mp (hname.trans (by decide)), String.toList_inj.mp ?_⟩
    rw [← unparts_parts path.toList, show parts path.toList = _ from htail]
    decide
  · rw [hreplaced] at hparts
    exact parts_ne_of_replaced hs _ hparts

end Package

namespace Resolution

variable {ε α β : Type} {c : Collaborators ε} {files : ε → MemoryHost} {fit : ε → Prop}

/-! ## What is served -/

/-- A source that has one answer to each request and never fails. -/
def answering (source : Request → Option String) (request : Request) (_ : Unit) : Answer × Unit :=
  (.ok (source request), ())

/-- A file of a package that is pinned to no version. -/
def served (source : Request → Option String) (package path : String) : Option String :=
  source ⟨package, path, .null⟩

def ServesObjects (source : Request → Option String) : Prop :=
  ∀ package directory text, served source package (Path.join [directory, "package.json"]) = some text →
    ∃ manifest, Manifest.read package text = .ok manifest

/-- The manifest that counts for a path in a package, with its directory: the one in the directory of the
path, or else the one at the root. -/
def manifestAt (source : Request → Option String) (package subPath : String) :
    Option (String × String) :=
  match served source package (Path.join [subPath, "package.json"]) with
  | some text => some (text, subPath)
  | none =>
      if subPath = "" then none
      else (served source package "package.json").map fun text => (text, "")

/-- The entry that a manifest names, if it is typed. -/
def namedEntry (package directory subPath text : String) : Option Wanted :=
  match Manifest.read package text with
  | .ok manifest => manifest.entry?.map fun entry => ⟨package, "", entryPath directory subPath entry⟩
  | .error _ => none

/-- The entry in the package that declares the types of another. -/
def declaredEntry (source : Request → Option String) (package subPath : String) : Option Wanted :=
  (served source (Package.definitelyTyped package) "package.json").bind
    (namedEntry (Package.definitelyTyped package) "" subPath)

theorem package_of_namedEntry {package directory subPath text : String} {w : Wanted}
    (h : namedEntry package directory subPath text = some w) : w.package = package := by
  unfold namedEntry at h
  split at h
  · obtain ⟨entry, -, rfl⟩ := Option.map_eq_some_iff.mp h
    rfl
  · cases h

/-! ## Walks -/

/-- A walk comes to a value, and to a scene, of which `Q` holds. -/
def Walk.Comes (source : Request → Option String) (w : Walk ε α) (s : Scene ε)
    (Q : α → Scene ε → Prop) : Prop :=
  ∃ a s', (w s).run (answering source) () = (.ok a, s', ()) ∧ Q a s'

namespace Walk.Comes

variable {source : Request → Option String} {w : Walk ε α} {s : Scene ε} {Q : α → Scene ε → Prop}

theorem of_done {a : α} {s' : Scene ε} (h : w s = .done (.ok a) s') (hq : Q a s') :
    w.Comes source s Q :=
  ⟨a, s', by rw [h]; rfl, hq⟩

theorem pure {a : α} (h : Q a s) : (Walk.pure a).Comes source s Q := of_done rfl h

theorem act {f : ε → Except Fault α × ε} {a : α} (h : (f s.env).1 = .ok a)
    (hq : Q a { s with env := (f s.env).2 }) : (Walk.act f).Comes source s Q :=
  of_done (by rw [Walk.act, h]) hq

theorem bind {f : α → Walk ε β} {R : β → Scene ε → Prop} (h : w.Comes source s Q)
    (hf : ∀ a s', Q a s' → (f a).Comes source s' R) : (w >>= f).Comes source s R := by
  obtain ⟨a, s', hrun, hq⟩ := h
  obtain ⟨b, s'', hrun', hr⟩ := hf a s' hq
  refine ⟨b, s'', ?_, hr⟩
  show ((w s).andThen _).run (answering source) () = _
  rw [Step.run_andThen, hrun]
  exact hrun'

theorem read {f : Scene ε → Walk ε α} (h : (f s).Comes source s Q) :
    (Walk.scene >>= f).Comes source s Q := h

theorem mono {Q' : α → Scene ε → Prop} (h : w.Comes source s Q) (hq : ∀ a s', Q a s' → Q' a s') :
    w.Comes source s Q' := by
  obtain ⟨a, s', hrun, ha⟩ := h
  exact ⟨a, s', hrun, hq a s' ha⟩

end Walk.Comes

/-! ## Lookups -/

/-- Nothing is pinned, and the cache has just these entries. -/
structure Stock (c : Collaborators ε) (fit : ε → Prop) (entries : List (String × String)) (s : Scene ε) :
    Prop where
  fit : fit s.env
  pins : s.pins = {}
  held : ∀ key, c.held s.env key = .ok ((entries.lookup key).map .text)

section Lookups

variable {source : Request → Option String} {s : Scene ε} {entries : List (String × String)}
  {package path subPath : String}

theorem Stock.of_still {env : ε} (h : Stock c fit entries s) (hs : Still c files fit s.env env) :
    Stock c fit entries { s with env } where
  fit := hs.fit h.fit
  pins := h.pins
  held key := (hs.held key).trans (h.held key)

theorem Stock.store (hc : Lasting c files fit) (h : Stock c fit entries s) (key text : String) :
    Stock c fit ((key, text) :: entries) { s with env := (c.store key text s.env).2 } where
  fit := hc.fit_store _ _ _ h.fit
  pins := h.pins
  held other := by
    rw [hc.held_store _ _ _ _ h.fit, h.held, List.lookup_cons]
    by_cases hk : other = key
    · simp [hk]
    · rw [if_neg hk, beq_eq_false_iff_ne.mpr hk]

def stored (source : Request → Option String) (package path : String) (entries : List (String × String)) :
    List (String × String) :=
  match served source package path with
  | some text => (Package.fileKey package none path, text) :: entries
  | none => entries

theorem Stock.retrieve (hc : Lasting c files fit) (h : Stock c fit entries s)
    (hnew : entries.lookup (Package.fileKey package none path) = none) :
    (retrieve c package path).Comes source s fun o s' =>
      o = (served source package path).map .text ∧ Stock c fit (stored source package path entries) s' := by
  have hversion : s.pins.version? package = none := by
    rw [h.pins]
    rfl
  have hpin : s.pins.pin package = .null := by
    rw [h.pins]
    rfl
  have hmissing : c.held s.env (Package.fileKey package (s.pins.version? package) path) = .ok none := by
    rw [hversion, h.held, hnew]
    rfl
  have hcached := h.of_still (hc.still_cached (Package.fileKey package none path) s.env)
  unfold Walk.Comes stored
  rw [retrieve_of_missing hc.toCacheCalm hmissing, hversion, hpin]
  show ∃ a s', (received c _ (.ok (served source package path)) _).run (answering source) () = _ ∧ _
  cases served source package path with
  | none => exact ⟨none, _, rfl, rfl, hcached⟩
  | some text =>
    refine ⟨some (.text text), _, rfl, rfl, ?_⟩
    exact (hcached.store hc _ text).of_still (hc.still_afterReport ..)

theorem lookup_stored {key : String} (h : key ≠ Package.fileKey package none path) :
    (stored source package path []).lookup key = none := by
  unfold stored
  cases served source package path with
  | none => rfl
  | some text => rw [List.lookup_cons, beq_eq_false_iff_ne.mpr h, List.lookup_nil]

section Entries

variable (hc : Lasting c files fit) (ht : Tame c)
include ht

theorem report_comes (u : Update) : (report c u).Comes source s fun _ _ => True :=
  .of_done (report_of_ok (ht.onUpdate u s.env)) trivial

theorem inject_comes (text : String) : (inject c path text).Comes source s fun _ _ => True := by
  obtain ⟨result, s', hdone, hi⟩ := inject_eq_done (c := c) path text s
  obtain ⟨held, hheld⟩ := ht.hosted path s.env
  cases hi with
  | unreadable h => cases h.symm.trans hheld
  | present => exact .of_done hdone trivial
  | refused _ h => cases h.symm.trans (ht.host ..)
  | placed => exact .of_done hdone trivial

theorem pin_comes (version : String) : (pin c package version).Comes source s fun _ _ => True := by
  refine .read ?_
  dsimp only
  split
  · exact .pure trivial
  · refine .bind (Q := fun _ _ => True) (.of_done rfl trivial) fun _ s₁ _ => .read ?_
    split
    · exact .act (ht.onVersions _ s₁.env) trivial
    · exact .pure trivial

/-- A manifest comes to the entry that it names. One that is not typed leaves everything as it is. -/
theorem manifestEntry_comes {directory text : String} (typed : Bool) {manifest : Manifest}
    (hread : Manifest.read package text = .ok manifest) :
    (manifestEntry c package directory subPath (.text text) typed).Comes source s fun o s' =>
      o = namedEntry package directory subPath text ∧ (o = none → s' = s) := by
  refine .bind (.pure (Q := fun t s' => t = text ∧ s' = s) ⟨rfl, rfl⟩) fun t s₁ ht₁ => ?_
  obtain ⟨rfl, rfl⟩ := ht₁
  refine .bind (Q := fun m s' => m = manifest ∧ s' = s₁) (.of_done (congrArg (Step.done · s₁) hread)
    ⟨rfl, rfl⟩) fun m s₂ hm => ?_
  obtain ⟨rfl, rfl⟩ := hm
  have hnamed : namedEntry package directory subPath t =
      m.entry?.map fun entry => ⟨package, "", entryPath directory subPath entry⟩ := by
    unfold namedEntry
    rw [hread]
  rw [hnamed]
  cases m.entry? with
  | none => exact .pure ⟨rfl, fun _ => rfl⟩
  | some entry =>
    let w : Wanted := ⟨package, "", entryPath directory subPath entry⟩
    have reported : ∀ s' : Scene ε, (do
        Resolution.report c (.lookedUpPackage package typed true)
        pure (some w) : Walk ε (Option Wanted)).Comes source s' fun o s' =>
          o = some w ∧ (o = none → s' = s₂) :=
      fun s' => .bind (Q := fun _ _ => True) (report_comes ht _) fun _ _ _ => .pure ⟨rfl, nofun⟩
    refine .bind (inject_comes ht t) fun _ s₃ _ => ?_
    cases m.version? with
    | none => exact reported s₃
    | some version =>
      refine .bind (pin_comes ht version) fun _ s₄ _ => ?_
      obtain ⟨known, hknown⟩ := ht.isCached
        (Package.fileKey package (some version) (Path.join [directory, "package.json"])) s₄.env
      refine .bind (Q := fun _ _ => True) (.act hknown trivial) fun _ s₅ _ => ?_
      split
      · exact .bind (Q := fun _ _ => True) (.act (ht.store ..) trivial) fun _ s₆ _ => reported s₆
      · exact reported s₅

end Entries

section Packages

variable (hc : Lasting c files fit) (ht : Tame c) (hobjects : ServesObjects source)
include hc

theorem manifestFor_comes (h : Stock c fit [] s) :
    (manifestFor c package subPath).Comes source s fun o s' =>
      o = (manifestAt source package subPath).map (fun found => (.text found.1, found.2)) ∧
        ∃ path, (path = Path.join [subPath, "package.json"] ∨ path = "package.json") ∧
          Stock c fit (stored source package path []) s' := by
  refine .bind (h.retrieve hc rfl) fun o s₁ ⟨ho, h₁⟩ => ?_
  subst ho
  unfold manifestAt
  cases hown : served source package (Path.join [subPath, "package.json"]) with
  | some text => exact .pure ⟨rfl, _, .inl rfl, h₁⟩
  | none =>
    show Walk.Comes _ (if subPath = "" then pure none else _) _ _
    by_cases hsub : subPath = ""
    · rw [if_pos hsub]
      exact .pure ⟨by rw [if_pos hsub]; rfl, _, .inl rfl, h₁⟩
    · rw [if_neg hsub]
      have hnone : stored source package (Path.join [subPath, "package.json"]) [] = [] := by
        unfold stored
        rw [hown]
      refine .bind ((hnone ▸ h₁).retrieve hc rfl) fun o s₂ ⟨ho, h₂⟩ => .pure ⟨?_, _, .inr rfl, h₂⟩
      subst ho
      dsimp only
      rw [if_neg hsub, Option.map_map, Option.map_map]
      rfl

include ht hobjects

theorem typedEntry_comes {entries : List (String × String)} (h : Stock c fit entries s)
    (hnew : entries.lookup (Package.fileKey (Package.definitelyTyped package) none "package.json") = none) :
    (typedEntry c package subPath).Comes source s fun o _ => o = declaredEntry source package subPath := by
  refine .bind (h.retrieve hc hnew) fun o s₁ ⟨ho, h₁⟩ => ?_
  subst ho
  unfold declaredEntry
  cases hserved : served source (Package.definitelyTyped package) "package.json" with
  | none => exact .pure rfl
  | some text =>
    obtain ⟨manifest, hread⟩ := hobjects (Package.definitelyTyped package) "" text
      (by rwa [show Path.join ["", "package.json"] = "package.json" from by decide])
    exact (manifestEntry_comes ht true hread).mono fun o _ ho => ho.1

omit hc ht in
theorem read_manifestAt {text directory : String}
    (h : manifestAt source package subPath = some (text, directory)) :
    ∃ manifest, Manifest.read package text = .ok manifest := by
  unfold manifestAt at h
  split at h
  · next hown =>
    cases h
    exact hobjects _ _ _ hown
  · split at h
    · cases h
    · obtain ⟨_, hroot, ht⟩ := Option.map_eq_some_iff.mp h
      cases ht
      refine hobjects package "" text ?_
      rwa [show Path.join ["", "package.json"] = "package.json" from by decide]

theorem ownOrTypedEntry_comes (h : Stock c fit [] s)
    (hscope : ¬ (package = "@types" ∧ Path.join [subPath, "package.json"] = "types/package.json")) :
    (ownOrTypedEntry c package subPath).Comes source s fun o _ =>
      o = (manifestAt source package subPath).bind fun found =>
        (namedEntry package found.2 subPath found.1).or (declaredEntry source package subPath) := by
  refine .bind (manifestFor_comes hc h) fun o s₁ ⟨ho, path, hpath, h₁⟩ => ?_
  subst ho
  cases hown : manifestAt source package subPath with
  | none => exact .pure rfl
  | some found =>
    obtain ⟨text, directory⟩ := found
    obtain ⟨manifest, hread⟩ := read_manifestAt hobjects hown
    refine .bind (manifestEntry_comes ht false hread) fun o s₂ ⟨ho, hsame⟩ => ?_
    cases o with
    | some w => exact .pure (by rw [Option.bind_some, ← ho]; rfl)
    | none =>
      obtain rfl := hsame rfl
      have hnew : Package.fileKey (Package.definitelyTyped package) none "package.json" ≠
          Package.fileKey package none path := by
        obtain rfl | rfl := hpath
        · exact (Package.fileKey_ne_definitelyTyped hscope).symm
        · exact (Package.fileKey_root_ne_definitelyTyped package).symm
      refine (typedEntry_comes hc ht hobjects h₁ (lookup_stored hnew)).mono fun o _ ho₂ => ?_
      rw [ho₂, Option.bind_some, ← ho]
      rfl

theorem packageEntry_comes (h : Stock c fit [] s) (hopen : s.options.onlySpecifiedPackages = false)
    (hscope : ¬ (package = "@types" ∧ Path.join [subPath, "package.json"] = "types/package.json")) :
    (packageEntry c package subPath).Comes source s fun o _ =>
      o = (manifestAt source package subPath).bind fun found =>
        (namedEntry package found.2 subPath found.1).or (declaredEntry source package subPath) := by
  refine .read ?_
  dsimp only
  rw [hopen, Bool.false_and, if_neg Bool.false_ne_true]
  refine .bind (ownOrTypedEntry_comes hc ht hobjects h hscope) fun o s₁ ho => ?_
  split
  · exact .bind (Q := fun _ _ => True) (report_comes ht _) fun _ _ _ => .pure ho
  · exact .pure ho

end Packages

end Lookups

/-- With nothing pinned and an empty cache, the lookup of a package comes to an end. A package that has a
manifest has the entry that it names, if it is typed; else the one that the package which declares its types
names, if that is; and else none. A package without a manifest has none. -/
theorem packageEntry_in_order (hc : Lasting c files fit) (ht : Tame c) (source : Request → Option String)
    (hobjects : ServesObjects source) (s : Scene ε) (hfit : fit s.env) (hpins : s.pins = {})
    (hempty : ∀ key, c.held s.env key = .ok none) (hopen : s.options.onlySpecifiedPackages = false)
    (package subPath : String)
    (hscope : ¬ (package = "@types" ∧ Path.join [subPath, "package.json"] = "types/package.json")) :
    ∃ o s', (packageEntry c package subPath s).run (answering source) () = (.ok o, s', ()) ∧
      (manifestAt source package subPath = none → o = none) ∧
      ∀ text directory, manifestAt source package subPath = some (text, directory) →
        (∀ w, namedEntry package directory subPath text = some w → o = some w ∧ w.package = package) ∧
        (namedEntry package directory subPath text = none →
          ∀ w, declaredEntry source package subPath = some w →
            o = some w ∧ w.package = Package.definitelyTyped package) ∧
        (o = none ↔ namedEntry package directory subPath text = none ∧
          declaredEntry source package subPath = none) := by
  obtain ⟨o, s', hrun, rfl⟩ := packageEntry_comes hc ht hobjects ⟨hfit, hpins, hempty⟩ hopen hscope
  refine ⟨_, s', hrun, fun hnone => by rw [hnone]; rfl, fun text directory hown => ?_⟩
  rw [hown, Option.bind_some]
  refine ⟨fun w hw => ⟨by rw [hw]; rfl, package_of_namedEntry hw⟩, fun hnone w hw => ?_, Option.or_eq_none_iff⟩
  obtain ⟨text, -, hnamed⟩ := Option.bind_eq_some_iff.mp hw
  exact ⟨by rw [hnone, hw]; rfl, package_of_namedEntry hnamed⟩

namespace Declared

def declaring : (String × String) × String :=
  (("@types/p", "package.json"), "\x7b\"types\":\"e.d.ts\"\x7d")

/-- A package with a manifest that is not typed, and the one that declares its types. -/
def untyped : List ((String × String) × String) := [(("p", "package.json"), "\x7b\x7d"), declaring]

def source (manifests : List ((String × String) × String)) (request : Request) : Option String :=
  manifests.lookup (request.package, request.path)

theorem servesObjects {manifests : List ((String × String) × String)}
    (h : ∀ m ∈ manifests, (Manifest.read m.1.1 m.2).toOption.isSome = true) :
    ServesObjects (source manifests) := by
  intro package directory text hserved
  obtain ⟨front, rest, hsplit, -⟩ := List.lookup_eq_some_iff.mp hserved
  have hmem : ((package, Path.join [directory, "package.json"]), text) ∈ manifests := hsplit ▸ by simp
  obtain ⟨manifest, hread⟩ := Option.isSome_iff_exists.mp (h _ hmem)
  exact ⟨manifest, ok_of_toOption hread⟩

theorem untyped_objects : ServesObjects (source untyped) := servesObjects (by decide +kernel)

/-- The entry is in the package that declares the types. -/
theorem untyped_declared :
    manifestAt (source untyped) "p" "" = some ("\x7b\x7d", "") ∧ ∃ s',
      (packageEntry inMemory "p" "" (atFirst {})).run (answering (source untyped)) () =
        (.ok (some ⟨"@types/p", "", "e.d.ts"⟩), s', ()) := by
  have hown : manifestAt (source untyped) "p" "" = some ("\x7b\x7d", "") := by decide +kernel
  have hnamed : namedEntry "p" "" "" "\x7b\x7d" = none := by decide +kernel
  have hdeclared : declaredEntry (source untyped) "p" "" = some ⟨"@types/p", "", "e.d.ts"⟩ := by
    decide +kernel
  obtain ⟨o, s', hrun, -, hfound⟩ := packageEntry_in_order (c := inMemory) lasting_memory
    (tame_memory 0 0) (source untyped) untyped_objects (atFirst {}) ⟨by decide, by decide⟩ rfl
    (fun _ => rfl) rfl "p" "" (by decide)
  obtain ⟨rfl, -⟩ := (hfound _ _ hown).2.1 hnamed _ hdeclared
  exact ⟨hown, s', hrun⟩

/-- A package without a manifest of its own has no entry, though types are declared for it. -/
theorem bare_has_none :
    ServesObjects (source [declaring]) ∧ manifestAt (source [declaring]) "p" "" = none ∧
    declaredEntry (source [declaring]) "p" "" = some ⟨"@types/p", "", "e.d.ts"⟩ ∧
    ((packageEntry inMemory "p" "" (atFirst {})).run (answering (source [declaring])) ()).1.toOption =
      some none :=
  ⟨servesObjects (by decide +kernel), by decide +kernel⟩

end Declared

end Resolution

end DeclarationFetch
