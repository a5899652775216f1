import DeclarationFetch.Proofs.Session.Tending
import Mathlib.Data.List.Forall2

/-!
# Versions pinned by the application

The pins of a session are kept twice: in its resolver, where passes read them, and in its options, which
accept texts only. The resolver comes first, and nothing is taken back when a callback or the options
refuse.

* `assign_versions_cases`: which mappings the options accept, and what is wrong with the others.
* `setVersions_outcome`: when a call returns, what it raises otherwise, and what it leaves in either case.
-/

namespace DeclarationFetch

/-! ## Mappings as lists of entries -/

namespace Assoc

variable {α : Type} {entries : List (String × α)} {key : String}

theorem put_fresh (h : key ∉ entries.map Prod.fst) (value : α) :
    put entries key value = entries ++ [(key, value)] := by
  induction entries with
  | nil => rfl
  | cons entry rest ih =>
    obtain ⟨hne, hrest⟩ := not_or.mp (mt List.mem_cons.mpr h)
    rw [put, if_neg (Ne.symm hne), ih hrest, List.cons_append]

theorem entries_foldl_insert (new : List (String × α)) {m : Assoc α}
    (h : ((m.entries ++ new).map Prod.fst).Nodup) :
    (new.foldl (fun m entry => m.insert entry.1 entry.2) m).entries = m.entries ++ new := by
  induction new generalizing m with
  | nil => rw [List.append_nil, List.foldl_nil]
  | cons entry rest ih =>
    have hfresh : entry.1 ∉ m.entries.map Prod.fst := fun hm => by
      rw [List.map_append] at h
      exact (List.nodup_append.mp h).2.2 _ hm _ (List.mem_cons_self ..) rfl
    have hinserted : (m.insert entry.1 entry.2).entries = m.entries ++ [entry] := put_fresh hfresh entry.2
    rw [List.foldl_cons, ih (by rwa [hinserted, List.append_assoc]), hinserted, List.append_assoc]
    rfl

theorem ofList_entries {m : Assoc α} (h : m.keys.Nodup) : ofList m.entries = m :=
  congrArg mk (entries_foldl_insert m.entries (m := {}) h)

end Assoc

/-! ## Pins as texts -/

namespace Pins

/-- A pin is a text, written out or as bytes. -/
def Spells (pin : String × Value) (version : String × String) : Prop :=
  pin.1 = version.1 ∧ pin.2.asText = .ok version.2

/-- All pins are texts, and these are the versions that they give. -/
def Spell (pins : Pins) (versions : Assoc String) : Prop :=
  List.Forall₂ Spells pins.entries versions.entries

def problem? (pin : String × Value) : Option Problem :=
  match pin.2.asText with
  | .ok _ => none
  | .error kind => some ⟨["versions", pin.1], kind⟩

def problems (pins : Pins) : List Problem := pins.entries.filterMap problem?

theorem spells_text (version : String × String) : Spells (version.1, .text version.2) version := ⟨rfl, rfl⟩

theorem spell_map_text (versions : Assoc String) : Spell (versions.map .text) versions :=
  List.forall₂_map_left_iff.mpr (List.forall₂_same.mpr fun version _ => spells_text version)

theorem Spell.keys_eq {pins : Pins} {versions : Assoc String} (h : pins.Spell versions) :
    versions.keys = pins.keys := by
  have hkeys : ∀ {l : List (String × Value)} {l' : List (String × String)}, List.Forall₂ Spells l l' →
      l'.map Prod.fst = l.map Prod.fst := fun h => by
    induction h with
    | nil => rfl
    | cons hpin _ ih => rw [List.map_cons, List.map_cons, ih, hpin.1]
  exact hkeys h

theorem Spell.unique {pins : Pins} {versions versions' : Assoc String} (h : pins.Spell versions)
    (h' : pins.Spell versions') : versions = versions' := by
  have hright : Relator.RightUnique Spells := fun pin version version' h h' =>
    Prod.ext (h.1.symm.trans h'.1) (Except.ok.inj (h.2.symm.trans h'.2))
  exact congrArg Assoc.mk (List.right_unique_forall₂' hright h h')

end Pins

namespace Options

open Pins

variable {pins : Pins} {versions : Assoc String}

theorem readPin_cases (pin : String × Value) :
    (∃ version, Spells pin version ∧ readPin (.text pin.1) pin.2 = .ok version ∧ problem? pin = none) ∨
    (∃ problem, problem? pin = some problem ∧ readPin (.text pin.1) pin.2 = .error [problem] ∧
      ∀ version, ¬ Spells pin version) := by
  obtain ⟨name, value⟩ := pin
  unfold problem? readPin Spells
  cases hread : value.asText with
  | ok version => exact .inl ⟨(name, version), ⟨rfl, rfl⟩, rfl, rfl⟩
  | error kind => exact .inr ⟨_, rfl, rfl, fun version h => nomatch h.2⟩

theorem readPins_cases (entries : List (String × Value)) :
    (∃ versions, List.Forall₂ Spells entries versions ∧ entries.filterMap problem? = [] ∧
      readPins (entries.map fun pin => (.text pin.1, pin.2)) = .ok versions) ∨
    (∀ versions, ¬ List.Forall₂ Spells entries versions) ∧
      readPins (entries.map fun pin => (.text pin.1, pin.2)) = .error (entries.filterMap problem?) := by
  induction entries with
  | nil => exact .inl ⟨[], .nil, rfl, rfl⟩
  | cons pin rest ih =>
    rw [List.map_cons, readPins]
    rcases readPin_cases pin with ⟨version, hspells, hread, hnone⟩ | ⟨problem, hsome, hread, hnot⟩
    · rw [List.filterMap_cons_none hnone, hread]
      rcases ih with ⟨versions, hspell, hnil, hrest⟩ | ⟨hnots, hrest⟩
      · exact .inl ⟨version :: versions, .cons hspells hspell, hnil, by rw [hrest]; rfl⟩
      · refine .inr ⟨fun versions h => ?_, by rw [hrest]; rfl⟩
        cases h with
        | cons _ h => exact hnots _ h
    · rw [List.filterMap_cons_some hsome, hread]
      refine .inr ⟨fun versions h => ?_, ?_⟩
      · cases h with
        | cons h _ => exact hnot _ h
      · rcases ih with ⟨versions, _, hnil, hrest⟩ | ⟨_, hrest⟩
        · rw [hrest, hnil]
          rfl
        · rw [hrest]
          rfl

/-- The options accept just the mappings from names to texts, and nothing of another one. -/
theorem assign_versions_cases (o : Options) (hkeys : pins.keys.Nodup) :
    (∃ versions, pins.Spell versions ∧
      o.assign "versions" (.object pins.entries) = .ok { o with versions := some versions }) ∨
    (∀ versions, ¬ pins.Spell versions) ∧
      o.assign "versions" (.object pins.entries) = .error ⟨title, pins.problems⟩ := by
  have hassign : o.assign "versions" (.object pins.entries) =
      (((readPins (pins.entries.map fun pin => (.text pin.1, pin.2))).map fun versions =>
        some (Assoc.ofList versions)).map fun versions => { o with versions }).mapError
          fun problems => ⟨title, problems⟩ := rfl
  rw [hassign]
  rcases readPins_cases pins.entries with ⟨versions, hspell, -, hread⟩ | ⟨hnot, hread⟩
  · have hspell' : pins.Spell ⟨versions⟩ := hspell
    have hread' : Assoc.ofList versions = ⟨versions⟩ :=
      Assoc.ofList_entries (m := ⟨versions⟩) (by rwa [hspell'.keys_eq])
    refine .inl ⟨⟨versions⟩, hspell, ?_⟩
    rw [hread, ← hread']
    rfl
  · exact .inr ⟨fun versions h => hnot _ h, by rw [hread]; rfl⟩

end Options

/-! ## Calls -/

theorem Session.options_setOptions (s : Session) (o : Options) : (s.setOptions o).options = o := rfl

namespace World

variable {w : World} {id : Nat}

/-- What a callback of the session raises at a report, if there is one. -/
def raises (w : World) (id : Nat) (listened : Handlers → Bool) (r : Report) : Option Fault :=
  if listened (w.session id).options.handlers then (w.session id).callbacks r w.workspace else none

/-- The reports so far and this one, if somebody listens. -/
def toldAfter (w : World) (id : Nat) (listened : Handlers → Bool) (r : Report) : List (Nat × Report) :=
  if listened (w.session id).options.handlers then (id, r) :: (w.gather id).told else w.told

theorem session_mapSession (hid : id < w.sessions.length) (f : Session → Session) :
    (w.mapSession id f).session id = f (w.session id) := by
  rw [mapSession, session_setSession, if_pos ⟨rfl, hid⟩]

theorem session_mapSession_other {other : Nat} (ho : other ≠ id) (f : Session → Session) :
    (w.mapSession id f).session other = w.session other := by
  rw [mapSession, session_setSession, if_neg fun h => ho h.1]

theorem sessions_report (w : World) (id : Nat) (listened : Handlers → Bool) (r : Report) :
    (w.report id listened r).2.sessions.length = w.sessions.length := by
  unfold report
  dsimp only
  split <;> rfl

theorem report_told (w : World) (id : Nat) (listened : Handlers → Bool) (r : Report) :
    (w.report id listened r).2.told = w.toldAfter id listened r := by
  unfold report toldAfter Callbacks.tell
  dsimp only
  split
  · cases (w.session id).callbacks r w.workspace with
    | none => rfl
    | some fault => rfl
  · rfl

theorem report_result (w : World) (id : Nat) (listened : Handlers → Bool) (r : Report) :
    (w.report id listened r).1 = match w.raises id listened r with
      | none => .ok ()
      | some fault => .error fault := by
  unfold report raises Callbacks.tell
  dsimp only
  split
  · cases (w.session id).callbacks r w.workspace with
    | none => rfl
    | some fault => rfl
  · rfl

/-! The pins go into the resolver, and are reported. -/

/-- The world with the pins in the resolver, when they have been reported. -/
def repin (w : World) (id : Nat) (pins : Pins) : World :=
  ((w.mapSession id (·.setPins pins)).tellVersions id pins).2

section Repin

variable (hid : id < w.sessions.length) (pins : Pins)
include hid

theorem session_repin : (w.repin id pins).session id = (w.session id).setPins pins :=
  (session_report ..).trans (session_mapSession hid _)

theorem scene_repin : ((w.repin id pins).scene id).pins = pins := by
  unfold scene Resolver.scene
  rw [session_repin hid pins]
  rfl

theorem told_repin : (w.repin id pins).told = w.toldAfter id Handlers.versions (.versions pins) := by
  refine (report_told ..).trans ?_
  unfold toldAfter
  rw [session_mapSession hid]
  rfl

theorem tellVersions_result :
    ((w.mapSession id (·.setPins pins)).tellVersions id pins).1 =
      match w.raises id Handlers.versions (.versions pins) with
      | none => .ok ()
      | some fault => .error fault := by
  have hraises : (w.mapSession id (·.setPins pins)).raises id Handlers.versions (.versions pins) =
      w.raises id Handlers.versions (.versions pins) := by
    unfold raises
    rw [session_mapSession hid]
    rfl
  rw [← hraises]
  exact report_result ..

end Repin

theorem session_repin_other {other : Nat} (ho : other ≠ id) (pins : Pins) :
    (w.repin id pins).session other = w.session other :=
  (session_report ..).trans (session_mapSession_other ho _)

theorem sessions_repin (w : World) (id : Nat) (pins : Pins) :
    (w.repin id pins).sessions.length = w.sessions.length :=
  (sessions_report ..).trans List.length_set

end World

namespace SessionLoop

variable {l : SessionLoop} {id : Nat} {pins : Pins}

/-- The ways in which a call ends. The resolver has the pins by then, and they have been reported. -/
theorem setVersions_cases (hid : id < l.state.sessions.length) (hkeys : pins.keys.Nodup) :
    (∃ fault, l.state.raises id Handlers.versions (.versions pins) = some fault ∧
      l.setVersions id pins = (.error (.raised fault), { l with state := l.state.repin id pins })) ∨
    l.state.raises id Handlers.versions (.versions pins) = none ∧ (∀ versions, ¬ pins.Spell versions) ∧
      l.setVersions id pins =
        (.error (.invalid ⟨Options.title, pins.problems⟩), { l with state := l.state.repin id pins }) ∨
    l.state.raises id Handlers.versions (.versions pins) = none ∧ ∃ versions, pins.Spell versions ∧
      let o := { (l.state.session id).options with versions := some versions }
      l.setVersions id pins =
        (.ok (), { l with state := (l.state.repin id pins).mapSession id (·.setOptions o) }) := by
  have hresult := World.tellVersions_result hid pins
  have hsession := World.session_repin hid pins
  unfold World.repin at hsession ⊢
  unfold setVersions
  generalize (l.state.mapSession id (·.setPins pins)).tellVersions id pins = told at *
  obtain ⟨result, w⟩ := told
  cases hfault : l.state.raises id Handlers.versions (.versions pins) with
  | some fault =>
    rw [hfault] at hresult
    obtain rfl : result = .error fault := hresult
    exact .inl ⟨fault, rfl, rfl⟩
  | none =>
    rw [hfault] at hresult
    obtain rfl : result = .ok () := hresult
    have hoptions : (w.session id).options = (l.state.session id).options :=
      (congrArg Session.options hsession :)
    dsimp only
    rw [hoptions]
    rcases Options.assign_versions_cases (l.state.session id).options hkeys with
      ⟨versions, hspell, hassign⟩ | ⟨hnot, hassign⟩
    · exact .inr (.inr ⟨rfl, versions, hspell, by rw [hassign]⟩)
    · exact .inr (.inl ⟨rfl, hnot, by rw [hassign]⟩)

/-- Pins that are all texts, told to a callback that raises nothing, are in the resolver and in the options
when the call returns. Of any others the call raises what the callback does, or what is wrong with each that
is no text, and the options stay as they are. In either case the passes to come start from the new pins, they
are reported once if somebody listens, and other sessions are left alone. -/
theorem setVersions_outcome (hid : id < l.state.sessions.length) (hkeys : pins.keys.Nodup) :
    let s := l.state.session id
    let result := (l.setVersions id pins).1
    let w := (l.setVersions id pins).2.state
    (result = .ok () ↔
      l.state.raises id Handlers.versions (.versions pins) = none ∧ ∃ versions, pins.Spell versions) ∧
    (result = .ok () → ∀ versions, pins.Spell versions →
      w.session id = (s.setPins pins).setOptions { s.options with versions := some versions }) ∧
    (∀ refusal, result = .error refusal → w.session id = s.setPins pins ∧
      refusal = match l.state.raises id Handlers.versions (.versions pins) with
        | some fault => .raised fault
        | none => .invalid ⟨Options.title, pins.problems⟩) ∧
    (w.scene id).pins = pins ∧
    w.told = l.state.toldAfter id Handlers.versions (.versions pins) ∧
    ∀ other, other ≠ id → w.session other = l.state.session other := by
  have hsession := World.session_repin hid pins
  have hscene := World.scene_repin hid pins
  have htold := World.told_repin hid pins
  have hothers : ∀ other, other ≠ id → (l.state.repin id pins).session other = l.state.session other :=
    fun other ho => World.session_repin_other ho pins
  have hid' : id < (l.state.repin id pins).sessions.length := (World.sessions_repin ..).symm ▸ hid
  -- The handler raises, the versions are refused, or both are in order.
  rcases setVersions_cases hid hkeys with ⟨fault, hraised, heq⟩ | ⟨hnone, hnot, heq⟩ |
    ⟨hnone, versions, hspell, heq⟩
  · rw [heq, hraised]
    refine ⟨⟨nofun, fun h => nomatch h.1⟩, nofun, fun refusal h => ⟨hsession, ?_⟩, hscene, htold, hothers⟩
    exact (Except.error.inj h).symm
  · rw [heq, hnone]
    refine ⟨⟨nofun, fun ⟨_, versions, hspell⟩ => absurd hspell (hnot versions)⟩, nofun,
      fun refusal h => ⟨hsession, ?_⟩, hscene, htold, hothers⟩
    exact (Except.error.inj h).symm
  · have hset := World.session_mapSession hid'
      (·.setOptions { (l.state.session id).options with versions := some versions })
    rw [heq, hnone]
    refine ⟨⟨fun _ => ⟨rfl, versions, hspell⟩, fun _ => rfl⟩, fun _ versions' hspell' => ?_, nofun, ?_,
      htold, fun other ho => ?_⟩
    · rw [hspell'.unique hspell, ← hsession]
      exact hset
    · unfold World.scene Resolver.scene
      rw [hset]
      exact hscene
    · exact (World.session_mapSession_other ho _).trans (hothers other ho)

end SessionLoop

/-! A session with a callback for versions has ended its first pass. -/

namespace Repinned

def created (callbacks : Callbacks) : SessionLoop :=
  let l : SessionLoop := { state := { editors := [{ text := "require('a')" }] } }
  let p : World.Plan :=
    { editor := 0, options := { handlers := { versions := true } }, source := some .shelf, callbacks }
  (l.create p).2.2.settle

def silent : SessionLoop := created fun _ _ => none

def versions : Assoc String := ⟨[("a", "1.0.0")]⟩

theorem texts_pinned :
    (silent.setVersions 0 (versions.map .text)).1 = .ok () ∧
    ((silent.setVersions 0 (versions.map .text)).2.state.session 0).options.versions = some versions ∧
    (silent.setVersions 0 (versions.map .text)).2.state.told = [(0, .versions (versions.map .text))] := by
  have hid : 0 < silent.state.sessions.length := by decide +kernel
  have hkeys : (versions.map Value.text).keys.Nodup := by decide
  have hspell := Pins.spell_map_text versions
  have hsilent : silent.state.raises 0 Handlers.versions (.versions (versions.map .text)) = none := by
    decide +kernel
  have hlistens : (silent.state.session 0).options.handlers.versions = true := by decide +kernel
  have hnothing : (silent.state.gather 0).told = [] := List.eq_nil_of_length_eq_zero (by decide +kernel)
  obtain ⟨hreturns, hpinned, -, -, htold, -⟩ := SessionLoop.setVersions_outcome hid hkeys
  have hok := hreturns.mpr ⟨hsilent, versions, hspell⟩
  refine ⟨hok, ?_, ?_⟩
  · rw [hpinned hok versions hspell, Session.options_setOptions]
  · rw [htold, World.toldAfter, if_pos hlistens, hnothing]

/-- A number is no version. -/
def refused : Except SessionLoop.Refusal Unit × SessionLoop := silent.setVersions 0 ⟨[("a", .int 5)]⟩

/-- The callback raises a fault of its own. -/
def raised : Except SessionLoop.Refusal Unit × SessionLoop :=
  (created fun _ _ => some (.foreign "ValueError")).setVersions 0 (versions.map .text)

/-- What the call does not take back: the resolver keeps the pins, the callback has been told, and the next
pass asks for the package at the number that the options did not take. -/
theorem refused_kept :
    (silent.state.session 0).resolver.pins.keys = [] ∧ silent.state.told = [] ∧
    refused.1 = .error (.invalid ⟨"Options", [⟨["versions", "a"], .stringType⟩]⟩) ∧
    (refused.2.state.session 0).resolver.pins.keys = ["a"] ∧
    (refused.2.state.session 0).options.versions = none ∧ refused.2.state.told.length = 1 ∧
    (refused.2.resolve 0).2.settle.state.packages.requests.map (fun r => (r.path, r.version.display)) =
      [("package.json", "5"), ("package.json", "None")] ∧
    raised.1 = .error (.raised (.foreign "ValueError")) ∧
    (raised.2.state.session 0).resolver.pins.keys = ["a"] ∧
    (raised.2.state.session 0).options.versions = none ∧ raised.2.state.told.length = 1 := by
  decide +kernel

end Repinned

end DeclarationFetch
