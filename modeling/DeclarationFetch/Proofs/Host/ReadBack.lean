import DeclarationFetch.Proofs.Host.Containment
import DeclarationFetch.Proofs.Resolution.Repetition
import DeclarationFetch.Proofs.Specifier.Names

/-! # What a host on disk gives back

A file that was written is found by each path that leads to it. Writing keeps the ends of lines and reading
does not, so that what comes back is what was written, unless that had a carriage return.

* `set_file`: what was written is at the place that the path leads to.
* `get_file`: what is read there, by whatever path.
* `inject_again`: whether the same text is seen as a change when it is put into the host again.
* `set_read_back`: what comes back by another path to the same place.
-/

namespace DeclarationFetch.DirectoryHost

open FileTree Location Resolution

variable {h : DirectoryHost} {t t' : FileTree} {path other text : String} {l : Location}

theorem set_file (hpath : Leads h.root (segments path) l) (hset : h.set t path text = (.ok (), t')) :
    h.root.names <+: l.names ∧ t'.status l.names = .ok (.file (.text text)) := by
  by_cases hin : h.root.names <+: l.names
  · rw [set_inside hpath hin] at hset
    have hplanted : (t.plantAt l.names (.text text)).1 = .ok () := ok_of_mapError (congrArg Prod.fst hset)
    have htree : (t.plantAt l.names (.text text)).2 = t' := congrArg Prod.snd hset
    exact ⟨hin, htree ▸ plantAt_planted hplanted⟩
  · rw [set_outside hpath hin] at hset
    cases hset

theorem get_file (hother : Leads h.root (segments other) l) (hin : h.root.names <+: l.names)
    (hfile : t.status l.names = .ok (.file (.text text))) :
    h.get t other = .ok (some (String.ofList (Content.joinLines text.toList))) := by
  rw [get, place_of_leads hother, if_pos (isBelow_iff.mpr hin)]
  simp only [bind, Except.bind, isFile_of_file hfile, read_of_file hfile, Content.read?]
  rfl

theorem set_again (hother : Leads h.root (segments other) l) (hin : h.root.names <+: l.names)
    (hfile : t.status l.names = .ok (.file (.text text))) (content : String) :
    (h.set t other content).1 = .ok () := by
  obtain ⟨hreaches, hnode⟩ := status_eq_ok_iff.mp hfile
  have hfree : t.node? (ofRoute l.names) ≠ some .directory := by
    rw [hnode]
    exact nofun
  rw [set_inside hother hin, plantAt_of_reaches hreaches hfree]
  rfl

theorem joinLines_text_eq_iff :
    String.ofList (Content.joinLines text.toList) = text ↔ '\r' ∉ text.toList := by
  rw [← Content.joinLines_eq_self_iff, ← String.toList_inj, String.toList_ofList]

/-- A text that is in the host is seen as a change if and only if it has a carriage return. -/
theorem inject_again (hother : Leads h.root (segments other) l) (hin : h.root.names <+: l.names)
    (cache : CacheRef) {s : Scene Workspace}
    (hfile : s.env.tree.status l.names = .ok (.file (.text text))) :
    ∃ s', inject (Workspace.collaborators cache (.directory h)) other text s = .done (.ok ()) s' ∧
      s'.context = if '\r' ∈ text.toList then s.context.inject other else s.context := by
  have hheld : ((Workspace.collaborators cache (.directory h)).hosted other s.env).1 =
      .ok (some (String.ofList (Content.joinLines text.toList))) := by
    show (h.get s.env.tree other).mapError Fault.host = _
    rw [get_file hother hin hfile]
    rfl
  by_cases hreturn : '\r' ∈ text.toList
  · have hne : some (String.ofList (Content.joinLines text.toList)) ≠ some text :=
      fun heq => joinLines_text_eq_iff.mp (Option.some.inj heq) hreturn
    have htaken : ((Workspace.collaborators cache (.directory h)).host other text s.env).1 = .ok () := by
      show (h.set s.env.tree other text).1.mapError Fault.host = _
      rw [set_again hother hin hfile]
      rfl
    exact ⟨_, inject_of_other hheld hne htaken, (if_pos hreturn).symm⟩
  · rw [joinLines_text_eq_iff.mpr hreturn] at hheld
    exact ⟨_, inject_of_held hheld, (if_neg hreturn).symm⟩

/-- What was written by one path comes back by each path to the same place, with a line feed for each end
of a line. It is the very text, and is not seen as a change when it is put there again, if and only if it
has no carriage return. -/
theorem set_read_back (hset : h.set t path text = (.ok (), t')) (hpath : Leads h.root (segments path) l)
    (hother : Leads h.root (segments other) l) :
    h.get t' other = .ok (some (String.ofList (Content.joinLines text.toList))) ∧
      (h.get t' other = .ok (some text) ↔ '\r' ∉ text.toList) ∧
      ∀ (cache : CacheRef) (s : Scene Workspace), s.env.tree = t' →
        ∃ s', inject (Workspace.collaborators cache (.directory h)) other text s = .done (.ok ()) s' ∧
          s'.context = if '\r' ∈ text.toList then s.context.inject other else s.context := by
  obtain ⟨hin, hfile⟩ := set_file hpath hset
  have hget := get_file hother hin hfile
  refine ⟨hget, ?_, fun cache s htree => inject_again hother hin cache (htree ▸ hfile)⟩
  rw [hget, Except.ok.injEq, Option.some.injEq, joinLines_text_eq_iff]

namespace Returned

def host : DirectoryHost := ⟨⟨["srv", "out"]⟩⟩

theorem written {path text : String} (h : (host.set .empty path text).1.toOption = some ()) :
    host.set .empty path text = (.ok (), (host.set .empty path text).2) := by
  generalize host.set .empty path text = outcome at h ⊢
  obtain ⟨result, t'⟩ := outcome
  exact congrArg (·, t') (ok_of_toOption h)

/-- A text with line feeds only, written by one path and read by another. -/
theorem lines_read_back : ∃ t', host.set .empty "/n//m/../a.d.ts" "x\ny" = (.ok (), t') ∧
    host.get t' "./n/a.d.ts/" = .ok (some "x\ny") := by
  have hset := @written "/n//m/../a.d.ts" "x\ny" (by decide +kernel)
  have hpath : Leads host.root (segments "/n//m/../a.d.ts") ⟨["srv", "out", "n", "a.d.ts"]⟩ :=
    resolve_eq_iff.mp (by decide +kernel)
  have hother : Leads host.root (segments "./n/a.d.ts/") ⟨["srv", "out", "n", "a.d.ts"]⟩ :=
    resolve_eq_iff.mp (by decide +kernel)
  exact ⟨_, hset, (set_read_back hset hpath hother).2.1.mpr (by decide)⟩

/-- A carriage return does not come back. -/
theorem return_lost : ∃ t', host.set .empty "a" "x\r\ny" = (.ok (), t') ∧
    host.get t' "a" = .ok (some "x\ny") ∧ host.get t' "a" ≠ .ok (some "x\r\ny") := by
  have hget : host.get (host.set .empty "a" "x\r\ny").2 "a" = .ok (some "x\ny") :=
    ok_of_toOption (by decide +kernel)
  refine ⟨_, @written "a" "x\r\ny" (by decide +kernel), hget, ?_⟩
  rw [hget]
  exact fun heq => absurd (Option.some.inj (Except.ok.inj heq)) (by decide)

end Returned

end DeclarationFetch.DirectoryHost
