import DeclarationFetch.Proofs.Path.Joining
import DeclarationFetch.Proofs.Specifier.Rootless
import DeclarationFetch.Proofs.Specifier.Scanning

/-! # What specifiers are classified as

* `Splits specifier name path`: the specifier is a package name, a slash and a path.
* `Reading specifier parent r`: the specifier stands for the resource in its parent.
* `reading_of_classify`, `Reading.unique`: a resource is a reading of its specifier, and of no other.
* `classify_lossless`: which specifiers have which reading, and which have none.
-/

namespace DeclarationFetch

open DeclarationFetch.Path

def Parent.kind? : Parent → Option String
  | .directory _ => some "relative"
  | .resource r => some r.kind
  | .unsupported => none

def Resource.importPath : Resource → String
  | .package _ path => path
  | .relative path _ => path
  | .inPackage _ _ path => path

namespace Specifier

variable {specifier other name path : String} {parent : Parent} {r : Resource}

/-! ## Names in the runtime -/

/-- `node:` with a name after it. -/
def OfRuntime (specifier : String) : Prop := ∃ name, name ≠ "" ∧ specifier = "node:" ++ name

theorem nodeName?_eq_some_iff :
    nodeName? specifier = some name ↔ name ≠ "" ∧ specifier = "node:" ++ name := by
  unfold nodeName?
  constructor
  · intro h
    split at h
    · next c rest hafter =>
      cases h
      refine ⟨by simp, String.toList_inj.mp ?_⟩
      rw [String.toList_append, String.toList_ofList (l := c :: rest)]
      exact after?_eq_some_iff.mp hafter
    · cases h
  · rintro ⟨hne, rfl⟩
    obtain ⟨c, rest, hc⟩ := List.exists_cons_of_ne_nil fun h => hne (String.toList_eq_nil_iff.mp h)
    have hafter : after? "node:".toList ("node:" ++ name).toList = some (c :: rest) :=
      after?_eq_some_iff.mpr (by rw [String.toList_append, hc])
    rw [hafter, ← String.ofList_toList (s := name), hc]

theorem nodeName?_eq_none_iff : nodeName? specifier = none ↔ ¬ OfRuntime specifier := by
  rw [Option.eq_none_iff_forall_ne_some]
  simp only [ne_eq, nodeName?_eq_some_iff, OfRuntime, not_exists]

/-! ## Names of packages -/

/-- A package name, a slash and a path make up the specifier, but for a slash at its end. -/
structure Splits (specifier name path : String) : Prop where
  whole : name ++ "/" ++ path = specifier ∨ name ++ "/" ++ path = specifier ++ "/"
  slashes : name.toList.count '/' ≤ if Text.startsWith specifier "@" = true then 1 else 0

theorem nameParts_eq : nameParts specifier = (if Text.startsWith specifier "@" = true then 1 else 0) + 1 := by
  have hat : Text.startsWith specifier "@" = true ↔ specifier.toList.head? = some '@' :=
    startsWith_iff_head rfl
  unfold nameParts
  simp only [← hat]
  split <;> rfl

theorem splits_parts (specifier : String) : Splits specifier
    (String.ofList (unparts ((parts specifier.toList).take (nameParts specifier))))
    (String.ofList (unparts ((parts specifier.toList).drop (nameParts specifier)))) where
  whole := by
    have hcut := unparts_take_drop (n := nameParts specifier) (parts_ne_nil specifier.toList)
      (by rw [nameParts_eq]; omega)
    rw [unparts_parts] at hcut
    have hslash : "/".toList = ['/'] := rfl
    simpa only [← String.toList_inj, String.toList_append, String.toList_ofList, hslash, List.append_assoc,
      List.singleton_append] using hcut
  slashes := by
    have hslash : ∀ p ∈ (parts specifier.toList).take (nameParts specifier), '/' ∉ p := fun p hp =>
      slash_not_mem_of_mem_parts (List.mem_of_mem_take hp)
    have hlength := List.length_take_le (nameParts specifier) (parts specifier.toList)
    rw [String.toList_ofList, count_slash_unparts hslash]
    rw [nameParts_eq] at hlength ⊢
    omega

theorem Splits.unique (h : Splits specifier name path) (ho : Splits other name path) :
    specifier = other ∨ specifier = other ++ "/" ∨ other = specifier ++ "/" := by
  rcases h.whole with h | h <;> rcases ho.whole with ho | ho <;> rw [h] at ho
  · exact .inl ho
  · exact .inr (.inl ho)
  · exact .inr (.inr ho.symm)
  · exact .inl (String.append_left_inj _ |>.mp ho)

theorem packageOf_eq_ok (h : packageOf specifier = .ok r) :
    ∃ name path, r = .package name path ∧ Splits specifier name path := by
  unfold packageOf at h
  dsimp only at h
  split at h
  · cases h
  · cases h
    exact ⟨_, _, rfl, splits_parts specifier⟩

/-! ## Readings -/

/-- The specifier stands for the resource in its parent. -/
inductive Reading (specifier : String) : Parent → Resource → Prop where
  | runtime {parent : Parent} {name : String} (hname : name ≠ "") (h : specifier = "node:" ++ name) :
      Reading specifier parent (.inPackage nodeTypes "" (name ++ ".d.ts"))
  | beside {directory : String} (h : Text.startsWith specifier "." = true) :
      Reading specifier (.directory directory) (.relative specifier directory)
  | within {package source path : String} (h : Text.startsWith specifier "." = true) :
      Reading specifier (.resource (.inPackage package source path))
        (.inPackage package (join [source, path]) specifier)
  | package {parent : Parent} {name path : String} (h : Splits specifier name path) :
      Reading specifier parent (.package name path)

theorem isRelative_eq : isRelative specifier = Text.startsWith specifier "." := by
  rw [Bool.eq_iff_iff, startsWith_iff_head (c := '.') rfl]
  exact decide_eq_true_iff

theorem reading_of_classify (h : classify specifier parent = .ok r) : Reading specifier parent r := by
  have hpackage : ∀ {parent}, packageOf specifier = .ok r → Reading specifier parent r := by
    intro parent h
    obtain ⟨name, path, rfl, hsplits⟩ := packageOf_eq_ok h
    exact .package hsplits
  unfold classify at h
  split at h
  · next name hname =>
    cases h
    obtain ⟨hne, h⟩ := nodeName?_eq_some_iff.mp hname
    exact .runtime hne h
  · split at h
    · split at h
      · next hrel =>
        cases h
        exact .beside (isRelative_eq ▸ hrel)
      · exact hpackage h
    · split at h
      · next hrel =>
        cases h
        exact .within (isRelative_eq ▸ hrel)
      · exact hpackage h
    · cases h
    · cases h

/-- Readings with the same resource are of the same specifier, up to a slash at its end. -/
theorem Reading.unique {r' : Resource} (h : Reading specifier parent r) (ho : Reading other parent r')
    (hr : r = r') : specifier = other ∨ specifier = other ++ "/" ∨ other = specifier ++ "/" := by
  cases h with
  | runtime hname h =>
    cases ho with
    | runtime hname' ho =>
      have heq := (Resource.inPackage.inj hr).2.2
      rw [String.append_left_inj] at heq
      exact .inl (by rw [h, ho, heq])
    | beside ho => cases hr
    | within ho => exact absurd (Resource.inPackage.inj hr).2.1.symm (join_ne_empty _)
    | package ho => cases hr
  | beside h =>
    cases ho with
    | runtime hname ho => cases hr
    | beside ho => exact .inl (Resource.relative.inj hr).1
    | package ho => cases hr
  | within h =>
    cases ho with
    | runtime hname ho => exact absurd (Resource.inPackage.inj hr).2.1 (join_ne_empty _)
    | within ho => exact .inl (Resource.inPackage.inj hr).2.2
    | package ho => cases hr
  | package h =>
    cases ho with
    | runtime hname ho => cases hr
    | beside ho => cases hr
    | within ho => cases hr
    | package ho =>
      obtain ⟨rfl, rfl⟩ := Resource.package.inj hr
      exact h.unique ho

/-! ## What is read -/

theorem not_ofRuntime_of_dot (h : Text.startsWith specifier "." = true) : ¬ OfRuntime specifier := by
  have hdot : specifier.toList.head? = some '.' := (startsWith_iff_head rfl).mp h
  rintro ⟨name, hname, heq⟩
  have hhead := head_of_nodeName (nodeName?_eq_some_iff.mpr ⟨hname, heq⟩)
  exact absurd (Option.some.inj (hdot.symm.trans hhead)) (by decide)

theorem classify_runtime (parent : Parent) (hname : name ≠ "") (h : specifier = "node:" ++ name) :
    classify specifier parent = .ok (.inPackage nodeTypes "" (name ++ ".d.ts")) := by
  unfold classify
  rw [nodeName?_eq_some_iff.mpr ⟨hname, h⟩]

theorem classify_beside (directory : String) (h : Text.startsWith specifier "." = true) :
    classify specifier (.directory directory) = .ok (.relative specifier directory) := by
  unfold classify
  rw [nodeName?_eq_none_iff.mpr (not_ofRuntime_of_dot h)]
  exact if_pos (isRelative_eq.trans h)

theorem classify_within (package source path : String) (h : Text.startsWith specifier "." = true) :
    classify specifier (.resource (.inPackage package source path)) =
      .ok (.inPackage package (join [source, path]) specifier) := by
  unfold classify
  rw [nodeName?_eq_none_iff.mpr (not_ofRuntime_of_dot h)]
  exact if_pos (isRelative_eq.trans h)

theorem classify_elsewhere (hp : Parent.Possible parent) (hr : ¬ OfRuntime specifier)
    (hd : Text.startsWith specifier "." = false) : classify specifier parent = packageOf specifier := by
  have hrel : ¬ isRelative specifier = true := by
    rw [isRelative_eq, hd]
    exact Bool.false_ne_true
  unfold classify
  rw [nodeName?_eq_none_iff.mpr hr]
  match parent, hp with
  | .directory _, _ => exact if_neg hrel
  | .resource (.inPackage _ _ _), _ => exact if_neg hrel

theorem classify_impossible (hr : ¬ OfRuntime specifier) (hk : r.kind ≠ "relative-in-package") :
    classify specifier (.resource r) = .error (.impossibleParent specifier r) := by
  unfold classify
  rw [nodeName?_eq_none_iff.mpr hr]
  cases r with
  | package name path => rfl
  | relative path source => rfl
  | inPackage name source path => exact absurd rfl hk

theorem packageOf_eq_error_iff_head : packageOf specifier = .error .emptyPackageName ↔
    specifier = "" ∨ Text.startsWith specifier "/" = true := by
  rw [startsWith_iff_head (c := '/') rfl]
  by_cases hne : specifier = ""
  · subst hne
    exact iff_of_true rfl (.inl rfl)
  · rw [packageOf_eq_error_iff hne]
    simp [hne]

theorem packageOf_splits (h : ¬ (specifier = "" ∨ Text.startsWith specifier "/" = true)) :
    ∃ name path, packageOf specifier = .ok (.package name path) ∧ Splits specifier name path := by
  cases hc : packageOf specifier with
  | error fault =>
    have hne : specifier ≠ "" := fun he => h (.inl he)
    obtain ⟨rfl, -⟩ := (packageOf_eq_error_iff hne).mp hc
    exact absurd (packageOf_eq_error_iff_head.mp hc) h
  | ok r =>
    obtain ⟨name, path, rfl, hsplits⟩ := packageOf_eq_ok hc
    exact ⟨name, path, rfl, hsplits⟩

theorem classify_runtime_iff :
    classify specifier parent = .ok (.inPackage nodeTypes "" (name ++ ".d.ts")) ↔
      name ≠ "" ∧ specifier = "node:" ++ name := by
  refine ⟨fun hc => ?_, fun h => classify_runtime parent h.1 h.2⟩
  generalize hread : Resource.inPackage nodeTypes "" (name ++ ".d.ts") = r at hc
  cases reading_of_classify hc with
  | runtime hname h =>
    have heq := (Resource.inPackage.inj hread).2.2
    rw [String.append_left_inj] at heq
    exact heq ▸ ⟨hname, h⟩
  | beside h => cases hread
  | within h => exact absurd (Resource.inPackage.inj hread).2.1.symm (join_ne_empty _)
  | package h => cases hread

theorem classify_impossible_iff (hk : r.kind ≠ "relative-in-package") :
    classify specifier (.resource r) = .error (.impossibleParent specifier r) ↔ ¬ OfRuntime specifier := by
  refine ⟨fun hc hr => ?_, fun hr => classify_impossible hr hk⟩
  obtain ⟨name, hname, h⟩ := hr
  rw [classify_runtime (.resource r) hname h] at hc
  cases hc

/-- A resource next to its parent, with the specifier for its path, is what a leading dot makes. -/
theorem reading_beside_iff (hp : Parent.Possible parent) (hr : ¬ OfRuntime specifier) :
    (∃ r, classify specifier parent = .ok r ∧ some r.kind = parent.kind? ∧ r.importPath = specifier) ↔
      Text.startsWith specifier "." = true := by
  constructor
  · rintro ⟨r, hc, hk, -⟩
    cases reading_of_classify hc with
    | runtime hname h => exact absurd ⟨_, hname, h⟩ hr
    | beside h => exact h
    | within h => exact h
    | package h =>
      match parent, hp with
      | .directory _, _ => exact absurd (Option.some.inj hk) (by simp [Resource.kind])
      | .resource (.inPackage _ _ _), _ => exact absurd (Option.some.inj hk) (by simp [Resource.kind])
  · intro h
    match parent, hp with
    | .directory directory, _ => exact ⟨_, classify_beside directory h, rfl, rfl⟩
    | .resource (.inPackage package source path), _ => exact ⟨_, classify_within package source path h, rfl, rfl⟩

/-- In a directory and in a package, `node:` with a name after it stands for a file of the runtime, a
leading dot for a path next to the parent, nothing and a leading slash for no package, and all else for a
package and a path in it, which make up the specifier. So no two specifiers have the same reading, but for
a slash at the end. In a package or a plain path as parent only the names of the runtime have a reading. -/
theorem classify_lossless (specifier : String) :
    (∀ parent : Parent, Parent.Possible parent →
      (∀ name, classify specifier parent = .ok (.inPackage nodeTypes "" (name ++ ".d.ts")) ↔
        name ≠ "" ∧ specifier = "node:" ++ name) ∧
      (¬ OfRuntime specifier →
        ((∃ r, classify specifier parent = .ok r ∧ some r.kind = parent.kind? ∧
            r.importPath = specifier) ↔ Text.startsWith specifier "." = true) ∧
        (Text.startsWith specifier "." = false →
          (classify specifier parent = .error .emptyPackageName ↔
            specifier = "" ∨ Text.startsWith specifier "/" = true) ∧
          (¬ (specifier = "" ∨ Text.startsWith specifier "/" = true) → ∃ name path,
            classify specifier parent = .ok (.package name path) ∧ Splits specifier name path)))) ∧
    (∀ other parent r, classify specifier parent = .ok r → classify other parent = .ok r →
      specifier = other ∨ specifier = other ++ "/" ∨ other = specifier ++ "/") ∧
    ∀ r : Resource, r.kind ≠ "relative-in-package" →
      (classify specifier (.resource r) = .error (.impossibleParent specifier r) ↔
        ¬ OfRuntime specifier) := by
  refine ⟨fun parent hp => ⟨fun _ => classify_runtime_iff,
    fun hr => ⟨reading_beside_iff hp hr, fun hd => ?_⟩⟩, fun other parent r hc ho => ?_,
    fun r hk => classify_impossible_iff hk⟩
  · rw [classify_elsewhere hp hr hd]
    exact ⟨packageOf_eq_error_iff_head, packageOf_splits⟩
  · exact (reading_of_classify hc).unique (reading_of_classify ho) rfl

namespace Slashed

def inner : Parent := .resource (.inPackage "p" "lib" "")

/-- A slash at the end of a package name is lost, and nothing else is. -/
theorem slash_lost : Parent.Possible inner ∧ ¬ OfRuntime "@scope/pkg" ∧
    Text.startsWith "@scope/pkg" "." = false ∧
    classify "@scope/pkg" inner = .ok (.package "@scope/pkg" "") ∧
    classify "@scope/pkg/" inner = .ok (.package "@scope/pkg" "") ∧
    (∃ name path, classify "@scope/pkg" inner = .ok (.package name path) ∧
      Splits "@scope/pkg" name path) ∧
    ("@scope/pkg" = "@scope/pkg/" ∨ "@scope/pkg" = "@scope/pkg/" ++ "/" ∨
      "@scope/pkg/" = "@scope/pkg" ++ "/") ∧
    classify "@scope/pkg" (.resource (.package "p" "")) =
      .error (.impossibleParent "@scope/pkg" (.package "p" "")) := by
  have hr : ¬ OfRuntime "@scope/pkg" := nodeName?_eq_none_iff.mp (by decide)
  have hd : Text.startsWith "@scope/pkg" "." = false := by decide
  have hshort : classify "@scope/pkg" inner = .ok (.package "@scope/pkg" "") := rfl
  have hlong : classify "@scope/pkg/" inner = .ok (.package "@scope/pkg" "") := rfl
  obtain ⟨hread, hunique, himpossible⟩ := classify_lossless "@scope/pkg"
  exact ⟨trivial, hr, hd, hshort, hlong, (((hread inner trivial).2 hr).2 hd).2 (by decide),
    hunique _ _ _ hshort hlong, (himpossible (.package "p" "") (by decide)).mpr hr⟩

end Slashed

end Specifier

end DeclarationFetch
