import DeclarationFetch.Proofs.Outcome
import DeclarationFetch.Proofs.Path.Inside
import DeclarationFetch.Specifier.Classify

/-! # The packages that specifiers name

* `Resource.Rooted r`: the name of the package that `r` is in does not climb.
* `rooted_of_dependencies`: so it is for everything that a text imports, if it is for the parent.
-/

namespace DeclarationFetch

open DeclarationFetch.Path

/-- A resource in no package, or in one whose name does not climb. -/
def Resource.Rooted : Resource → Prop
  | .package name _ => ¬ Climbs (parts name.toList)
  | .inPackage name _ _ => ¬ Climbs (parts name.toList)
  | .relative _ _ => True

namespace Specifier

/-- The name in a specifier is one part that starts with no dot, with at most one more after it. -/
theorem not_climbs_name {specifier : String} (hrel : isRelative specifier = false)
    (hn : String.ofList (unparts ((parts specifier.toList).take (nameParts specifier))) ≠ "") :
    ¬ Climbs (parts (unparts ((parts specifier.toList).take (nameParts specifier)))) := by
  have hn : unparts ((parts specifier.toList).take (nameParts specifier)) ≠ [] := fun h =>
    hn (by rw [h])
  have hs : ∀ p ∈ (parts specifier.toList).take (nameParts specifier), '/' ∉ p := fun p hp =>
    slash_not_mem_of_mem_parts (List.mem_of_mem_take hp)
  have hne : (parts specifier.toList).take (nameParts specifier) ≠ [] := fun h => hn (by rw [h]; rfl)
  rw [parts_unparts hne hs]
  unfold isRelative at hrel
  unfold nameParts at hn ⊢
  cases hl : specifier.toList with
  | nil =>
    rw [hl] at hn
    exact absurd rfl hn
  | cons c tail =>
    rw [hl] at hrel hn
    have hdot : c ≠ '.' := by simpa using hrel
    by_cases hc : c = '/'
    · subst hc
      rw [show parts ('/' :: tail) = [] :: parts tail from parts_append_slash [] tail] at hn
      exact absurd rfl hn
    · obtain ⟨first, rest, hparts⟩ := parts_cons hc tail
      have hplain : Plain (c :: first) := plain_of_mem (List.mem_cons_self ..) hdot
      rw [hparts]
      split
      · cases rest with
        | nil => exact not_climbs_of_plain (by simpa using hplain)
        | cons second rest => exact not_climbs_pair hplain second
      · exact not_climbs_of_plain (by simpa using hplain)

theorem rooted_of_packageOf {specifier : String} {r : Resource} (hrel : isRelative specifier = false)
    (h : packageOf specifier = .ok r) : r.Rooted := by
  unfold packageOf at h
  dsimp only at h
  split at h
  · cases h
  · next hn =>
    cases h
    show ¬ Climbs (parts (String.toList (String.ofList _)))
    rw [String.toList_ofList]
    exact not_climbs_name hrel hn

theorem rooted_of_classify {specifier : String} {parent : Parent} {r : Resource}
    (hp : ∀ p, parent = .resource p → p.Rooted) (h : classify specifier parent = .ok r) :
    r.Rooted := by
  unfold classify at h
  split at h
  · cases h
    show ¬ Climbs (parts nodeTypes.toList)
    decide
  · split at h
    · split at h
      · cases h
        trivial
      · next hrel => exact rooted_of_packageOf (by simpa using hrel) h
    · split at h
      · next package source path _ =>
        cases h
        exact hp (.inPackage package source path) rfl
      · next hrel => exact rooted_of_packageOf (by simpa using hrel) h
    · cases h
    · cases h

theorem rooted_of_dependencies {source : String} {parent : Parent} {rs : List Resource} {r : Resource}
    (hp : ∀ p, parent = .resource p → p.Rooted) (h : dependencies source parent = .ok rs)
    (hr : r ∈ rs) : r.Rooted := by
  obtain ⟨specifier, _, hc⟩ := exists_of_mem_mapM h hr
  exact rooted_of_classify hp hc

end Specifier

end DeclarationFetch
