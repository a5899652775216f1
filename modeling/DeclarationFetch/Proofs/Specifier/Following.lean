import DeclarationFetch.Proofs.Specifier.Classes

/-! # Imports that follow one another in a package

From a directory of a package on, each import is by a path next to the one before it.

* `follow start specifiers`: the target of the last import.
* `follow_within`: it is in the same package, at the path that all specifiers make together.
* `follow_joined`: however the specifiers are grouped, the key of the target is the same.
-/

namespace DeclarationFetch.Specifier

open DeclarationFetch.Path

variable {specifiers : List String}

/-- Each specifier is classified with the target of the one before it as parent. -/
def follow (start : Resource) (specifiers : List String) : Except Fault Resource :=
  specifiers.foldlM (fun r specifier => classify specifier (.resource r)) start

theorem head_joined_of_dot (h : ∀ s ∈ specifiers, Text.startsWith s "." = true) :
    (joined specifiers).head? ≠ some '/' := by
  refine head_joined_ne_slash fun s hs hslash => ?_
  have hdot : s.toList.head? = some '.' := (startsWith_iff_head rfl).mp (h s hs)
  exact absurd (Option.some.inj (hdot.symm.trans hslash)) (by decide)

/-- The last target is in the package, at the path of all specifiers from the first parent on. -/
theorem follow_within {package source path : String} (h : (joined [source, path]).head? ≠ some '/')
    (hs : ∀ s ∈ specifiers, Text.startsWith s "." = true) :
    ∃ source' path', follow (.inPackage package source path) specifiers =
        .ok (.inPackage package source' path') ∧
      join [source', path'] = join ([source, path] ++ specifiers) := by
  induction specifiers generalizing source path with
  | nil => exact ⟨source, path, rfl, rfl⟩
  | cons specifier rest ih =>
    have hfirst := classify_within package source path (hs specifier (List.mem_cons_self ..))
    have hone : (joined [specifier]).head? ≠ some '/' := head_joined_of_dot fun s hm =>
      hs s (List.mem_singleton.mp hm ▸ List.mem_cons_self ..)
    have hparent : (joined [join [source, path]]).head? ≠ some '/' := by
      rw [joined_join]
      exact head_join_ne_slash h
    obtain ⟨source', path', hf, hj⟩ := ih (head_joined_append_ne_slash hparent hone)
      fun s hm => hs s (List.mem_cons_of_mem _ hm)
    refine ⟨source', path', ?_, hj.trans ?_⟩
    · unfold follow
      rw [List.foldlM_cons, hfirst]
      exact hf
    · exact join_join (head_joined_append_ne_slash h (head_joined_of_dot hs))

/-- The key of the last target is that of the path which the directory and all specifiers make, and it
does not matter in which groups they are joined. -/
theorem follow_joined {directory : String} (package : String) (hd : Text.startsWith directory "/" = false)
    (hs : ∀ s ∈ specifiers, Text.startsWith s "." = true) :
    (∃ source path, follow (.inPackage package directory "") specifiers =
        .ok (.inPackage package source path) ∧
      ∀ version, (Resource.inPackage package source path).key version =
        versioned package version ++ "/" ++ join (directory :: specifiers)) ∧
    ∀ k, join (join (directory :: specifiers.take k) :: specifiers.drop k) =
      join (directory :: specifiers) := by
  have hfirst : (joined [directory]).head? ≠ some '/' := head_joined_ne_slash fun s hm =>
    List.mem_singleton.mp hm ▸ startsWith_slash_eq_false.mp hd
  constructor
  · have hstart : (joined ([directory] ++ [""])).head? ≠ some '/' :=
      head_joined_append_ne_slash hfirst (by decide)
    obtain ⟨source, path, hf, hj⟩ := follow_within hstart hs
    refine ⟨source, path, hf, fun version => ?_⟩
    show versioned package version ++ "/" ++ join [source, path] = _
    rw [hj]
    exact congrArg _ (join_append_empty [directory] specifiers)
  · intro k
    -- the two parts of the route are joined to what the whole route is
    have hsplit : (directory :: specifiers.take k) ++ specifiers.drop k = [directory] ++ specifiers := by
      rw [List.cons_append, List.take_append_drop]
      rfl
    have hrel : (joined ((directory :: specifiers.take k) ++ specifiers.drop k)).head? ≠ some '/' :=
      hsplit ▸ head_joined_append_ne_slash hfirst (head_joined_of_dot hs)
    rw [join_join hrel, hsplit]
    rfl

namespace Descent

def steps : List String := ["./c//", "../../..", "..", "./x/."]

/-- A way that leads above the package, with slashes that are doubled and one at the end. -/
theorem descent_joined : Text.startsWith "a/b/" "/" = false ∧
    (∀ s ∈ steps, Text.startsWith s "." = true) ∧
    (∃ source path, follow (.inPackage "p" "a/b/" "") steps = .ok (.inPackage "p" source path) ∧
      (Resource.inPackage "p" source path).key (some "1.0.0") = "p@1.0.0/../x") ∧
    join (join ["a/b/", "./c//", "../../.."] :: ["..", "./x/."]) = "../x" := by
  have hd : Text.startsWith "a/b/" "/" = false := by decide
  have hs : ∀ s ∈ steps, Text.startsWith s "." = true := by decide
  obtain ⟨⟨source, path, hf, hkey⟩, hgroup⟩ := follow_joined "p" hd hs
  refine ⟨hd, hs, ⟨source, path, hf, ?_⟩, ?_⟩
  · rw [hkey]
    decide
  · exact (hgroup 2).trans (by decide)

end Descent

end DeclarationFetch.Specifier
