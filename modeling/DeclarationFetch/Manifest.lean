import DeclarationFetch.Fault

/-!
# Manifests

What a package says about itself in its `package.json`.
-/

namespace DeclarationFetch

structure Manifest where
  fields : List (Value × Value)

namespace Manifest

def read (package text : String) : Except Fault Manifest :=
  match Json.read text with
  | .ok (.map fields) => .ok ⟨fields⟩
  | .ok _ => .error (.fetch (.manifestNotObject package))
  | .error .integerTooLong => .error .integerTooLong
  | .error fault => .error (.fetch (.malformedManifest package fault))

theorem fault_of_read {package text : String} {fault : Fault} (h : read package text = .error fault) :
    (∃ f, fault = .fetch f) ∨ fault = .integerTooLong := by
  unfold read at h
  split at h <;> cases h
  · exact .inl ⟨_, rfl⟩
  · exact .inr rfl
  · exact .inl ⟨_, rfl⟩

def field (m : Manifest) (name : String) : Value := (Value.lookup m.fields (.text name)).getD .null

/-- The entry of the declarations: `typings` if it is set, else `types`. -/
def entry? (m : Manifest) : Option String :=
  let typings := m.field "typings"
  (if typings.isSet then typings else m.field "types").someText?

def types? (m : Manifest) : Option String := (m.field "types").someText?

def version? (m : Manifest) : Option String := (m.field "version").someText?

theorem version?_ne_empty {m : Manifest} {version : String} (h : m.version? = some version) :
    version ≠ "" := by
  unfold version? Value.someText? at h
  split at h
  · split at h
    · cases h
    · cases h
      assumption
  · cases h

end Manifest

end DeclarationFetch
