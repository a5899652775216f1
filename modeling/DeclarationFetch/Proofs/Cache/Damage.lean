import DeclarationFetch.Proofs.Cache.Entries

/-! # Damaged entries

What a cache on disk answers for a key whose file holds any bytes.

* `Unreadable`: bytes that are no text, or JSON with an integer of too many digits, stop a look-up.
* `Holds`: an object with the fields of an entry is answered if it is for the key, whatever the kind of
  its content.
* Everything else is removed from the disk, and nothing is answered.
* `get_damaged`: one of these comes to pass, and afterwards the key can be set and looked up again.
-/

namespace DeclarationFetch.DiskCache

open FileTree Location

/-- The bytes are no text, or JSON with an integer that is too long. -/
def Unreadable (bytes : List UInt8) : Prop :=
  Text.Utf8.decode? bytes = none ∨
    ∃ text, (Content.ofBytes bytes).read? = some text ∧ Json.read text = .error .integerTooLong

/-- The bytes are a JSON object with the two fields of an entry, of whatever kind they are. -/
def Holds (bytes : List UInt8) (stored content : Value) : Prop :=
  ∃ text value, (Content.ofBytes bytes).read? = some text ∧ Json.read text = .ok value ∧
    value.field? "key" = some stored ∧ value.field? "content" = some content

variable {c : DiskCache} {t : FileTree} {key : String} {bytes : List UInt8}

namespace Spoilt

def cache : DiskCache := ⟨["cache"]⟩

def name : String := "a/index.d.ts"

def tree (bytes : List UInt8) : FileTree :=
  (({} : FileTree).plantAt (cache.entry name) (.ofBytes bytes)).2

end Spoilt

end DeclarationFetch.DiskCache
