import DeclarationFetch.Assoc

/-!
# Hosts in memory

Declaration files by address, each address the root's followed by the path of the file.
-/

namespace DeclarationFetch

structure MemoryHost where
  rootUri : String := "inmemory://model/"
  files : Assoc String := {}

namespace MemoryHost

def uri (h : MemoryHost) (path : String) : String := h.rootUri ++ path

def get? (h : MemoryHost) (path : String) : Option String := h.files.get? (h.uri path)

def set (h : MemoryHost) (path content : String) : MemoryHost :=
  { h with files := h.files.insert (h.uri path) content }

def size (h : MemoryHost) : Nat := h.files.size

def isEmpty (h : MemoryHost) : Bool := h.files.isEmpty

theorem uri_inj {h : MemoryHost} {path other : String} : h.uri path = h.uri other ↔ path = other :=
  String.append_right_inj h.rootUri

theorem get?_set (h : MemoryHost) (path other content : String) :
    (h.set path content).get? other = if path = other then some content else h.get? other := by
  have hfiles := Assoc.get?_insert h.files (h.uri path) (h.uri other) content
  simp only [uri_inj] at hfiles
  exact hfiles

end MemoryHost

end DeclarationFetch
