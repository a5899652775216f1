import DeclarationFetch.Assoc

/-!
# Caches in memory

Contents by file key. A content stays until the cache is cleared.
-/

namespace DeclarationFetch

structure MemoryCache where
  contents : Assoc String := {}

namespace MemoryCache

instance : Inhabited MemoryCache := ⟨{}⟩

def get? (c : MemoryCache) (key : String) : Option String := c.contents.get? key

def contains (c : MemoryCache) (key : String) : Bool := c.contents.contains key

def set (c : MemoryCache) (key content : String) : MemoryCache := ⟨c.contents.insert key content⟩

def clear (_ : MemoryCache) : MemoryCache := {}

def size (c : MemoryCache) : Nat := c.contents.size

def isEmpty (c : MemoryCache) : Bool := c.contents.isEmpty

@[simp] theorem get?_clear (c : MemoryCache) (key : String) : c.clear.get? key = none := rfl

theorem get?_set (c : MemoryCache) (key other content : String) :
    (c.set key content).get? other = if key = other then some content else c.get? other :=
  Assoc.get?_insert c.contents key other content

end MemoryCache

end DeclarationFetch
