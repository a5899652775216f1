import DeclarationFetch.Cache.Disk
import DeclarationFetch.Cache.Memory

/-!
# Shared caches

Caches that several sessions may use, by name. A session refers to a cache by its number on a shelf, so
that all who refer to one cache see the same contents.
-/

namespace DeclarationFetch

structure CacheShelf where
  caches : List MemoryCache := []

namespace CacheShelf

def get (s : CacheShelf) (id : Nat) : MemoryCache := s.caches.getD id {}

def set (s : CacheShelf) (id : Nat) (cache : MemoryCache) : CacheShelf := ⟨s.caches.set id cache⟩

def add (s : CacheShelf) (cache : MemoryCache) : Nat × CacheShelf :=
  (s.caches.length, ⟨s.caches ++ [cache]⟩)

def clear (s : CacheShelf) (id : Nat) : CacheShelf := s.set id (s.get id).clear

theorem get_set (s : CacheShelf) (id : Nat) (cache : MemoryCache) :
    (s.set id cache).get id = if id < s.caches.length then cache else s.get id := by
  unfold set get
  split
  · next h => simp [List.getD_eq_getElem?_getD, h]
  · next h => rw [List.set_eq_of_length_le (by omega)]

@[simp] theorem length_caches_set (s : CacheShelf) (id : Nat) (cache : MemoryCache) :
    (s.set id cache).caches.length = s.caches.length := List.length_set

end CacheShelf

/-- A cache as those who use it know it: one in memory by its number, one on disk by its directory. -/
inductive CacheRef where
  | memory (id : Nat)
  | disk (cache : DiskCache)
  deriving Repr, DecidableEq

structure CacheRegistry where
  names : Assoc CacheRef := {}

namespace CacheRegistry

def defaultName : String := "default"

def contains (r : CacheRegistry) (name : String) : Bool := r.names.contains name

def register (r : CacheRegistry) (name : String) (cache : CacheRef) : CacheRegistry :=
  ⟨r.names.insert name cache⟩

/-- The cache of a name. If there is none, `make` gives one, which is registered. -/
def getOrCreate {σ : Type} (r : CacheRegistry) (name : String) (s : σ) (make : σ → CacheRef × σ) :
    CacheRef × CacheRegistry × σ :=
  match r.names.get? name with
  | some cache => (cache, r, s)
  | none =>
      let (cache, s') := make s
      (cache, r.register name cache, s')

end CacheRegistry

end DeclarationFetch
