import SchemaQuery.Dictionary

/-!
# A cache whose entries expire

A cache keeps values by key, each with the time at which it was filled.  Where
the cache has a lifetime, an entry that is older is as good as absent, and it
is removed when it is looked at.  The clock is part of the cache and moves only
when it is told to.
-/

namespace SchemaQuery

structure CacheEntry (α : Type) where
  filledAt : Int
  value : α
deriving Repr, Inhabited

/-- Values by key, each kept for at most the lifetime. -/
structure Cache (α : Type) where
  lifetime : Option Int := none
  clock : Int := 0
  entries : Dictionary (CacheEntry α) := []
deriving Repr, Inhabited

/-- How a missing value is made, and how long that takes. -/
structure Factory (ε α : Type) where
  takes : Int
  product : Except ε α

namespace Cache

variable {ε α : Type}

def isFresh (cache : Cache α) (entry : CacheEntry α) : Bool :=
  match cache.lifetime with
  | some lifetime => cache.clock - entry.filledAt ≤ lifetime
  | none => true

def advance (cache : Cache α) (time : Int) : Cache α :=
  { cache with clock := cache.clock + time }

def remove (cache : Cache α) (key : String) : Cache α :=
  { cache with entries := cache.entries.erase key }

def fill (cache : Cache α) (key : String) (value : α) : Cache α :=
  { cache with entries := cache.entries.insert key ⟨cache.clock, value⟩ }

def probe (cache : Cache α) (key : String) : Option α × Cache α :=
  match cache.entries.get? key with
  | none => (none, cache)
  | some entry =>
      if cache.isFresh entry then (some entry.value, cache) else (none, cache.remove key)

def contains (cache : Cache α) (key : String) : Bool × Cache α :=
  let (value, cache) := cache.probe key
  (value.isSome, cache)

/-- The fresh value of a key, or what the factory makes of it, and whether that was called. -/
def getOrCreate (cache : Cache α) (key : String) (factory : Factory ε α) :
    Except ε α × Bool × Cache α :=
  match cache.probe key with
  | (some value, cache) => (.ok value, false, cache)
  | (none, cache) =>
      let cache := cache.advance factory.takes
      match factory.product with
      | .ok value => (.ok value, true, cache.fill key value)
      | .error failure => (.error failure, true, cache)

@[simp]
theorem clock_probe (cache : Cache α) (key : String) :
    (cache.probe key).2.clock = cache.clock := by
  unfold probe
  split
  · rfl
  · split <;> rfl

end Cache

end SchemaQuery
