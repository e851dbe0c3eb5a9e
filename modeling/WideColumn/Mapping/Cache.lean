import WideColumn.Mapping.Descriptor

/-!
# The descriptor cache

Descriptors are kept once they have been built. A request looks its key up; if nothing is there, it
builds a descriptor, during which other requests may be served, and then publishes it, unless
another request has been faster: then its own descriptor is thrown away. A build that fails leaves
nothing behind.

* `WideColumn.CacheKey`, `WideColumn.CacheStats`, `WideColumn.Cache`: what is kept;
* `WideColumn.Cache.lookUp`, `WideColumn.Cache.publish`: the two steps of a request that touch the
  cache;
* `WideColumn.Cache.request`: a request as a whole.
-/

namespace WideColumn

/-- What a descriptor is kept under. -/
structure CacheKey where
  id : ClassId
  kind : MappingKind
  deriving DecidableEq, Repr, Inhabited

/-- What became of the requests so far. The time that builds take is left out, as nothing depends on
it. -/
structure CacheStats where
  /-- Requests that found a descriptor. -/
  hits : Nat := 0
  /-- Requests that published the descriptor they built. -/
  misses : Nat := 0
  /-- Requests whose descriptor came too late. -/
  discarded : Nat := 0
  deriving DecidableEq, Repr, Inhabited

/-- The greatest count. -/
def CacheStats.limit : Nat := UInt64.size - 1

/-- A count after one more request; the greatest count stays as it is. -/
def CacheStats.increment (n : Nat) : Nat :=
  if n < limit then n + 1 else n

/-- The descriptors that are kept, the first published one first. -/
structure Cache where
  entries : List (CacheKey × Descriptor) := []
  stats : CacheStats := {}

namespace Cache

/-- A cache that keeps nothing yet. -/
def empty : Cache := {}

/-- How many descriptors are kept. -/
def size (c : Cache) : Nat :=
  c.entries.length

/-- The descriptor of a key. -/
def get? (c : Cache) (key : CacheKey) : Option Descriptor :=
  c.entries.lookup key

/-- The descriptor of a key, counted as a hit if there is one. -/
def lookUp (c : Cache) (key : CacheKey) : Option Descriptor × Cache :=
  match c.get? key with
  | some d => (some d, { c with stats.hits := CacheStats.increment c.stats.hits })
  | none => (none, c)

/-- The descriptor that a key has after one has been built for it, and the note that tells whether
it is the one that was built. -/
def publish (c : Cache) (key : CacheKey) (built : Descriptor) : Descriptor × Event × Cache :=
  match c.get? key with
  | some d =>
    (d, .discarded key.kind built.className,
      { c with stats.discarded := CacheStats.increment c.stats.discarded })
  | none =>
    (built, .published key.kind built.className,
      { entries := c.entries ++ [(key, built)]
        stats := { c.stats with misses := CacheStats.increment c.stats.misses } })

/-- A request for the descriptor of a key. The build is only run if there is none; it is given the
cache, which other requests may change meanwhile. -/
def request {ε : Type} (c : Cache) (key : CacheKey) (build : Cache → Traced ε Descriptor × Cache) :
    Traced ε Descriptor × Cache :=
  match c.lookUp key with
  | (some d, c) => (pure d, c)
  | (none, c) =>
    match build c with
    | (⟨events, .error e⟩, c) => (⟨events, .error e⟩, c)
    | (⟨events, .ok d⟩, c) =>
      let (d, event, c) := c.publish key d
      (⟨events ++ [event], .ok d⟩, c)

/-- A request whose build concerns nothing but the class. -/
def requestBuilt (c : Cache) (key : CacheKey) (d : ClassDecl) (kind : MappingKind)
    (config : Config) : Traced MappingError Descriptor × Cache :=
  c.request key fun c => (Descriptor.build d kind config, c)

end Cache

end WideColumn
