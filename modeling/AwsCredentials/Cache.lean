import AwsCredentials.Task

/-!
# The cache of credentials

Credentials are kept until shortly before they expire. One lock guards them, which the callers get
in the order in which they came. The caller that has the lock takes the stored credentials if they
are still good, and else fetches new ones and keeps the lock meanwhile. A cache is a state of this
protocol, and `arrive`, `grant`, `complete` and `leave` are its moves:

* `arrive`: a caller comes and waits for the lock;
* `grant`: the first caller in line gets the lock, if no fetch is under way;
* `complete`: the fetch ends, and what it fetched is stored unless it failed;
* `leave`: a caller goes away, be it in line or in the middle of its fetch.

`Cache.serve` makes these moves for the callers in line, one after another.
-/

namespace AwsCredentials

/-- What a caller wants of the cache. -/
inductive CacheRequest where
  | credentials
  /-- That the stored credentials are thrown away. -/
  | invalidation
  deriving DecidableEq, Repr

/-- A caller in line. -/
structure CacheCaller where
  id : Nat
  request : CacheRequest
  deriving DecidableEq, Repr

/-- The stored credentials and who wants them. -/
structure Cache where
  stored : Option Credentials
  /-- The callers that wait for the lock, in the order in which they came. -/
  waiting : List CacheCaller
  /-- The caller that is in the middle of a fetch and has the lock. -/
  fetching : Option Nat
  deriving DecidableEq, Repr

namespace Cache

/-- An idle cache. -/
def holding (stored : Option Credentials) : Cache := ⟨stored, [], none⟩

/-- How long before their end credentials count as expired. -/
def buffer : Duration := Duration.ofSeconds 10

/-- What becomes of a caller that gets the lock. -/
inductive Granted where
  /-- The stored credentials are good. -/
  | served (id : Nat) (c : Credentials)
  /-- The stored credentials were thrown away. -/
  | invalidated (id : Nat)
  /-- The caller has to fetch, since nothing is stored or since it is `expired`. -/
  | fetches (id : Nat) (expired : Bool)
  deriving DecidableEq, Repr

/-- The stored credentials, if they are good at a time. -/
def good? (stored : Option Credentials) (now : Instant) : Option Credentials :=
  stored.filter fun c => !c.expiredAt now buffer

/-- A caller comes. -/
def arrive (cache : Cache) (caller : CacheCaller) : Cache :=
  { cache with waiting := cache.waiting ++ [caller] }

/-- The first caller in line gets the lock, if it is free. -/
def grant (cache : Cache) (now : Instant) : Cache × Option Granted :=
  match cache.fetching, cache.waiting with
  | none, caller :: rest =>
    match caller.request, good? cache.stored now with
    | .invalidation, _ => (⟨none, rest, none⟩, some (.invalidated caller.id))
    | .credentials, some c => (⟨cache.stored, rest, none⟩, some (.served caller.id c))
    | .credentials, none =>
      (⟨cache.stored, rest, some caller.id⟩, some (.fetches caller.id cache.stored.isSome))
  | _, _ => (cache, none)

/-- The fetch that is under way ends. -/
def complete (cache : Cache) (result : Except Error Credentials) : Cache :=
  match result with
  | .ok c => { cache with stored := some c, fetching := none }
  | .error _ => { cache with fetching := none }

/-- A caller goes away. -/
def leave (cache : Cache) (id : Nat) : Cache :=
  { cache with
    waiting := cache.waiting.filter fun caller => caller.id ≠ id
    fetching := cache.fetching.filter fun holder => holder ≠ id }

variable {I : Interface}

/-- Serves the first caller in line: its result, if it wants credentials. -/
def serveNext (fetch : Attempt I Credentials) (cache : Cache) :
    Task I (Cache × Option (Except Error Credentials)) := do
  match cache.grant (← Task.now) with
  | (cache, some (.served _ c)) => return (cache, some (.ok c))
  | (cache, some (.fetches _ expired)) =>
    if expired then
      Task.note (.debug .cache "Cached credentials expired, refreshing")
    let result ← fetch.run
    return (cache.complete result, some result)
  | (cache, _) => return (cache, none)

/-- Serves some callers, one after another. -/
def serve (fetch : Attempt I Credentials) :
    Nat → Cache → Task I (Cache × List (Except Error Credentials))
  | 0, cache => return (cache, [])
  | n + 1, cache => do
    let (cache, result) ← serveNext fetch cache
    let (cache, results) ← serve fetch n cache
    return (cache, result.toList ++ results)

/-- Callers that come at the same time and want credentials. -/
def arriveTogether (cache : Cache) (n : Nat) : Cache :=
  (List.range n).foldl (fun cache id => cache.arrive ⟨id, .credentials⟩) cache

/-- The credentials for some callers that come at the same time, in their order. -/
def getTogether (fetch : Attempt I Credentials) (n : Nat) (cache : Cache) :
    Task I (Cache × List (Except Error Credentials)) :=
  serve fetch n (cache.arriveTogether n)

/-- The credentials for a caller, if the lock can be had. -/
def get (fetch : Attempt I Credentials) (cache : Cache) :
    Task I (Cache × Option (Except Error Credentials)) :=
  serveNext fetch (cache.arrive ⟨0, .credentials⟩)

/-- Throws the stored credentials away. -/
def invalidate (cache : Cache) : Task I Cache := do
  Task.note (.debug .cache "Invalidating cached credentials")
  return ((cache.arrive ⟨0, .invalidation⟩).grant (← Task.now)).1

open Text Shown in
/-- The cache, of which only the provider that it fetches from is shown. -/
def shown (provider : String) : String :=
  partialRecord "CachedProvider" [("inner", provider)]

end Cache

end AwsCredentials
