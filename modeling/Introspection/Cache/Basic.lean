import Introspection.Digest.Md5
import Introspection.Files.Basic

/-!
# Caches

A cache keeps values for a time. A value may come from a file; then the cache knows when that file
was written and the digest of what it held.

* `Cache`, `Cache.empty`: values by key, with counts of hits and misses;
* `Cache.set`, `Cache.setFound?`, `Cache.get`, `Cache.invalidate`, `Cache.clear`: changes;
* `Cache.tag`, `Cache.isStale`: what is known of the files behind the values.
-/

namespace Introspection

/-- A value in a cache. -/
structure CacheEntry (α : Type) where
  data : α
  stored : Float
  ttl : Float
  /-- The digest of the file that the value comes from. -/
  tag : String
  /-- When the file was written that the value comes from. -/
  modified : Rat
deriving Repr

def CacheEntry.isExpired {α : Type} (e : CacheEntry α) (now : Float) : Bool :=
  decide (e.ttl < now - e.stored)

/-- Values by key, in the order in which their keys came. -/
structure Cache (α : Type) where
  defaultTtl : Float
  entries : List (String × CacheEntry α)
  hits : Nat
  misses : Nat
deriving Repr

namespace Cache

variable {α : Type}

/-- The cache without values. -/
def empty (α : Type) (defaultTtl : Float) : Cache α := ⟨defaultTtl, [], 0, 0⟩

def lookup (c : Cache α) (key : String) : Option (CacheEntry α) := c.entries.lookup key

def size (c : Cache α) : Nat := c.entries.length

def invalidate (c : Cache α) (key : String) : Cache α :=
  { c with entries := c.entries.filter (·.1 != key) }

def clear (c : Cache α) : Cache α := { c with entries := [] }

/-- The value with a key, if there is one and its time is not over; else a miss is counted, and a
value whose time is over is removed. -/
def get (c : Cache α) (now : Float) (key : String) : Cache α × Option α :=
  match c.lookup key with
  | none => ({ c with misses := c.misses + 1 }, none)
  | some e =>
    if e.isExpired now then ({ c.invalidate key with misses := c.misses + 1 }, none)
    else ({ c with hits := c.hits + 1 }, some e.data)

/-- How long a value is kept that is stored with a given time; no time and no length of time stand
for the default. -/
def effectiveTtl (c : Cache α) : Option Float → Float
  | none => c.defaultTtl
  | some t => if t == 0 then c.defaultTtl else t

/-- Stores a value, which may come from a file. -/
def set (c : Cache α) (now : Float) (key : String) (data : α) (ttl : Option Float)
    (file : Option File) : Cache α :=
  let e : CacheEntry α :=
    ⟨data, now, c.effectiveTtl ttl, (file.map fun f => Md5.hex f.bytes).getD "",
      (file.map (·.modified)).getD 0⟩
  { c with entries := (c.invalidate key).entries ++ [(key, e)] }

/-- Stores a value that comes from what a path leads to. Nothing can be read of a folder. -/
def setFound? (c : Cache α) (now : Float) (key : String) (data : α) (ttl : Option Float) :
    Option Found → Option (Cache α)
  | none => some (c.set now key data ttl none)
  | some (.file f) => some (c.set now key data ttl (some f))
  | some (.folder _) => none

/-- The digest of the file that a value comes from, empty if there is none. -/
def tag (c : Cache α) (key : String) : String := ((c.lookup key).map (·.tag)).getD ""

/-- Whether there is no value, or what it comes from is gone or was changed later. -/
def isStale (c : Cache α) (key : String) (found : Option Found) : Bool :=
  match c.lookup key, found with
  | some e, some x => decide (e.modified < x.modified)
  | _, _ => true

end Cache

end Introspection
