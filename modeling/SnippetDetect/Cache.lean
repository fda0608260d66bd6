import SnippetDetect.Detection

/-!
A cache of detections.

Entries stand in the order of their last use, the oldest first, and a content has at most
one. Contents are texts: a snippet is looked up by its encoding, if it has one. To put a text into
a full cache drops the entry used longest ago; to get one that is not older than the maximal age
counts as a use, and does not make it younger. Times are given by the caller.
-/

namespace SnippetDetect

/-- A detection that was stored for a text at a time. -/
structure CacheEntry where
  content : String
  detection : Detection
  storedAt : Binary64
  deriving DecidableEq, Repr

/-- What happened to a cache so far. -/
structure CacheCounts where
  hits : Nat := 0
  misses : Nat := 0
  evictions : Nat := 0
  puts : Nat := 0
  invalidations : Nat := 0
  deriving DecidableEq, Repr

structure Cache where
  maxSize : Int
  maxAge : Int
  entries : List CacheEntry := []
  counts : CacheCounts := {}
  deriving DecidableEq, Repr

namespace Cache

/-- An empty cache, which has room for at least one entry. -/
def create? (maxSize maxAge : Int) : Option Cache :=
  if maxSize < 1 then none else some { maxSize, maxAge }

/-- Whether an entry is younger than the maximal age. -/
def isFresh (c : Cache) (now : Binary64) (e : CacheEntry) : Bool :=
  (Number.float (now.sub e.storedAt)).lt (.int c.maxAge)

def find? (c : Cache) (content : String) : Option CacheEntry :=
  c.entries.find? (·.content = content)

/-- The entries of other snippets. -/
def without (c : Cache) (content : String) : List CacheEntry :=
  c.entries.filter (·.content ≠ content)

def hit (c : Cache) (e : CacheEntry) : Cache :=
  { c with
    entries := c.without e.content ++ [e]
    counts := { c.counts with hits := c.counts.hits + 1 } }

/-- A miss, after which the snippet has no entry. -/
def miss (c : Cache) (content : String) : Cache :=
  { c with
    entries := c.without content
    counts := { c.counts with misses := c.counts.misses + 1 } }

/-- The detection stored for a snippet, unless it has grown too old. -/
def get (c : Cache) (now : Binary64) (content : String) : Option Detection × Cache :=
  match c.find? content with
  | some e => if c.isFresh now e then (some e.detection, c.hit e) else (none, c.miss content)
  | none => (none, c.miss content)

/-- Whether there is no room for one more entry. -/
def isFull (c : Cache) : Bool := c.maxSize ≤ c.entries.length

/-- Make room for the entry of a snippet. -/
def makeRoom (c : Cache) (content : String) : Cache :=
  if (c.find? content).isSome then { c with entries := c.without content }
  else if c.isFull then
    { c with
      entries := c.entries.tail
      counts := { c.counts with evictions := c.counts.evictions + 1 } }
  else c

/-- Store a detection for a snippet. -/
def put (c : Cache) (now : Binary64) (content : String) (d : Detection) : Cache :=
  let c := c.makeRoom content
  { c with
    entries := c.entries ++ [⟨content, d, now⟩]
    counts := { c.counts with puts := c.counts.puts + 1 } }

/-- Drop all entries. -/
def clear (c : Cache) : Cache :=
  { c with
    entries := []
    counts := { c.counts with
      invalidations := c.counts.invalidations + if c.entries.isEmpty then 0 else 1 } }

/-- Drop the entries that have grown too old, and tell how many there were. -/
def cleanup (c : Cache) (now : Binary64) : Nat × Cache :=
  let fresh := c.entries.filter (c.isFresh now)
  (c.entries.length - fresh.length, { c with entries := fresh })

/-! ### Figures -/

def size (c : Cache) : Nat := c.entries.length

/-- The share of hits among all requests. -/
def hitRate (c : Cache) : Binary64 :=
  let requests := c.counts.hits + c.counts.misses
  if requests = 0 then Binary64.zero else Binary64.ofRatio false c.counts.hits requests

def info (c : Cache) : Json :=
  .obj [("size", .ofNat c.size), ("max_size", .num (.int c.maxSize)),
    ("max_age_seconds", .num (.int c.maxAge)), ("hit_rate", .num (.float c.hitRate)),
    ("statistics", .obj [("hits", .ofNat c.counts.hits), ("misses", .ofNat c.counts.misses),
      ("evictions", .ofNat c.counts.evictions), ("puts", .ofNat c.counts.puts),
      ("invalidations", .ofNat c.counts.invalidations),
      ("total_requests", .ofNat (c.counts.hits + c.counts.misses))])]

end Cache

end SnippetDetect
