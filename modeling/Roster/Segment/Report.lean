import Roster.Segment.Basic
import Roster.Text.Braced
import Roster.Text.Quoted

/-!
# Reports on a segment

* `SegmentReport` — the counters and settings of a segment at one moment.
* `rate` — a share of a total as a binary64 number, zero of an empty total.
* `Segment.describe` — a segment on one line.
-/

set_option autoImplicit false

namespace Roster

/-- `part / total` rounded to binary64; zero when there is nothing to divide by. -/
def rate (part total : Nat) : Float :=
  if total = 0 then 0 else Float.ofNat part / Float.ofNat total

/-- Counters and settings of a segment. -/
structure SegmentReport where
  name : String
  size : Nat
  hits : Nat
  misses : Nat
  evictions : Nat
  ttl : Option Duration
  capacity : Nat
deriving DecidableEq, Repr

namespace SegmentReport

/-- Reads so far. -/
def reads (s : SegmentReport) : Nat := s.hits + s.misses

def hitRate (s : SegmentReport) : Float := rate s.hits s.reads

def missRate (s : SegmentReport) : Float := rate s.misses s.reads

end SegmentReport

namespace Segment

variable {α : Type}

def report (s : Segment α) : SegmentReport :=
  ⟨s.name, s.size, s.hits, s.misses, s.evictions, s.ttl, s.limit⟩

/-- Name, size and limit. -/
def describe (s : Segment α) : String :=
  Text.braced "Segment"
    [("name", Text.quoted s.name), ("size", toString s.size), ("limit", toString s.limit)]

end Segment

end Roster
