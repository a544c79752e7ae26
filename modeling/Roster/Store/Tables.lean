import Roster.Store.Basic
import Roster.Text.Braced

/-!
# The store in memory

* `TableStore` — three maps by key, the retention of facts, and a switch that makes every write fail.
* The instance of `Store`: a write that is switched off changes nothing; reads and the pruning always
  work.
* `TableStore.backdate` — set the last touch of a member's facts.
-/

set_option autoImplicit false

namespace Roster

/-- A saved cache entry. -/
structure SavedRow where
  payload : String
  expiresAt : Option Instant
deriving DecidableEq, Repr

/-- When a member joined. -/
structure JoinFact where
  joinedAt : Timestamp
  lastTouched : Instant
deriving DecidableEq, Repr

/-- The roles a member had. -/
structure RolesFact where
  roleIds : List String
  observedAt : Instant
  lastTouched : Instant
deriving DecidableEq, Repr

/-- A tag and a key under it. -/
structure RowId where
  tag : String
  key : String
deriving DecidableEq, Repr

namespace RowId

instance : Ord RowId := ⟨compareLex (compareOn tag) (compareOn key)⟩

instance : Std.TransOrd RowId :=
  inferInstanceAs (Std.TransCmp (compareLex (compareOn tag) (compareOn key)))

instance : Std.LawfulEqOrd RowId where
  eq_of_compare {a b} h := by
    have h : compareLex (compareOn tag) (compareOn key) a b = .eq := h
    have h' : a.tag = b.tag ∧ a.key = b.key := by
      simpa only [compareLex, compareOn, Ordering.then_eq_eq, Std.LawfulEqOrd.compare_eq_iff_eq]
        using h
    cases a
    cases b
    simp_all

end RowId

/-- A store that lives as long as the process. -/
structure TableStore where
  cacheRows : Std.TreeMap RowId SavedRow
  joins : Std.TreeMap MemberId JoinFact
  roles : Std.TreeMap MemberId RolesFact
  retention : Duration
  readOnly : Bool
deriving Repr

namespace TableStore

/-- An empty store. -/
def new (retention : Duration) : TableStore := ⟨∅, ∅, ∅, retention, false⟩

/-- Thirty days. -/
def defaultRetention : Duration := .ofSeconds (30 * 86400)

/-! ## Writing -/

/-- A write, unless writes are switched off. -/
def write {α : Type} (s : TableStore) (change : TableStore → α × TableStore) :
    Outcome TableStore α :=
  if s.readOnly then (.error (.store "writes disabled"), s)
  else
    let (a, s) := change s
    (.ok a, s)

def saveEntry (tag key payload : String) (expiresAt : Option Instant) (s : TableStore) :
    Outcome TableStore Unit :=
  s.write fun s => ((), { s with cacheRows := s.cacheRows.insert ⟨tag, key⟩ ⟨payload, expiresAt⟩ })

def recordJoin (now : Instant) (id : MemberId) (joinedAt : Timestamp) (s : TableStore) :
    Outcome TableStore Unit :=
  s.write fun s => ((), { s with joins := s.joins.insert id ⟨joinedAt, now⟩ })

/-- Stamp the join row of a member. -/
def stampJoin (s : TableStore) (id : MemberId) (now : Instant) : TableStore :=
  { s with joins := s.joins.modify id fun r => { r with lastTouched := now } }

/-- Stamp the roles row of a member. -/
def stampRoles (s : TableStore) (id : MemberId) (now : Instant) : TableStore :=
  { s with roles := s.roles.modify id fun r => { r with lastTouched := now } }

def recordFirstJoin (now : Instant) (id : MemberId) (joinedAt : Timestamp) (s : TableStore) :
    Outcome TableStore Bool :=
  s.write fun s =>
    match s.joins[id]? with
    | some _ => (false, s.stampJoin id now)
    | none => (true, { s with joins := s.joins.insert id ⟨joinedAt, now⟩ })

def touchJoin (now : Instant) (id : MemberId) (s : TableStore) : Outcome TableStore Unit :=
  s.write fun s => ((), s.stampJoin id now)

def recordRoles (now : Instant) (id : MemberId) (roleIds : List String) (observedAt : Instant)
    (s : TableStore) : Outcome TableStore Unit :=
  s.write fun s => ((), { s with roles := s.roles.insert id ⟨roleIds, observedAt, now⟩ })

def touchRoles (now : Instant) (id : MemberId) (s : TableStore) : Outcome TableStore Unit :=
  s.write fun s => ((), s.stampRoles id now)

/-! ## Reading -/

/-- The saved entries with a tag. -/
def entriesOf (s : TableStore) (tag : String) : List SavedEntry :=
  (s.cacheRows.toList.filter fun r => r.1.tag = tag).map fun r => ⟨r.1.key, r.2.payload, r.2.expiresAt⟩

/-- The recorded join times of a group. -/
def groupJoins (s : TableStore) (groupId : String) : List (String × Timestamp) :=
  (s.joins.toList.filter fun r => r.1.group = groupId).map fun r => (r.1.user, r.2.joinedAt)

/-- The recorded roles of a member. -/
def rolesOf (s : TableStore) (id : MemberId) : List String :=
  (s.roles[id]?.map RolesFact.roleIds).getD []

/-- The recorded join time of a member. -/
def joinTime? (s : TableStore) (id : MemberId) : Option Timestamp :=
  s.joins[id]?.map JoinFact.joinedAt

/-! ## Removing -/

/-- A saved entry that has not expired. -/
def keepsRow (now : Instant) (r : SavedRow) : Bool :=
  match r.expiresAt with
  | none => true
  | some expiry => decide (now < expiry)

/-- Drop expired entries, and facts last touched before the cutoff. -/
def pruned (s : TableStore) (now : Instant) : TableStore :=
  let cutoff := oldestKept now s.retention
  { s with
    cacheRows := s.cacheRows.filter fun _ r => keepsRow now r
    joins := s.joins.filter fun _ r => decide (cutoff ≤ r.lastTouched)
    roles := s.roles.filter fun _ r => decide (cutoff ≤ r.lastTouched) }

def prune (now : Instant) (s : TableStore) : Outcome TableStore PruneCount :=
  let s' := s.pruned now
  (.ok ⟨s.cacheRows.size - s'.cacheRows.size, s.joins.size - s'.joins.size,
    s.roles.size - s'.roles.size⟩, s')

instance : Store TableStore where
  saveEntry := saveEntry
  savedEntries tag s := (.ok (s.entriesOf tag), s)
  recordJoin := recordJoin
  recordFirstJoin := recordFirstJoin
  joinsOf groupId s := (.ok (s.groupJoins groupId), s)
  touchJoin := touchJoin
  recordRoles := recordRoles
  rolesOf id s := (.ok (s.rolesOf id), s)
  touchRoles := touchRoles
  prune := prune

/-! ## Inspecting -/

/-- Set the last touch of both facts of a member. -/
def backdate (s : TableStore) (id : MemberId) (time : Instant) : TableStore :=
  (s.stampJoin id time).stampRoles id time

/-- The sizes on one line. -/
def describe (s : TableStore) : String :=
  Text.braced "MemoryStore"
    [("cache_entries", toString s.cacheRows.size), ("member_joins", toString s.joins.size),
     ("member_roles", toString s.roles.size)]

end TableStore

end Roster
