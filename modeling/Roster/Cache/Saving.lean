import Roster.Cache.Basic
import Roster.Store.Basic

/-!
# Saving and reloading the cache

* `Cache.save` — save every entry of every segment, most recently used first, as a row of the store:
  the tag of its kind, its key, the record as JSON and the expiry.  Rows that fail are counted.
* `Cache.reload` — put the rows of every kind back with the expiry they have.  A row that does not decode is
  passed over, an entry that is there stays, and nothing makes room.
* Neither does anything unless the cache is persistent.
-/

set_option autoImplicit false

namespace Roster

/-- Rows of a save, and those that failed. -/
structure SaveCount where
  total : Nat
  failed : Nat
deriving DecidableEq, Repr

/-- An error when some rows failed. -/
def SaveCount.result (n : SaveCount) : Except Error Unit :=
  if n.failed > 0 then .error (.unsaved n.failed n.total) else .ok ()

/-- Entries that a reload put back, and the first error of the store. -/
structure Reload where
  loaded : Nat
  failure : Option Error
deriving DecidableEq, Repr

/-- The first error, or how many entries came back. -/
def Reload.result (r : Reload) : Except Error Nat :=
  match r.failure with
  | some e => .error e
  | none => .ok r.loaded

namespace Segment

variable {τ α : Type} [Store τ] [JsonRecord α]

/-- Save one entry; counts a failure. -/
def saveEntry (tag : String) (acc : Nat × τ) (e : Entry α) : Nat × τ :=
  match Store.saveEntry tag e.key (JsonRecord.encode e.value) e.expiresAt acc.2 with
  | (.ok (), st) => (acc.1, st)
  | (.error _, st) => (acc.1 + 1, st)

/-- Save every entry. -/
def save (s : Segment α) (tag : String) (st : τ) : SaveCount × τ :=
  let (failed, st) := s.entries.list.foldl (saveEntry tag) (0, st)
  (⟨s.entries.size, failed⟩, st)

/-- Put one row back; counts it when it came in. -/
def restoreRow (acc : Nat × Segment α) (row : SavedEntry) : Nat × Segment α :=
  match JsonRecord.decode? row.payload with
  | none => acc
  | some value =>
    let (loaded, s) := acc.2.restore row.key value row.expiresAt
    (if loaded then acc.1 + 1 else acc.1, s)

/-- Put rows back; tells how many came in. -/
def restoreRows (s : Segment α) (rows : List SavedEntry) : Nat × Segment α :=
  rows.foldl restoreRow (0, s)

end Segment

namespace Cache

variable {τ : Type} [Store τ]

/-- Save the segment of a kind. -/
def saveKind (c : Cache) (acc : SaveCount × τ) (k : Kind) : SaveCount × τ :=
  let (n, st) := (c.segment k).save k.tag acc.2
  (⟨acc.1.total + n.total, acc.1.failed + n.failed⟩, st)

/-- Save every segment. -/
def save (c : Cache) (st : τ) : SaveCount × τ :=
  if c.isPersistent then Kind.all.foldl c.saveKind (⟨0, 0⟩, st) else (⟨0, 0⟩, st)

/-- Put the rows of a kind back. -/
def reloadKind (acc : Reload × Cache × τ) (k : Kind) : Reload × Cache × τ :=
  let (r, c, st) := acc
  match Store.savedEntries k.tag st with
  | (.error e, st) => (⟨r.loaded, r.failure.or (some e)⟩, c, st)
  | (.ok rows, st) =>
    let (n, s) := (c.segment k).restoreRows rows
    (⟨r.loaded + n, r.failure⟩, c.withSegment k s, st)

/-- Put the rows of every kind back. -/
def reload (c : Cache) (st : τ) : Reload × Cache × τ :=
  if c.isPersistent then Kind.all.foldl reloadKind (⟨0, none⟩, c, st) else (⟨0, none⟩, c, st)

end Cache

end Roster
