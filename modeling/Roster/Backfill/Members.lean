import Roster.Backfill.Facts
import Roster.Backfill.Report
import Roster.Backfill.Settings
import Roster.World

/-!
# Paging through members

* `Backfill` — settings, and whether facts about members are recorded.
* `Backfill.takeMember` — record the facts of one member and cache the member unless it is there.
* `Backfill.fillMembers` — page through the members of a group: up to the cap, a short or an empty page, or an
  error.  It ends because every page that is followed by another one has a member.
* `Backfill.refresh`, `Backfill.keepFresh` — fetch some members again, or only touch their facts.
-/

set_option autoImplicit false

namespace Roster

/-- A backfill. -/
structure Backfill where
  settings : BackfillSettings
  recordsFacts : Bool
deriving DecidableEq, Repr

namespace Backfill

/-- A backfill on one line. -/
def describe (b : Backfill) : String :=
  Text.braced "Backfill" [("config", b.settings.describe), ("store", toString b.recordsFacts)]

variable {ρ τ : Type} [Store τ]

/-- Join times read at the start of a pass. -/
abbrev JoinsRead := Option (Std.TreeMap String Timestamp)

/-- Whether a user's join time is known; nothing when none were read. -/
def JoinsRead.has (known : JoinsRead) (user : String) : Option Bool :=
  known.map fun joins => joins.contains user

/-- The join times of a group, read once per pass. -/
def readJoins (b : Backfill) (groupId : String) (w : World ρ τ) :
    JoinsRead × MemberTally × World ρ τ :=
  if b.recordsFacts then
    match w.useStore (Store.joinsOf groupId) with
    | (.ok joins, w) => (some (.ofList joins), .zero, w)
    | (.error _, w) => (none, { MemberTally.zero with errors := 1 }, w)
  else (none, .zero, w)

/-- Record the facts of a member. -/
def recordMember (b : Backfill) (known : JoinsRead) (m : Member) (p : MemberTally)
    (w : World ρ τ) : MemberTally × World ρ τ :=
  if b.recordsFacts then
    match w.useStore (noteFacts m (known.has m.userId) w.now w.now) with
    | (.ok true, w) => ({ p with factsCreated := p.factsCreated + 1 }, w)
    | (.ok false, w) => ({ p with factsTouched := p.factsTouched + 1 }, w)
    | (.error _, w) => ({ p with errors := p.errors + 1 }, w)
  else (p, w)

/-- Cache a member under both its ids unless a live one is there. -/
def cacheMember (m : Member) (p : MemberTally) (w : World ρ τ) : MemberTally × World ρ τ :=
  match w.cache.insertUnlessLive .member m.id.text m w.now with
  | (true, cache) => ({ p with cached := p.cached + 1 }, { w with cache })
  | (false, cache) => (p, { w with cache })

/-- Record and cache a member. -/
def takeMember (b : Backfill) (known : JoinsRead) (acc : MemberTally × World ρ τ) (m : Member) :
    MemberTally × World ρ τ :=
  let (p, w) := b.recordMember known m acc.1 acc.2
  cacheMember m p w

/-- Record and cache the members of a page. -/
def takePage (b : Backfill) (known : JoinsRead) (page : List Member) (w : World ρ τ) :
    MemberTally × World ρ τ :=
  page.foldl (b.takeMember known) (.zero, w)

/-- The counts of a pass after one more page. -/
def addPage (p : MemberTally) (page : List Member) (tally : MemberTally) : MemberTally :=
  { pages := p.pages + 1
    fetched := p.fetched + page.length
    cached := p.cached + tally.cached
    factsCreated := p.factsCreated + tally.factsCreated
    factsTouched := p.factsTouched + tally.factsTouched
    errors := p.errors + tally.errors }

variable [Platform ρ]

/-- Page through the members of a group from behind a user id on. -/
def pages (b : Backfill) (groupId : String) (known : JoinsRead) (after : Option String)
    (p : MemberTally) (w : World ρ τ) : MemberTally × World ρ τ :=
  if _h : p.fetched < b.settings.cap then
    let limit := min (b.settings.cap - p.fetched) maxPageSize
    match w.ask (.members groupId after limit) with
    | (.error _, w) => ({ p with errors := p.errors + 1 }, w)
    | (.ok [], w) => ({ p with pages := p.pages + 1 }, w)
    | (.ok (m :: rest), w) =>
      let page := m :: rest
      let (tally, w) := b.takePage known page w
      let p' := addPage p page tally
      if page.length < limit then (p', w)
      else b.pages groupId known (some (page.getLast (by simp [page])).userId) p' w
  else (p, w)
termination_by b.settings.cap - p.fetched
decreasing_by
  simp only [addPage, List.length_cons]
  omega

/-- Page through the members of a group. -/
def fillMembers (b : Backfill) (groupId : String) (w : World ρ τ) : MemberTally × World ρ τ :=
  let (known, p, w) := b.readJoins groupId w
  b.pages groupId known none p w

/-- Fetch one member again; counts it when that worked.  Facts are written with the time `seen` at which the
whole refresh began. -/
def refreshMember (b : Backfill) (groupId : String) (seen : Instant) (acc : Nat × World ρ τ)
    (user : String) : Nat × World ρ τ :=
  let (n, w) := acc
  let id : MemberId := ⟨groupId, user⟩
  match w.ask (.member id) with
  | (.error _, w) => (n, w)
  | (.ok m, w) =>
    let w := if b.recordsFacts then (w.useStore (replaceFacts m seen w.now)).2 else w
    (n + 1, w.remember (.member id) m)

/-- Fetch members of a group again, cache them and replace their facts; tells how many answered. -/
def refresh (b : Backfill) (groupId : String) (users : List String) (w : World ρ τ) :
    Nat × World ρ τ :=
  users.foldl (b.refreshMember groupId w.now) (0, w)

omit [Platform ρ] in
/-- Touch the facts of one member; counts it when that worked. -/
def keepFreshMember (groupId : String) (acc : Nat × World ρ τ) (user : String) :
    Nat × World ρ τ :=
  let (n, w) := acc
  match w.useStore (touchFacts ⟨groupId, user⟩ w.now) with
  | (.ok (), w) => (n + 1, w)
  | (.error _, w) => (n, w)

omit [Platform ρ] in
/-- Touch the facts of members of a group, so that a pruning keeps them; tells how many worked. -/
def keepFresh (b : Backfill) (groupId : String) (users : List String) (w : World ρ τ) :
    Nat × World ρ τ :=
  if b.recordsFacts then users.foldl (keepFreshMember groupId) (0, w) else (0, w)

end Backfill

end Roster
