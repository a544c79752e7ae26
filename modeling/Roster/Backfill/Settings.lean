import Roster.Text.Braced
import Roster.Text.Quoted

/-!
# Settings of a backfill

* `BackfillSettings` — which kinds of records are filled in, for which groups, and how many members.
* `BackfillSettings.cap` — the most members of a group that are paged through.
-/

set_option autoImplicit false

namespace Roster

/-- What a backfill does.  Without a list of groups it walks the observed groups; a member cap of
zero is no cap. -/
structure BackfillSettings where
  groups : Bool
  roles : Bool
  channels : Bool
  members : Bool
  memberCap : Nat
  groupIds : Option (List String)
deriving DecidableEq, Repr

namespace BackfillSettings

/-- Everything, ten thousand members of a group at most. -/
def standard : BackfillSettings := ⟨true, true, true, true, 10000, none⟩

/-- The cap on members; a setting of zero gives the largest number of 64 bits. -/
def cap (s : BackfillSettings) : Nat :=
  if s.memberCap = 0 then 18446744073709551615 else s.memberCap

/-- The settings on one line. -/
def describe (s : BackfillSettings) : String :=
  let ids := match s.groupIds with
    | none => "None"
    | some ids => "Some(" ++ Text.quotedList ids ++ ")"
  Text.braced "WarmupConfig"
    [("groups", toString s.groups), ("roles", toString s.roles), ("channels", toString s.channels),
     ("members", toString s.members), ("max_members_per_group", toString s.memberCap),
     ("group_ids", ids)]

end BackfillSettings

end Roster
