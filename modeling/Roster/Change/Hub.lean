import Roster.Change.Basic
import Roster.Text.Braced

/-!
# The event hub

* `Hub` — handlers with the kind of change each waits for, in the order in which they subscribed.
* `Hub.subscribe`, `Hub.subscribeAll` — one kind, or every kind.
* `Hub.handlers` — who runs for a kind.  A delivery goes to the handlers subscribed when it starts.
* `Hub.deliver` — run them one after the other on a state.
-/

set_option autoImplicit false

namespace Roster

/-- Handlers with the kinds they wait for. -/
structure Hub (η : Type) where
  subscriptions : List (ChangeKind × η)
deriving Repr

namespace Hub

variable {η : Type}

/-- No handlers. -/
def empty : Hub η := ⟨[]⟩

/-- Add a handler for one kind of change. -/
def subscribe (h : Hub η) (kind : ChangeKind) (handler : η) : Hub η :=
  ⟨h.subscriptions ++ [(kind, handler)]⟩

/-- Add a handler for every kind of change. -/
def subscribeAll (h : Hub η) (handler : η) : Hub η :=
  ChangeKind.all.foldl (fun h kind => h.subscribe kind handler) h

/-- The handlers that wait for a kind of change, in the order of their subscription. -/
def handlers (h : Hub η) (kind : ChangeKind) : List η :=
  (h.subscriptions.filter fun s => s.1 = kind).map Prod.snd

/-- The kinds of change somebody waits for. -/
def kinds (h : Hub η) : List ChangeKind :=
  ChangeKind.all.filter fun kind => h.subscriptions.any fun s => s.1 = kind

/-- Run the handlers of a change on a state; tells how many ran. -/
def deliver {σ : Type} (h : Hub η) (run : η → Change → σ → σ) (event : Change) (s : σ) :
    Nat × σ :=
  let hs := h.handlers event.kind
  (hs.length, hs.foldl (fun s handler => run handler event s) s)

/-- The kinds of a hub on one line. -/
def describe (h : Hub η) : String :=
  Text.braced "EventHub" [("kinds", "[" ++ ", ".intercalate (h.kinds.map ChangeKind.name) ++ "]")]

theorem handlers_subscribe (h : Hub η) (kind k : ChangeKind) (handler : η) :
    (h.subscribe kind handler).handlers k =
      h.handlers k ++ if kind = k then [handler] else [] := by
  by_cases hk : kind = k <;> simp [subscribe, handlers, hk]

theorem handlers_subscribeAll (h : Hub η) (k : ChangeKind) (handler : η) :
    (h.subscribeAll handler).handlers k = h.handlers k ++ [handler] := by
  cases k <;> simp [subscribeAll, ChangeKind.all, handlers_subscribe]

end Hub

end Roster
