import Roster.Proofs.Backfill.Invariants
import Roster.Proofs.Store.Contents

/-!
# What a backfill brings in

* `World.Holds` — the cache, the saved rows and the observed records have a property of cache entries, and the
  platform is in a state of a given set.
* `Delivers` — from the states of that set the platform answers with records that have the property under the
  keys that they will be cached under.
* `Delivers.steady` — each step of a backfill keeps the property.
* `World.holds_get`, `holds_save`, `holds_reload` — one step of a session and of saving.
* `Backfill.holds_run`, `holds_fillMembers`, `holds_refresh` — **a backfill keeps the property**, whatever its
  settings, along every page of members.
-/

set_option autoImplicit false

namespace Roster

variable {ρ : Type} {P : (k : Kind) → Entry k.Record → Prop} {serving : ρ → Prop}

/-- All records of a world have a property of cache entries. -/
structure World.Holds (P : (k : Kind) → Entry k.Record → Prop) (serving : ρ → Prop)
    (w : World ρ TableStore) : Prop where
  cache : w.cache.Holds P
  store : w.store.Holds P
  observed : ∀ e now r x, w.observed.lookup? now e = some r → P e.kind ⟨e.key, r, x⟩
  platform : serving w.platform

/-! ## The cache and the store -/

namespace World

variable {w : World ρ TableStore}

theorem Holds.withCache (h : w.Holds P serving) {cache : Cache} (hc : cache.Holds P) :
    ({ w with cache } : World ρ TableStore).Holds P serving :=
  ⟨hc, h.store, h.observed, h.platform⟩

theorem Holds.withStore (h : w.Holds P serving) {store : TableStore} (hs : store.Holds P) :
    ({ w with store } : World ρ TableStore).Holds P serving :=
  ⟨h.cache, hs, h.observed, h.platform⟩

/-- An operation of the store that leaves the saved rows alone. -/
theorem Holds.useStore (h : w.Holds P serving) {α : Type} {f : TableStore → Outcome TableStore α}
    (hf : (f w.store).2.cacheRows = w.store.cacheRows) : (w.useStore f).2.Holds P serving :=
  h.withStore (h.store.of_cacheRows hf)

theorem Holds.remember (h : w.Holds P serving) {e : Entity} {r : e.Record}
    (hr : e.key ≠ "" → ∀ x, P e.kind ⟨e.key, r, x⟩) : (w.remember e r).Holds P serving :=
  h.withCache (Cache.holds_insert h.cache hr)

theorem holds_save (h : w.Holds P serving) : w.save.2.Holds P serving :=
  h.withStore (TableStore.holds_save h.store h.cache)

theorem holds_reload (h : w.Holds P serving) : w.reload.2.Holds P serving := by
  obtain ⟨hc, hs⟩ := Cache.holds_reload (TableStore.rowsHold P) h.cache h.store
  exact ⟨hc, hs, h.observed, h.platform⟩

end World

/-! ## What the platform delivers -/

variable [Platform ρ]

/-- What the platform answers, now and later, has a property of cache entries. -/
structure Delivers (P : (k : Kind) → Entry k.Record → Prop) (serving : ρ → Prop) : Prop where
  keep : ∀ q now p, serving p → serving (Platform.ask q now p).2.2
  member : ∀ id now p m x, serving p → id.key ≠ "" → (Platform.ask (.member id) now p).1 = .ok m →
    P .member ⟨id.key, m, x⟩
  group : ∀ id now p g x, serving p → (Platform.ask (.group id) now p).1 = .ok g →
    P .group ⟨id, g, x⟩
  roles : ∀ g now p rs t x, serving p → (Platform.ask (.roles g) now p).1 = .ok rs →
    P .roles ⟨g, RoleList.fetched g rs t, x⟩
  channel : ∀ id now p c x, serving p → (Platform.ask (.channel id) now p).1 = .ok c →
    P .channel ⟨id, c, x⟩
  channels : ∀ g now p cs, serving p → (Platform.ask (.channels g) now p).1 = .ok cs →
    ∀ c ∈ cs, ∀ x, P .channel ⟨c.id, c, x⟩
  members : ∀ g after limit now p ms, serving p →
    (Platform.ask (.members g after limit) now p).1 = .ok ms →
    ∀ m ∈ ms, ∀ x, P .member ⟨m.id.text, m, x⟩

/-- What an answer brings in has the property. -/
theorem Delivers.told (hd : Delivers P serving) {p : ρ} (hp : serving p) {q : Request} {answer : q.Answer}
    {now : Instant} (hask : (Platform.ask q now p).1 = .ok answer) {k : Kind} {key : String} {r : k.Record}
    (hbrings : q.Brings answer k key r) (hk : key ≠ "") (x : Option Instant) : P k ⟨key, r, x⟩ := by
  cases hbrings with
  | group => exact hd.group _ now p _ x hp hask
  | roles => exact hd.roles _ now p _ _ x hp hask
  | channel => exact hd.channel _ now p _ x hp hask
  | channels _ _ _ hc => exact hd.channels _ now p _ hp hask _ hc x
  | member => exact hd.member _ now p _ x hp hk hask
  | members _ _ _ _ _ hm => exact hd.members _ _ _ now p _ hp hask _ hm x

/-- Each step of a backfill keeps a property that the platform delivers. -/
theorem Delivers.steady (hd : Delivers P serving) :
    Backfill.Steady (fun w : World ρ TableStore => w.Holds P serving) fun _ k key r =>
      ∀ x, P k ⟨key, r, x⟩ where
  ask w q h := ⟨h.cache, h.store, h.observed, hd.keep q w.now w.platform h.platform⟩
  told _ _ _ h hask _ _ _ hbrings hk := hd.told h.platform hask hbrings hk
  remember _ _ _ h hr := h.remember hr
  insertUnlessLive _ _ _ _ h hr := h.withCache (Cache.holds_insertUnlessLive h.cache hr)
  joinsOf _ _ h := h.useStore rfl
  noteFacts w m known h _ := h.useStore (TableStore.cacheRows_noteFacts m known w.now w.now w.store)
  replaceFacts w m seen h := h.useStore (TableStore.cacheRows_replaceFacts m seen w.now w.store)

/-! ## Sessions -/

/-- A lookup keeps the property. -/
theorem World.holds_get {w : World ρ TableStore} (hd : Delivers P serving) (h : w.Holds P serving)
    (e : Entity) :
    (Session.get w e).2.Holds P serving := by
  have hlooked : (w.looked e).Holds P serving := h.withCache (holds_looked h.cache e)
  refine hd.steady.get hlooked fun r _ hr => hlooked.remember fun _ x => ?_
  exact h.observed e w.now r x hr

/-! ## Backfills -/

namespace Backfill

variable (b : Backfill) {w : World ρ TableStore}

/-- **Paging through the members of a group keeps the property.** -/
theorem holds_fillMembers (hd : Delivers P serving) (h : w.Holds P serving) (groupId : String) :
    (b.fillMembers groupId w).2.Holds P serving := hd.steady.fillMembers b h groupId

/-- **Fetching members again keeps the property.** -/
theorem holds_refresh (hd : Delivers P serving) (h : w.Holds P serving) (groupId : String)
    (users : List String) : (b.refresh groupId users w).2.Holds P serving :=
  hd.steady.refresh b h groupId users

/-- **A backfill keeps the property.** -/
theorem holds_run (hd : Delivers P serving) (h : w.Holds P serving) : (b.run w).2.Holds P serving :=
  hd.steady.run b (World.holds_reload h)

end Backfill

end Roster
