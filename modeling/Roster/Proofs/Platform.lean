import Roster.Session

/-!
# What a platform has told

* `Request.Brings` — the records that an answer brings in, and the keys they are cached under.
* `Session.brings_fetch` — a session fetches what the answer to one request brings in.
* `Logged` — a platform together with everything it was asked and answered.  It answers
  as the platform itself does.
* `Logged.ToldSince` — a record came in with an answer that was given later than the first `n`.
-/

set_option autoImplicit false

namespace Roster

/-- The records that an answer brings in.  A member of a page goes under its own ids, a member that was asked
for under the ids of the request; a role list is dated when it arrives. -/
inductive Request.Brings : (q : Request) → q.Answer → (k : Kind) → String → k.Record → Prop
  | group (id : String) (g : Group) : Brings (.group id) g .group id g
  | roles (groupId : String) (roles : List Role) (time : Instant) :
    Brings (.roles groupId) roles .roles groupId (RoleList.fetched groupId roles time)
  | channel (id : String) (c : Channel) : Brings (.channel id) c .channel id c
  | channels (groupId : String) (cs : List Channel) (c : Channel) (h : c ∈ cs) :
    Brings (.channels groupId) cs .channel c.id c
  | member (id : MemberId) (m : Member) : Brings (.member id) m .member id.key m
  | members (groupId : String) (after : Option String) (limit : Nat) (ms : List Member) (m : Member)
    (h : m ∈ ms) : Brings (.members groupId after limit) ms .member m.id.text m

variable {ρ : Type} [Platform ρ]

/-- A session asks one thing for a record, and hands it on or the error. -/
theorem Session.brings_fetch {τ : Type} (w : World ρ τ) (e : Entity) : ∃ q : Request,
    (fetch w e).2 = (w.ask q).2 ∧ ∀ r, (fetch w e).1 = .ok r →
      ∃ answer, (w.ask q).1 = .ok answer ∧ q.Brings answer e.kind e.key r := by
  cases e with
  | member id => exact ⟨.member id, rfl, fun r hr => ⟨r, hr, .member id r⟩⟩
  | group id => exact ⟨.group id, rfl, fun r hr => ⟨r, hr, .group id r⟩⟩
  | channel id => exact ⟨.channel id, rfl, fun r hr => ⟨r, hr, .channel id r⟩⟩
  | roles g =>
    refine ⟨.roles g, rfl, ?_⟩
    intro r hr
    have hmap : ((w.ask (.roles g)).1.map fun roles =>
        RoleList.fetched g roles (w.ask (.roles g)).2.now) = .ok r := hr
    cases hask : (w.ask (.roles g)).1 with
    | error err =>
      rw [hask] at hmap
      cases hmap
    | ok roles =>
      rw [hask] at hmap
      cases hmap
      exact ⟨roles, rfl, .roles g roles _⟩

/-! ## Keeping a log -/

/-- A request and what it was answered with. -/
structure Exchange where
  request : Request
  answer : Except PlatformError request.Answer

/-- A platform and its exchanges, the last one at the end. -/
structure Logged (ρ : Type) where
  platform : ρ
  exchanges : List Exchange

instance : Platform (Logged ρ) where
  ask q now p :=
    let (answer, now, platform) := Platform.ask q now p.platform
    (answer, now, ⟨platform, p.exchanges ++ [⟨q, answer⟩]⟩)

namespace Logged

omit [Platform ρ] in
/-- A record came in with an answer that was given later than the first `n`. -/
def ToldSince (n : Nat) (p : Logged ρ) (k : Kind) (key : String) (r : k.Record) : Prop :=
  ∃ (q : Request) (answer : q.Answer), ⟨q, .ok answer⟩ ∈ p.exchanges.drop n ∧ q.Brings answer k key r

variable {n : Nat} {p : Logged ρ} {now : Instant} {k : Kind} {key : String} {r : k.Record}

omit [Platform ρ] in
/-- Nothing is told later than the last answer. -/
theorem not_toldSince_length : ¬p.ToldSince p.exchanges.length k key r := by
  rintro ⟨q, answer, hmem, -⟩
  rw [List.drop_length] at hmem
  cases hmem

theorem exchanges_ask (q : Request) : (Platform.ask q now p).2.2.exchanges =
    p.exchanges ++ [⟨q, (Platform.ask q now p).1⟩] := rfl

omit [Platform ρ] in
/-- What was told stays told while the log grows. -/
theorem ToldSince.later {p' : Logged ρ} (h : p.ToldSince n k key r) (hlog : p.exchanges <+: p'.exchanges) :
    p'.ToldSince n k key r := by
  obtain ⟨q, answer, hmem, hbrings⟩ := h
  obtain ⟨more, hmore⟩ := hlog
  refine ⟨q, answer, ?_, hbrings⟩
  rw [← hmore, List.drop_append]
  exact List.mem_append_left _ hmem

theorem ToldSince.asked (h : p.ToldSince n k key r) (q : Request) :
    (Platform.ask q now p).2.2.ToldSince n k key r :=
  h.later (List.prefix_append _ _)

/-- What an answer brings in has been told. -/
theorem toldSince_ask (hn : n ≤ p.exchanges.length) {q : Request} {answer : q.Answer}
    (hask : (Platform.ask q now p).1 = .ok answer) (hbrings : q.Brings answer k key r) :
    (Platform.ask q now p).2.2.ToldSince n k key r := by
  refine ⟨q, answer, ?_, hbrings⟩
  rw [exchanges_ask, hask, List.drop_append_of_le_length hn]
  exact List.mem_append_right _ (List.mem_singleton_self _)

end Logged

end Roster
