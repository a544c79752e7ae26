import Roster.Proofs.Config.Values

/-!
# A configuration is loaded field by field

* `Config.Field`, `Config.fields` — the fields of a configuration, each with its variable, in the order in which
  the variables are read; `Config.ext_fields` — there are no others.
* `Config.reads_of_load` — what is loaded is read from the variables, field by field.
* `Config.Stops`, `Config.stops_load` — loading stops at the first variable that cannot be read.
* `Config.LoadsExactly`, `Config.load_exactly` — **a configuration is loaded exactly when every variable can be
  read**, each field from its own variable, and else the first variable that cannot is told.
-/

set_option autoImplicit false

namespace Roster

namespace Config

/-! ## Fields -/

/-- A field of a configuration, the variable it is read from, and what this may hold
for each value of the field. -/
structure Field where
  name : String
  Value : Type
  get : Config → Value
  Reads : Option String → Value → Prop

namespace Field

/-- A field with the value that follows from what its variable says, if it says anything. -/
def of {α β : Type} (name : String) (get : Config → α) (r : Reader β) (value : Option β → α) : Field :=
  ⟨name, α, get, fun raw? v => ∃ said, r.Reads raw? said ∧ v = value said⟩

/-- The variable can be read. -/
def Accepts (f : Field) (raw? : Option String) : Prop := ∃ v, f.Reads raw? v

/-- The variable gives the field one value. -/
def Unique (f : Field) : Prop :=
  ∀ {raw? : Option String} {v v' : f.Value}, f.Reads raw? v → f.Reads raw? v' → v = v'

section Of

variable {α β : Type} {name : String} {get : Config → α} {r : Reader β} {value : Option β → α}

theorem unique_of : (Field.of name get r value).Unique := by
  rintro raw? v v' ⟨said, hsaid, rfl⟩ ⟨said', hsaid', rfl⟩
  rw [r.unique hsaid hsaid']

theorem accepts_of_iff {raw? : Option String} :
    (Field.of name get r value).Accepts raw? ↔ ∃ said, r.Reads raw? said :=
  ⟨fun ⟨_, said, hsaid, _⟩ => ⟨said, hsaid⟩, fun ⟨said, hsaid⟩ => ⟨_, said, hsaid, rfl⟩⟩

/-- Text can always be read. -/
theorem accepts_text {vars : Variables} {value : Option String → α} :
    (Field.of name get .text value).Accepts (vars name) :=
  accepts_of_iff.2 ⟨_, Variables.text?_eq_iff.1 rfl⟩

end Of

end Field

/-- The two fields of a segment on top of a preset. -/
def segmentFields (name : String) (get : Config → SegmentSettings) (preset : SegmentSettings) : List Field :=
  [.of ("CACHE_" ++ name ++ "_TTL_SECS") (fun c => (get c).ttl) .number fun secs? =>
      secs?.elim preset.ttl fun secs => if secs = 0 then none else some (.ofSeconds secs),
    .of ("CACHE_" ++ name ++ "_MAX") (fun c => (get c).capacity) .number (·.getD preset.capacity)]

/-- The fields of a configuration in the order in which their variables are read. -/
def fields : List Field :=
  [.of "MONGODB_URI" (·.databaseUri) .text id,
    .of "MONGODB_DATABASE" (·.databaseName) .text (·.getD "elysium")] ++
  segmentFields "MEMBER" (·.cache.members) .members ++
  segmentFields "GROUP" (·.cache.groups) .groups ++
  segmentFields "ROLE" (·.cache.roles) .roles ++
  segmentFields "CHANNEL" (·.cache.channels) .channels ++
  [.of "CACHE_SWEEP_SECS" (·.cache.sweepInterval) .number fun secs? => .ofSeconds (secs?.getD 300),
    .of "CACHE_PERSISTENCE" (·.cache.persistence) .boolean (·.getD false),
    .of "PERSIST_INTERVAL_SECS" (·.saveInterval) .number fun secs? =>
      .ofSeconds ((secs?.filter (0 < ·)).getD 600),
    .of "FACT_RETENTION_DAYS" (·.retention) .number fun days? =>
      .ofSeconds (min (days?.getD 30 * 86400) maxWord),
    .of "WARMUP_ON_START" (·.reloadOnStart) .boolean (·.getD true)]

theorem unique_fields : ∀ f ∈ fields, f.Unique := by
  simp only [fields, segmentFields, List.forall_mem_append, List.forall_mem_cons, List.not_mem_nil,
    false_implies, implies_true, Field.unique_of, and_self]

/-- Two configurations with the same value in every field are the same. -/
theorem ext_fields {c c' : Config} (h : ∀ f ∈ fields, f.get c = f.get c') : c = c' := by
  obtain ⟨_, _, ⟨⟨_, _⟩, ⟨_, _⟩, ⟨_, _⟩, ⟨_, _⟩, _, _⟩, _, _, _⟩ := c
  obtain ⟨_, _, ⟨⟨_, _⟩, ⟨_, _⟩, ⟨_, _⟩, ⟨_, _⟩, _, _⟩, _, _, _⟩ := c'
  simp only [fields, segmentFields, Field.of, List.forall_mem_append, List.forall_mem_cons, List.not_mem_nil,
    false_implies, implies_true, and_true] at h
  simp only [Config.mk.injEq, CacheSettings.mk.injEq, SegmentSettings.mk.injEq]
  tauto

/-- The order of the variables. -/
example :
    fields.map Field.name = ["MONGODB_URI", "MONGODB_DATABASE", "CACHE_MEMBER_TTL_SECS", "CACHE_MEMBER_MAX",
      "CACHE_GROUP_TTL_SECS", "CACHE_GROUP_MAX", "CACHE_ROLE_TTL_SECS", "CACHE_ROLE_MAX",
      "CACHE_CHANNEL_TTL_SECS", "CACHE_CHANNEL_MAX", "CACHE_SWEEP_SECS", "CACHE_PERSISTENCE",
      "PERSIST_INTERVAL_SECS", "FACT_RETENTION_DAYS", "WARMUP_ON_START"] := rfl

/-! ## What is loaded -/

section Loaded

variable {vars : Variables}

theorem ok_of_bind {ε α β : Type} {x : Except ε α} {k : α → Except ε β} {b : β} (h : x >>= k = .ok b) :
    ∃ a, x = .ok a ∧ k a = .ok b := by
  cases x with
  | error e => cases h
  | ok a => exact ⟨a, rfl, h⟩

theorem ttlOf_eq (preset : Option Duration) (secs? : Option Nat) : ttlOf preset secs? =
    secs?.elim preset fun secs => if secs = 0 then none else some (.ofSeconds secs) := by
  rcases secs? with _ | _ | secs <;> rfl

theorem saveIntervalOf_eq (secs? : Option Nat) :
    saveIntervalOf secs? = .ofSeconds ((secs?.filter (0 < ·)).getD 600) := by
  rcases secs? with _ | _ | secs <;> rfl

theorem sweepInterval_eq (secs? : Option Nat) : (secs?.map Duration.ofSeconds).getD
    CacheSettings.standardSweepInterval = .ofSeconds (secs?.getD 300) := by
  cases secs? <;> rfl

/-- The fields of a segment that was read. -/
theorem reads_of_segment {name : String} {preset settings : SegmentSettings} (get : Config → SegmentSettings)
    (h : segment vars name preset = .ok settings) {c : Config} (hc : get c = settings) :
    ∀ f ∈ segmentFields name get preset, f.Reads (vars f.name) (f.get c) := by
  obtain ⟨secs?, hsecs, h⟩ := ok_of_bind h
  obtain ⟨capacity?, hcapacity, h⟩ := ok_of_bind h
  cases h
  have httl : (get c).ttl = ttlOf preset.ttl secs? := by rw [hc]
  have hcap : (get c).capacity = capacity?.getD preset.capacity := by rw [hc]
  simp only [segmentFields, List.forall_mem_cons, List.not_mem_nil, false_implies, implies_true, and_true]
  exact ⟨⟨secs?, Variables.number?_eq_ok_iff.1 hsecs, httl.trans (ttlOf_eq preset.ttl secs?)⟩,
    ⟨capacity?, Variables.number?_eq_ok_iff.1 hcapacity, hcap⟩⟩

/-- **What is loaded is read from the variables**, field by field. -/
theorem reads_of_load {c : Config} (h : load vars = .ok c) : ∀ f ∈ fields, f.Reads (vars f.name) (f.get c) := by
  obtain ⟨members, hmembers, h⟩ := ok_of_bind h
  obtain ⟨groups, hgroups, h⟩ := ok_of_bind h
  obtain ⟨roles, hroles, h⟩ := ok_of_bind h
  obtain ⟨channels, hchannels, h⟩ := ok_of_bind h
  obtain ⟨sweep, hsweep, h⟩ := ok_of_bind h
  obtain ⟨persistence, hpersistence, h⟩ := ok_of_bind h
  obtain ⟨saveSecs, hsave, h⟩ := ok_of_bind h
  obtain ⟨days, hdays, h⟩ := ok_of_bind h
  obtain ⟨reload, hreload, h⟩ := ok_of_bind h
  cases h
  simp only [fields, List.forall_mem_append]
  refine ⟨⟨⟨⟨⟨?_, reads_of_segment _ hmembers rfl⟩, reads_of_segment _ hgroups rfl⟩,
    reads_of_segment _ hroles rfl⟩, reads_of_segment _ hchannels rfl⟩, ?_⟩
  · simp only [List.forall_mem_cons, List.not_mem_nil, false_implies, implies_true, and_true]
    exact ⟨⟨_, Variables.text?_eq_iff.1 rfl, rfl⟩, ⟨_, Variables.text?_eq_iff.1 rfl, rfl⟩⟩
  · simp only [List.forall_mem_cons, List.not_mem_nil, false_implies, implies_true, and_true]
    exact ⟨⟨sweep, Variables.number?_eq_ok_iff.1 hsweep, sweepInterval_eq sweep⟩,
      ⟨persistence, Variables.boolean?_eq_ok_iff.1 hpersistence, rfl⟩,
      ⟨saveSecs, Variables.number?_eq_ok_iff.1 hsave, saveIntervalOf_eq saveSecs⟩,
      ⟨days, Variables.number?_eq_ok_iff.1 hdays, rfl⟩, ⟨reload, Variables.boolean?_eq_ok_iff.1 hreload, rfl⟩⟩

end Loaded

/-! ## Where loading stops -/

/-- A fault tells a variable, and its message begins with that. -/
structure Tells (fault : SettingFault) (name : String) : Prop where
  variableName : fault.variableName = name
  message : ∃ text, fault.message = name ++ "=" ++ text

theorem tells_variableName (fault : SettingFault) : Tells fault fault.variableName := by
  cases fault with
  | number name text cause =>
    refine ⟨rfl, Text.quoted text ++ (": " ++ cause.message), ?_⟩
    show name ++ "=" ++ Text.quoted text ++ ": " ++ cause.message = _
    simp only [SettingFault.variableName, String.append_assoc]
  | boolean name text =>
    refine ⟨rfl, Text.quoted text ++ " is not a boolean", ?_⟩
    show name ++ "=" ++ Text.quoted text ++ " is not a boolean" = _
    simp only [SettingFault.variableName, String.append_assoc]

/-- What comes of the variables of some fields: all of them can be read, or the first that cannot is told. -/
def Stops {α : Type} (vars : Variables) (fs : List Field) : Except SettingFault α → Prop
  | .ok _ => ∀ f ∈ fs, f.Accepts (vars f.name)
  | .error fault => ∃ before f after, fs = before ++ f :: after ∧ (∀ g ∈ before, g.Accepts (vars g.name)) ∧
      ¬ f.Accepts (vars f.name) ∧ Tells fault f.name

section Stops

variable {vars : Variables} {fs gs : List Field} {α β : Type}

/-- Fields that can be read in front. -/
theorem Stops.append {x : Except SettingFault α} (hf : ∀ f ∈ fs, f.Accepts (vars f.name))
    (hx : Stops vars gs x) :
    Stops vars (fs ++ gs) x := by
  cases x with
  | ok a => exact List.forall_mem_append.2 ⟨hf, hx⟩
  | error fault =>
    obtain ⟨before, f, after, rfl, hbefore, hfault⟩ := hx
    exact ⟨fs ++ before, f, after, (List.append_assoc ..).symm, List.forall_mem_append.2 ⟨hf, hbefore⟩, hfault⟩

/-- The fields of one step, and those of the steps behind it. -/
theorem Stops.bind {x : Except SettingFault α} {k : α → Except SettingFault β} (hx : Stops vars fs x)
    (hk : ∀ a, Stops vars gs (k a)) : Stops vars (fs ++ gs) (x >>= k) := by
  cases x with
  | ok a => exact .append hx (hk a)
  | error fault =>
    obtain ⟨before, f, after, rfl, hfault⟩ := hx
    exact ⟨before, f, after ++ gs, List.append_assoc .., hfault⟩

/-- The field of a variable that is read. -/
theorem Stops.read {name : String} {get : Config → α} {r : Reader β} {value : Option β → α} :
    Stops vars [.of name get r value] (r.read vars name) := by
  cases hread : r.read vars name with
  | ok said => exact List.forall_mem_singleton.2 (Field.accepts_of_iff.2 ⟨said, r.read_eq_ok_iff.1 hread⟩)
  | error fault =>
    refine ⟨[], .of name get r value, [], rfl, nofun, ?_, r.variableName hread ▸ tells_variableName fault⟩
    intro haccepts
    obtain ⟨said, hsaid⟩ := Field.accepts_of_iff.1 haccepts
    cases hread.symm.trans (r.read_eq_ok_iff.2 hsaid)

theorem stops_segment (name : String) (get : Config → SegmentSettings) (preset : SegmentSettings) :
    Stops vars (segmentFields name get preset) (segment vars name preset) :=
  .bind .read fun _ => .bind .read fun _ => nofun

/-- **Loading stops at the first variable that cannot be read.** -/
theorem stops_load : Stops vars fields (load vars) := by
  simp only [fields, List.append_assoc]
  refine .append ?_ <| .bind (stops_segment ..) fun members => .bind (stops_segment ..) fun groups =>
    .bind (stops_segment ..) fun roles => .bind (stops_segment ..) fun channels => ?_
  · simp only [List.forall_mem_cons, List.not_mem_nil, false_implies, implies_true, and_true]
    exact ⟨Field.accepts_text, Field.accepts_text⟩
  · exact .bind .read fun sweep => .bind .read fun persistence => .bind .read fun saveSecs =>
      .bind .read fun days =>
      .bind .read fun reload => nofun

end Stops

/-! ## Loading as a whole -/

/-- What comes of a source of variables. -/
structure LoadsExactly (vars : Variables) : Prop where
  /-- A configuration is loaded exactly when each of its fields is what its own variable says. -/
  values : ∀ c, load vars = .ok c ↔ ∀ f ∈ fields, f.Reads (vars f.name) (f.get c)
  /-- One is loaded exactly when every variable can be read. -/
  accepted : (∃ c, load vars = .ok c) ↔ ∀ f ∈ fields, f.Accepts (vars f.name)
  /-- Another source with the same variable gives the field of that variable the same value. -/
  apart : ∀ vars' c c', load vars = .ok c → load vars' = .ok c' → ∀ f ∈ fields, vars f.name = vars' f.name →
    f.get c = f.get c'
  /-- Else the first variable that cannot be read is told. -/
  first : ∀ fault, load vars = .error fault → ∃ before f after, fields = before ++ f :: after ∧
    (∀ g ∈ before, g.Accepts (vars g.name)) ∧ ¬ f.Accepts (vars f.name) ∧ Tells fault f.name

/-- **A configuration is loaded exactly when every variable can be read**, each field from its own variable;
else the first variable that cannot is told. -/
theorem load_exactly (vars : Variables) : LoadsExactly vars := by
  have hstops : Stops vars fields (load vars) := stops_load
  have haccepts : (∃ c, load vars = .ok c) ↔ ∀ f ∈ fields, f.Accepts (vars f.name) := by
    cases hload : load vars with
    | ok c =>
      rw [hload] at hstops
      exact ⟨fun _ => hstops, fun _ => ⟨c, rfl⟩⟩
    | error fault =>
      rw [hload] at hstops
      obtain ⟨before, f, after, hfields, -, hrefuses, -⟩ := hstops
      have hf : f ∈ fields := hfields ▸ List.mem_append_right before List.mem_cons_self
      exact ⟨nofun, fun h => absurd (h f hf) hrefuses⟩
  refine ⟨fun c => ⟨reads_of_load, fun hreads => ?_⟩, haccepts, ?_, ?_⟩
  · -- the variables can be read, and what is loaded from them agrees with the configuration in every field
    obtain ⟨c', hload⟩ := haccepts.2 fun f hf => ⟨_, hreads f hf⟩
    rw [hload, ext_fields fun f hf => unique_fields f hf (reads_of_load hload f hf) (hreads f hf)]
  · intro vars' c c' hload hload' f hf hsame
    exact unique_fields f hf (reads_of_load hload f hf) (hsame ▸ reads_of_load hload' f hf)
  · intro fault hload
    rw [hload] at hstops
    exact hstops

/-- A time to live of zero, with white space, a sign and more digits than it needs. -/
def sampleZero : Variables := fun name => if name = "CACHE_MEMBER_TTL_SECS" then some " +00 " else none

/-- Zero switches the expiry of members off. -/
theorem load_exactly_sample : ∃ c, load sampleZero = .ok c ∧ c.cache.members.ttl = none := by
  have hloads : (load sampleZero).toOption.isSome = true := by decide +kernel
  cases hload : load sampleZero with
  | error fault =>
    rw [hload] at hloads
    cases hloads
  | ok c =>
    have hreads := ((load_exactly sampleZero).values c).1 hload
    simp only [fields, segmentFields, List.forall_mem_append, List.forall_mem_cons] at hreads
    obtain ⟨⟨⟨⟨⟨-, ⟨said, hsaid, hvalue⟩, -⟩, -⟩, -⟩, -⟩, -⟩ := hreads
    have htrims : Text.Trims " +00 " "+00" := Text.trim_eq_iff.1 (by decide)
    have hdigits : Denotes ['0', '0'] 0 := ⟨List.cons_ne_nil _ _, by simp, rfl⟩
    have hzero : ReadsNumber (some " +00 ") (some 0) :=
      .numeral htrims (numeral_plus_iff.2 hdigits) (Nat.zero_le _)
    refine ⟨c, rfl, hvalue.trans ?_⟩
    rw [Reader.number.unique hsaid hzero]
    rfl

end Config

end Roster
