import CompleteDeviceManagement.Guarantees.TelemetryRows
import CompleteDeviceManagement.Library.Credit

/-!
# How many pools the process has open

`get_timescaledb_client` builds a client for each request, the client opens a
pool of its own at its first write, and no request closes it. So the pools that
are open are as many as the requests that got as far as a connection.
-/

set_option autoImplicit false

namespace CompleteDeviceManagement.Guarantees.DatabasePools
open CompleteDeviceManagement.Library CompleteDeviceManagement.Source.Telemetry
  CompleteDeviceManagement.Guarantees.TelemetryRows
open CompleteDeviceManagement.Library.Fallible

/-! ## Requests and pools -/

/-- A telemetry request, and whether the database lets it connect. -/
structure Arrival where
  event : TelemetryEvent
  accepts : Bool

def handler (env : TelemetryEnv) (a : Arrival) : Proc DbWorld DbRequest DbAnswer TelemetryReply :=
  serveTelemetry env a.event

/-- The answer to `create_pool` is as the arrival says, all others are free. -/
def Connects (a : Arrival) : DbRequest → DbAnswer → Prop
  | .createPool _ _ _ _, answer => answer = .done ↔ a.accepts = true
  | _, _ => True

/-- The open pools, each counted with a weight. -/
def weighed (weight : Pool → Nat) (w : DbWorld) : Nat :=
  ((w.pools.filter Pool.isOpen).map weight).sum

structure AtMostOnePool (w : DbWorld) : Prop where
  pools : weighed (fun _ => 1) w ≤ 1
  connections : weighed Pool.maxSize w ≤ 5

def started : DbWorld := ⟨0, []⟩

abbrev Loop := EventLoop Arrival DbWorld DbRequest DbAnswer TelemetryReply

def Reached (env : TelemetryEnv) (c : Loop) : Prop :=
  EventLoop.Reaches (handler env) (EventLoop.AnswersFor Connects) (EventLoop.start started) c

/-- There is a device, and a payload that becomes rows. -/
def writes (env : TelemetryEnv) (event : TelemetryEvent) : Bool :=
  match eventDevice env event with
  | none => false
  | some deviceId =>
      match metricRows (eventTenant env event) deviceId event.data.fields with
      | .ok rows => !rows.isEmpty
      | .error _ => false

def opens (env : TelemetryEnv) (a : Arrival) : Bool := a.accepts && writes env a.event

theorem writes_iff (env : TelemetryEnv) (event : TelemetryEvent) :
    writes env event = true ↔ ∃ deviceId rows, eventDevice env event = some deviceId ∧
      metricRows (eventTenant env event) deviceId event.data.fields = .ok rows ∧
        rows.isEmpty = false := by
  unfold writes
  constructor
  · intro h
    split at h
    · cases h
    next deviceId named =>
      split at h
      next rows hrows => exact ⟨deviceId, rows, named, hrows, by simpa using h⟩
      · cases h
  · intro h
    obtain ⟨deviceId, rows, named, hrows, some⟩ := h
    simp [named, hrows, some]

/-! ## What a request spends -/

/-- The pool of a request. -/
def poolOf (env : TelemetryEnv) : Pool := ⟨(getTimescaledbClient env.settings).dsn, 1, 5, 10, true⟩

section Spending

variable {weight : Pool → Nat} {answers : DbRequest → DbAnswer → Prop} {α β : Type}

variable (weight answers) in
/-- No pool is opened. -/
abbrev OpensNone (x : TelemetryApp α) : Prop :=
  Proc.Quiet (fun w w' => weighed weight w' ≤ weighed weight w) (fun _ => True) answers
    (fun _ => True) x.run

theorem OpensNone.bind {x : TelemetryApp α} {f : α → TelemetryApp β}
    (hx : OpensNone weight answers x) (hf : ∀ value, OpensNone weight answers (f value)) :
    OpensNone weight answers (x >>= f) :=
  quiet_bind_of hx (fun value _ => hf value) fun _ _ => trivial

theorem opensNone_dbCall (request : DbRequest) : OpensNone weight answers (dbCall request) := by
  refine ⟨trivial, fun answer _ => ?_⟩
  cases answer with
  | done => trivial
  | raised error => trivial

theorem opensNone_withConnection (pool : Nat) {body : TelemetryApp α}
    (hbody : OpensNone weight answers body) :
    OpensNone weight answers (withConnection pool body) := by
  apply OpensNone.bind (opensNone_dbCall _)
  intro _
  apply OpensNone.bind
  · exact quiet_attempt hbody (fun _ _ => trivial) (fun _ _ _ => trivial) fun _ _ _ => trivial
  intro result
  apply OpensNone.bind (opensNone_dbCall _)
  intro _
  trivial

/-- A process that ends whatever it is answered, paying for the pools it opens. -/
abbrev Pays (weight : Pool → Nat) (a : Arrival) (x : TelemetryApp α) (credit : Nat) : Prop :=
  Proc.Spends (weighed weight) (Connects a) (fun _ _ => True) x.run credit

theorem OpensNone.pays {a : Arrival} {x : TelemetryApp α}
    (h : OpensNone weight (Connects a) x) (credit : Nat) : Pays weight a x credit :=
  (Proc.Quiet.spends h credit).mono fun _ _ _ => trivial

theorem Pays.bind {a : Arrival} {x : TelemetryApp α} {f : α → TelemetryApp β} {credit : Nat}
    (hx : Pays weight a x credit) (hf : ∀ value, OpensNone weight (Connects a) (f value)) :
    Pays weight a (x >>= f) credit :=
  spends_bind hx (fun value rest _ => (hf value).pays rest) fun _ _ _ => trivial

theorem weighed_append (w : DbWorld) (pool : Pool) :
    weighed weight { w with pools := w.pools ++ [pool] } =
      weighed weight w + if pool.isOpen then weight pool else 0 := by
  unfold weighed
  rw [List.filter_append, List.map_append, List.sum_append]
  cases hopen : pool.isOpen with
  | true => simp [hopen]
  | false => simp [hopen]

theorem createPool_pays {env : TelemetryEnv} {a : Arrival} {credit : Nat}
    (funded : a.accepts = true → weight (poolOf env) ≤ credit) :
    Pays weight a (createPool (getTimescaledbClient env.settings).dsn 1 5 10) credit := by
  intro answer given
  cases answer with
  | raised error => trivial
  | done =>
    have hcost := funded (given.mp rfl)
    refine fun w => ⟨credit, Nat.le_refl _, fun w' => ⟨credit - weight (poolOf env), ?_, trivial⟩⟩
    have hsum : weighed weight { w' with pools := w'.pools ++ [poolOf env] } =
        weighed weight w' + weight (poolOf env) := weighed_append w' (poolOf env)
    show weighed weight { w' with pools := w'.pools ++ [poolOf env] } + _ ≤ _
    omega

theorem getPool_pays {env : TelemetryEnv} {a : Arrival} {credit : Nat}
    (funded : a.accepts = true → weight (poolOf env) ≤ credit) :
    Pays weight a (getTimescaledbClient env.settings).getPool credit := by
  apply Pays.bind (x := attempt _ _)
  · exact spends_attempt (createPool_pays funded)
  · intro outcome
    cases outcome with
    | ok pool => trivial
    | error error => trivial

theorem insert_pays {env : TelemetryEnv} {a : Arrival} {credit : Nat}
    (funded : a.accepts = true → weight (poolOf env) ≤ credit) (records : List MetricRecord) :
    Pays weight a ((getTimescaledbClient env.settings).insert records) credit := by
  apply Pays.bind (getPool_pays funded)
  intro opened
  apply OpensNone.bind (opensNone_withConnection _ (opensNone_dbCall _))
  intro _
  trivial

theorem writeMetrics_pays {env : TelemetryEnv} {a : Arrival} {credit : Nat}
    (funded : a.accepts = true → weight (poolOf env) ≤ credit) {rows : List MetricRow}
    (some : rows.isEmpty = false) :
    Pays weight a ((getTimescaledbClient env.settings).writeMetrics env rows) credit := by
  have clock : OpensNone weight (Connects a) (now env) := by
    intro w
    exact ⟨Nat.le_refl _, fun w' => ⟨Nat.le_refl _, trivial⟩⟩
  rw [writeMetrics_some env some]
  refine spends_bind (Proc.Quiet.spends clock credit) ?_ fun _ _ _ => trivial
  intro time rest kept
  rw [kept.1]
  apply Pays.bind (x := attempt _ _)
  · exact spends_attempt (insert_pays funded _)
  · intro outcome
    cases outcome with
    | ok self => trivial
    | error error => trivial

variable (weight) in
/-- A request pays for a pool if it has something to write and may connect, and
needs no credit otherwise. -/
theorem serveTelemetry_spends (env : TelemetryEnv) (a : Arrival) :
    Proc.Spends (weighed weight) (Connects a) (fun _ _ => True) (handler env a)
      (if opens env a then weight (poolOf env) else 0) := by
  unfold handler
  cases named : eventDevice env a.event with
  | none =>
    unfold serveTelemetry thingsboardTelemetry
    rw [named]
    trivial
  | some deviceId =>
    cases hrows : metricRows (eventTenant env a.event) deviceId a.event.data.fields with
    | error error =>
      rw [serveTelemetry_overflow named hrows]
      trivial
    | ok rows =>
      cases hempty : rows.isEmpty with
      | true =>
        unfold serveTelemetry thingsboardTelemetry
        rw [named]
        dsimp only
        rw [hrows]
        show Proc.Spends _ _ _ (Proc.bind (ExceptT.run (if rows.isEmpty = true then _ else _)) _) _
        rw [hempty, if_pos rfl]
        trivial
      | false =>
        have hwrites : writes env a.event = true :=
          (writes_iff env a.event).mpr ⟨deviceId, rows, named, hrows, hempty⟩
        have funded : a.accepts = true → weight (poolOf env) ≤
            if opens env a then weight (poolOf env) else 0 := by
          intro accepts
          simp [opens, accepts, hwrites]
        unfold serveTelemetry
        rw [thingsboardTelemetry_rows named hrows hempty]
        apply Proc.Spends.bind
        show Pays weight a _ _
        apply Pays.bind (x := attempt _ _)
        · exact spends_attempt (writeMetrics_pays funded hempty)
        · intro outcome
          cases outcome with
          | ok self => trivial
          | error error => trivial

end Spending

/-! ## Every run -/

theorem credits_sum (env : TelemetryEnv) (cost : Nat) (requests : List Arrival) :
    (requests.map fun a => if opens env a then cost else 0).sum =
      cost * requests.countP (opens env) := by
  induction requests with
  | nil => rfl
  | cons a rest ih =>
    rw [List.map_cons, List.sum_cons, ih, List.countP_cons]
    cases opens env a with
    | true => simp only [if_true]; ring
    | false => simp

/-- At every moment of every run each open pool is owed to a request that had
something to write and was let connect. -/
theorem weighed_le {env : TelemetryEnv} {c : Loop} (h : Reached env c) (weight : Pool → Nat) :
    weighed weight c.state ≤
      weight (poolOf env) * (EventLoop.arrived c).countP (opens env) := by
  have hbound := h.solvent (serveTelemetry_spends weight env)
  rw [credits_sum] at hbound
  simpa [started, weighed] using hbound

/-- What a request that writes does before its first suspension, and when it is
given a connection. -/
theorem handler_connects {env : TelemetryEnv} {a : Arrival} (h : writes env a.event = true) :
    ∃ next : DbWorld → DbAnswer → Proc DbWorld DbRequest DbAnswer TelemetryReply,
      ∀ w, (handler env a).advance w =
        (.await (.createPool (getTimescaledbClient env.settings).dsn 1 5 10) (next w),
          { w with ticks := w.ticks + 1 }) ∧
      ∀ w', ((next w .done).advance w').2 = { w' with pools := w'.pools ++ [poolOf env] } := by
  obtain ⟨deviceId, rows, named, hrows, hempty⟩ := (writes_iff env a.event).mp h
  unfold handler serveTelemetry
  rw [thingsboardTelemetry_rows named hrows hempty, writeMetrics_some env hempty]
  exact ⟨_, fun w => ⟨rfl, fun w' => rfl⟩⟩

/-- Some run lets every request connect that may. -/
theorem reached_open (env : TelemetryEnv) (requests : List Arrival) :
    ∃ c, Reached env c ∧ EventLoop.arrived c = requests ∧
      requests.countP (opens env) ≤ weighed (fun _ => 1) c.state := by
  induction requests using List.reverseRecOn with
  | nil => exact ⟨EventLoop.start started, Relation.ReflTransGen.refl, rfl, Nat.le_refl _⟩
  | append_singleton requests a ih =>
    obtain ⟨c, reached, harrived, hcount⟩ := ih
    rw [List.countP_append, List.countP_singleton]
    cases hopens : opens env a with
    | false =>
      refine ⟨_, reached.then (.arrive a) trivial, ?_, ?_⟩
      · rw [EventLoop.arrived_arrive, harrived]
      · show _ ≤ weighed _ c.state
        simpa using hcount
    | true =>
      obtain ⟨accepts, hwrites⟩ := (Bool.and_eq_true _ _).mp hopens
      obtain ⟨next, hnext⟩ := handler_connects hwrites
      obtain ⟨first, opened⟩ := hnext c.state
      have given : Connects a (.createPool (getTimescaledbClient env.settings).dsn 1 5 10) .done :=
        iff_of_true rfl accepts
      obtain ⟨c', reached', harrived', hstate⟩ := reached.answered_once first given
      refine ⟨c', reached', by rw [harrived', harrived], ?_⟩
      rw [hstate, opened, weighed_append, if_pos rfl]
      exact Nat.add_le_add_right hcount 1

/-- In every state of every run in which these requests arrive at most one pool
is open, exactly if at most one of them has something to write and may connect. -/
theorem one_pool_iff (env : TelemetryEnv) (requests : List Arrival) :
    (∀ c, Reached env c → EventLoop.arrived c <+: requests → AtMostOnePool c.state) ↔
      requests.countP (opens env) ≤ 1 := by
  constructor
  · intro bounded
    obtain ⟨c, reached, harrived, hcount⟩ := reached_open env requests
    exact Nat.le_trans hcount (bounded c reached (harrived ▸ List.prefix_rfl)).pools
  · intro once c reached prefixed
    have hcount := Nat.le_trans (prefixed.sublist.countP_le) once
    have hpools := weighed_le reached fun _ => 1
    have hconnections := weighed_le reached Pool.maxSize
    have hsize : Pool.maxSize (poolOf env) = 5 := rfl
    constructor
    · omega
    · rw [hsize] at hconnections
      omega

/-- A request that closed its client would give the pool back. -/
theorem weighed_close (self : TimescaleDBClient) (w : DbWorld) (pool : Pool)
    (weight : Pool → Nat) (own : self.pool = some w.pools.length) :
    weighed weight (self.close.run.solo (fun _ => .done) 0
      { w with pools := w.pools ++ [pool] }).state = weighed weight w := by
  have hclosed : (w.pools ++ [pool]).modify w.pools.length
      (fun opened => { opened with isOpen := false }) =
        w.pools ++ [{ pool with isOpen := false }] := by
    simp [List.modify_eq_set_getElem?]
  unfold TimescaleDBClient.close
  rw [own]
  show weighed weight { w with pools := (w.pools ++ [pool]).modify w.pools.length _ } = _
  rw [hclosed, weighed_append]
  rfl

/-- Two requests one after the other, each with its pool. -/
theorem second_pool : ¬ ∀ c, Reached telemetryEnv c → AtMostOnePool c.state := by
  intro bounded
  let temperature : Arrival := ⟨reading [("temperature_c", .int 55)], true⟩
  obtain ⟨c, reached, _, hcount⟩ := reached_open telemetryEnv [temperature, temperature]
  have hwrites : writes telemetryEnv temperature.event = true := by decide +kernel
  have hopens : opens telemetryEnv temperature = true := by
    rw [opens, hwrites]
    rfl
  have hpools := (bounded c reached).pools
  simp only [List.countP_cons, List.countP_nil, hopens, if_true] at hcount
  omega

end CompleteDeviceManagement.Guarantees.DatabasePools
