import CompleteDeviceManagement.Guarantees.DeviceFailures

/-!
# Which failures of the database are reported

`write_metrics` turns a PostgresError into its own error, and whatever
`create_pool` raises; what else asyncpg or the network raises at the statements
passes through it and through the handler. With the verdicts on the other two
endpoints this says for each of the three when nothing escapes.
-/

set_option autoImplicit false

namespace CompleteDeviceManagement.Guarantees.ReportedFailures
open CompleteDeviceManagement.Library CompleteDeviceManagement.Source.Runtime
  CompleteDeviceManagement.Source.DeviceRuntime CompleteDeviceManagement.Source.DeviceRouters
  CompleteDeviceManagement.Source.Telemetry CompleteDeviceManagement.Guarantees.DeviceCalls
  CompleteDeviceManagement.Guarantees.TelemetryRows
  CompleteDeviceManagement.Guarantees.DeviceFailures
open CompleteDeviceManagement.Library.Fallible

/-! ## The verdicts -/

/-- Whatever `create_pool` raises is reported. -/
def connectVerdict : DbAnswer → Verdict
  | .done => .usable
  | .raised _ => .reported

def statementVerdict : DbAnswer → Verdict
  | .done => .usable
  | .raised (.postgresError _) => .reported
  | .raised _ => .escapes

/-- Acquire, execute, release, counted from `n`; an error of the release takes
the place of the one before it. -/
def insertVerdict (answers : Nat → DbAnswer) (n : Nat) : Verdict :=
  (statementVerdict (answers n)).andThen <|
    (statementVerdict (answers (n + 2))).andThen (statementVerdict (answers (n + 1)))

def writeVerdict (self : TimescaleDBClient) (rows : List MetricRow) (answers : Nat → DbAnswer) :
    Verdict :=
  if rows.isEmpty then .usable
  else if self.dsn = "" then .usable
  else
    match self.pool with
    | some _ => insertVerdict answers 0
    | none => (connectVerdict (answers 0)).andThen (insertVerdict answers 1)

def telemetryVerdict (env : TelemetryEnv) (event : TelemetryEvent) (answers : Nat → DbAnswer) :
    Verdict :=
  match eventDevice env event with
  | none => .usable
  | some deviceId =>
      match metricRows (eventTenant env event) deviceId event.data.fields with
      | .error _ => .escapes
      | .ok rows => writeVerdict (getTimescaledbClient env.settings) rows answers

/-- The handler returned, or raised one of the designed errors. -/
def TelemetryReported : Option TelemetryReply → Prop
  | some (.telemetry _) => True
  | some (.httpError status _) => status = 422 ∨ status = 502 ∨ status = 503
  | some (.serverError _) => False
  | none => False

/-- `write_metrics` returned, or raised a `TimescaleDBError`. -/
def KeepsDocstring (result : Option (Except TelemetryRaised TimescaleDBClient)) : Prop :=
  Fine (fun error => error.isTimescaleDbError = true) result

/-! ## The client -/

variable {α : Type} {env : TelemetryEnv} {answers : Nat → DbAnswer} {n : Nat} {w : DbWorld}

/-- An error of the database that is no PostgresError. -/
def Stray : TelemetryRaised → Prop
  | .database (.postgresError _) => False
  | .database _ => True
  | _ => False

theorem Stray.uncaught {error : TelemetryRaised} (h : Stray error) :
    error.isPostgresError = false ∧ error.isTimescaleDbError = false := by
  cases error with
  | database raised =>
    cases raised with
    | postgresError text => exact h.elim
    | _ => exact ⟨rfl, rfl⟩
  | _ => exact h.elim

/-- Inside the `try` of `write_metrics`: a PostgresError is caught, and a
TimescaleDBError is what is promised. -/
abbrev DbTried (post : α → Nat → DbWorld → Prop) (v : Verdict) (x : TelemetryApp α) (n : Nat)
    (w : DbWorld) (answers : Nat → DbAnswer) : Prop :=
  Ends (fun error => (error.isPostgresError || error.isTimescaleDbError) = true) Stray post v
    (x.run.finish (fun i => some (answers i)) n w)

/-- The result of one statement. -/
def stated : DbAnswer → Except TelemetryRaised Unit
  | .done => .ok ()
  | .raised error => .error (.database error)

theorem finish_dbCall (answers : Nat → DbAnswer) (request : DbRequest)
    (f : Except TelemetryRaised Unit → Proc DbWorld DbRequest DbAnswer α) (n : Nat) (w : DbWorld) :
    ((dbCall request).run.bind f).finish (fun i => some (answers i)) n w =
      (f (stated (answers n))).finish (fun i => some (answers i)) (n + 1) w := by
  show Proc.finish _ (Proc.bind (match answers n with
    | .done => .ret (.ok ())
    | .raised error => .ret (.error (.database error))) f) (n + 1) w = _
  cases answers n <;> rfl

theorem stated_judged {k : Nat} :
    DbTried (fun _ n' _ => n' = k) (statementVerdict (answers n)) (settled (stated (answers n))) k w
      answers := by
  cases answers n with
  | done => exact ends_ok rfl
  | raised error =>
    cases error with
    | postgresError text => exact ends_reported rfl
    | _ => exact ends_escapes trivial

theorem dbCall_judged (request : DbRequest) :
    DbTried (fun _ n' _ => n' = n + 1) (statementVerdict (answers n)) (dbCall request) n w
      answers := by
  have hrun := finish_dbCall answers request .ret n w
  rw [Proc.bind_ret] at hrun
  unfold DbTried
  rw [hrun]
  exact stated_judged

theorem insertion_judged (pool : Nat) (sql : String) (records : List MetricRecord) :
    DbTried (fun _ _ _ => True) (insertVerdict answers n)
      (withConnection pool (dbCall (.executemany pool sql records))) n w answers := by
  unfold withConnection insertVerdict
  apply ends_bind (dbCall_judged (.acquire pool))
  intro _ n' w' h
  subst h
  rw [run_attempt_all, finish_dbCall]
  apply ends_bind (dbCall_judged (.release pool))
  intro _ n₂ w₂ _
  exact (stated_judged (k := n₂)).mono fun _ _ _ _ => trivial

theorem getPool_judged (self : TimescaleDBClient) :
    DbTried (fun _ n' _ => n' = n + if self.pool.isSome then 0 else 1)
      (if self.pool.isSome then .usable else connectVerdict (answers n)) self.getPool n w
      answers := by
  unfold TimescaleDBClient.getPool
  cases self.pool with
  | some pool => exact ends_ok rfl
  | none =>
    unfold DbTried createPool
    rw [run_attempt_all, run_bind, Proc.bind_assoc, finish_dbCall]
    cases answers n with
    | done => exact ends_ok rfl
    | raised error => exact ends_reported rfl

theorem insert_judged (self : TimescaleDBClient) (records : List MetricRecord) :
    DbTried (fun _ _ _ => True)
      (if self.pool.isSome then insertVerdict answers n
        else (connectVerdict (answers n)).andThen (insertVerdict answers (n + 1)))
      (self.insert records) n w answers := by
  have hverdict : (if self.pool.isSome then insertVerdict answers n
        else (connectVerdict (answers n)).andThen (insertVerdict answers (n + 1))) =
      (if self.pool.isSome then .usable else connectVerdict (answers n)).andThen
        (insertVerdict answers (n + if self.pool.isSome then 0 else 1)) := by
    split <;> rfl
  rw [hverdict]
  unfold TimescaleDBClient.insert
  apply ends_bind (getPool_judged self)
  intro opened n' w' h
  subst h
  rw [← Verdict.andThen_usable (insertVerdict _ _)]
  apply ends_bind (insertion_judged opened.1 insertSql records)
  intro _ n₂ w₂ _
  exact ends_ok trivial

variable (env answers w) in
/-- `write_metrics` against the promise of its docstring. -/
theorem writeMetrics_judged (self : TimescaleDBClient) (rows : List MetricRow) :
    Ends (fun error => error.isTimescaleDbError = true) Stray (fun _ _ _ => True)
      (writeVerdict self rows answers)
      ((self.writeMetrics env rows).run.finish (fun i => some (answers i)) 0 w) := by
  unfold writeVerdict TimescaleDBClient.writeMetrics
  cases rows.isEmpty with
  | true => exact ends_ok trivial
  | false =>
    simp only [Bool.false_eq_true, if_false]
    split
    · exact ends_ok trivial
    · have hverdict : (match self.pool with
          | some _ => insertVerdict answers 0
          | none => (connectVerdict (answers 0)).andThen (insertVerdict answers 1)) =
          if self.pool.isSome then insertVerdict answers 0
          else (connectVerdict (answers 0)).andThen (insertVerdict answers 1) := by
        cases self.pool <;> rfl
      rw [hverdict]
      apply ends_attempt (insert_judged self
        (rows.map (TimescaleDBClient.record (env.device.env.clock w.ticks))))
      · intro value n' w' _
        exact ends_ok trivial
      · intro error n' w' reported
        cases error with
        | timescaleDbError message => exact ends_reported rfl
        | database raised =>
          cases raised with
          | postgresError text => exact ends_reported rfl
          | _ => cases reported
        | _ => cases reported
      · exact fun error stray => ⟨stray.uncaught.1, stray⟩

/-! ## The handler -/

def DesignedTelemetry : TelemetryRaised → Prop
  | .httpException status _ => status = 422 ∨ status = 502 ∨ status = 503
  | _ => False

theorem metricRows_error {tenantId deviceId : String} {fields : List (String × Json)}
    {error : TelemetryRaised} (h : metricRows tenantId deviceId fields = .error error) :
    ∃ text, error = .overflowError text := by
  induction fields with
  | nil => cases h
  | cons member rest ih =>
    obtain ⟨key, val⟩ := member
    rw [metricRows] at h
    cases hvalue : rowValue val with
    | error raised =>
      rw [hvalue] at h
      cases h
      cases val with
      | int n =>
        rw [rowValue] at hvalue
        split at hvalue
        · cases hvalue
        · cases hvalue
          exact ⟨_, rfl⟩
      | _ => cases hvalue
    | ok value =>
      rw [hvalue] at h
      cases hrows : metricRows tenantId deviceId rest with
      | ok rows =>
        rw [hrows] at h
        cases h
      | error raised =>
        rw [hrows] at h
        cases h
        exact ih hrows

variable (env answers w) in
theorem thingsboardTelemetry_judged (event : TelemetryEvent) :
    Ends DesignedTelemetry (fun error => ¬ DesignedTelemetry error) (fun _ _ _ => True)
      (telemetryVerdict env event answers)
      ((thingsboardTelemetry env event (getTimescaledbClient env.settings)).run.finish
        (fun i => some (answers i)) 0 w) := by
  unfold telemetryVerdict thingsboardTelemetry
  cases eventDevice env event with
  | none => exact ends_ok trivial
  | some deviceId =>
    dsimp only
    cases hrows : metricRows (eventTenant env event) deviceId event.data.fields with
    | error error =>
      obtain ⟨text, rfl⟩ := metricRows_error hrows
      exact ends_escapes fun h => h
    | ok rows =>
      have hbody := writeMetrics_judged env answers w (getTimescaledbClient env.settings) rows
      show Ends _ _ _ _ ((if rows.isEmpty = true then _ else _ :
        TelemetryApp TelemetryWebhookResponse).run.finish _ 0 w)
      cases hempty : rows.isEmpty with
      | true =>
        unfold writeVerdict
        dsimp only
        rw [hempty]
        exact ends_ok trivial
      | false =>
        rw [if_neg Bool.false_ne_true]
        apply ends_attempt hbody
        · intro value n' w' _
          exact ends_ok trivial
        · intro error n' w' reported
          simp only [caught, reported, if_true, onward_ok]
          exact ends_reported (.inr (.inr rfl))
        · intro error stray
          refine ⟨stray.uncaught.2, fun designed => ?_⟩
          cases error with
          | database raised => exact designed
          | _ => exact stray

theorem serveTelemetry_reported (env : TelemetryEnv) (event : TelemetryEvent)
    (answers : Nat → DbAnswer) (w : DbWorld) :
    TelemetryReported (telemetryRun env event answers w).value ↔
      telemetryVerdict env event answers ≠ .escapes := by
  have hjudged := thingsboardTelemetry_judged env answers w event
  rw [← hjudged.fine_iff fun _ designed other => other designed]
  unfold telemetryRun serveTelemetry
  rw [← Proc.finish_answered, Proc.finish_bind]
  cases (thingsboardTelemetry env event (getTimescaledbClient env.settings)).run.finish
      (fun i => some (answers i)) 0 w with
  | none => simp [TelemetryReported]
  | some ended =>
    obtain ⟨result, n, s⟩ := ended
    cases result with
    | ok body => exact iff_of_true trivial (fine_ok body)
    | error error =>
      refine Iff.trans ?_ (fine_error error).symm
      cases error <;> exact Iff.rfl

theorem writeMetrics_keeps (env : TelemetryEnv) (self : TimescaleDBClient) (rows : List MetricRow)
    (answers : Nat → DbAnswer) (w : DbWorld) :
    KeepsDocstring ((self.writeMetrics env rows).run.solo answers 0 w).value ↔
      writeVerdict self rows answers ≠ .escapes := by
  have hjudged := writeMetrics_judged env answers w self rows
  have hfine := hjudged.fine_iff fun error timescale stray => by
    rw [stray.uncaught.2] at timescale
    cases timescale
  rw [← Proc.finish_answered]
  exact hfine

/-- In the order the calls are made, the first outcome that is not usable is one
that is reported, exactly if nothing but the designed errors escapes: for the
two device endpoints, the telemetry endpoint and `write_metrics`. -/
theorem failures_reported_iff (env : TelemetryEnv) :
    (∀ call outcomes w,
      Reported (((serveDevice env.device call).finish outcomes 0 w).map Prod.fst) ↔
        callVerdict env.device w outcomes call ≠ .escapes) ∧
    (∀ event answers w,
      TelemetryReported (telemetryRun env event answers w).value ↔
        telemetryVerdict env event answers ≠ .escapes) ∧
    (∀ self rows answers w,
      KeepsDocstring ((TimescaleDBClient.writeMetrics env self rows).run.solo answers 0 w).value ↔
        writeVerdict self rows answers ≠ .escapes) :=
  ⟨serveDevice_reported env.device, serveTelemetry_reported env, writeMetrics_keeps env⟩

/-- step-ca answers 500 to the list of provisioners, and the connection to the
database is lost at the insert. -/
theorem failures_escape :
    ¬ Reported (((serveDevice tenantEnv
        (.enroll "dev-1" ⟨"csr", "Device 1", "generic", none⟩)).finish
        (fun _ => some (.response ⟨500, "", .error "no body", none⟩)) 0
        ⟨World.empty, ⟨none, none, none⟩⟩).map Prod.fst) ∧
      ¬ TelemetryReported (telemetryRun telemetryEnv (reading [("cpu_percent", .int 42)])
        (fun n => if n = 2 then .raised (.interfaceError "connection is closed") else .done)
        ⟨0, []⟩).value := by
  constructor
  · rw [serveDevice_reported]
    decide
  · rw [serveTelemetry_reported]
    decide +kernel

end CompleteDeviceManagement.Guarantees.ReportedFailures
