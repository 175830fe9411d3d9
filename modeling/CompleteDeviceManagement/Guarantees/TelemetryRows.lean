import CompleteDeviceManagement.Guarantees.DeviceCalls
import CompleteDeviceManagement.Source.Telemetry

/-!
# What a telemetry event leaves in the database

One record for each member of the payload, under the event's own device and
tenant, unless the payload has an integer that no double comes near: `float`
raises for it, and nothing of the payload is stored.
-/

set_option autoImplicit false

namespace CompleteDeviceManagement.Guarantees.TelemetryRows
open CompleteDeviceManagement.Library CompleteDeviceManagement.Source.DeviceRuntime
  CompleteDeviceManagement.Source.DeviceRouters CompleteDeviceManagement.Source.Telemetry
  CompleteDeviceManagement.Guarantees.DeviceCalls
open CompleteDeviceManagement.Library.Fallible

/-! ## What is promised -/

/-- A number that is a finite double is stored as it is, and what is no number
as null. What `json.loads` reads as a float is a double already. -/
def Carries : Json → Option PyFloat → Prop
  | .int n, value => Rounding.Exact 53 1024 n → value = some (.whole n)
  | .float text, value => value = some (.read text)
  | .bool _, _ => True
  | .null, value => value = none
  | .str _, value => value = none
  | .arr _, value => value = none
  | .obj _, value => value = none

structure RecordOf (tenantId deviceId : String) (member : String × Json) (record : MetricRecord) :
    Prop where
  metric : record.metricName = member.1
  tenant : record.tenantId = tenantId
  device : record.deviceId = deviceId
  value : Carries member.2 record.value

abbrev TelemetryRun := Proc.Run DbWorld DbRequest DbAnswer TelemetryReply

def telemetryRun (env : TelemetryEnv) (event : TelemetryEvent) (answers : Nat → DbAnswer)
    (w : DbWorld) : TelemetryRun :=
  (serveTelemetry env event).solo answers 0 w

/-- The batches that were sent to the database. -/
def batches (trace : List (DbRequest × DbAnswer)) : List (List MetricRecord) :=
  trace.filterMap fun exchange =>
    match exchange.1 with
    | .executemany _ _ records => some records
    | _ => none

/-- The request succeeds and one batch is inserted, with one record for each
member. -/
structure Written (tenantId deviceId : String) (fields : List (String × Json))
    (run : TelemetryRun) : Prop where
  answered : run.value = some (.telemetry
    { status := "written", deviceId := some deviceId, tenantId := some tenantId,
      pointsWritten := fields.length })
  inserted : ∃ records, batches run.trace = [records] ∧
    List.Forall₂ (RecordOf tenantId deviceId) fields records

/-- Every integer of the payload rounds to a finite double. -/
def Bounded (fields : List (String × Json)) : Prop :=
  ∀ key n, (key, .int n) ∈ fields → n.natAbs < Rounding.doubleLimit

/-! ## The rows -/

theorem rowValue_carries {val : Json} {value : Option PyFloat} (h : rowValue val = .ok value) :
    Carries val value := by
  cases val with
  | int n =>
    intro exact
    rw [rowValue, Rounding.toDouble_of_exact exact] at h
    cases h
    rfl
  | bool b => trivial
  | float text => cases h; rfl
  | null => cases h; rfl
  | str s => cases h; rfl
  | arr items => cases h; rfl
  | obj members => cases h; rfl

/-- Only an integer can fail to convert. -/
theorem rowValue_ok_iff (val : Json) :
    (∃ value, rowValue val = .ok value) ↔ ∀ n, val = .int n → n.natAbs < Rounding.doubleLimit := by
  cases val with
  | int n =>
    have hiff := Rounding.toDouble_isSome_iff n
    rw [rowValue]
    constructor
    · intro converted m hm
      cases hm
      apply hiff.mp
      obtain ⟨value, h⟩ := converted
      cases hdouble : Rounding.toDouble n with
      | some m => rfl
      | none => rw [hdouble] at h; cases h
    · intro bounded
      obtain ⟨m, hdouble⟩ := Option.isSome_iff_exists.mp (hiff.mpr (bounded n rfl))
      rw [hdouble]
      exact ⟨_, rfl⟩
  | bool b => exact ⟨fun _ _ h => (by cases h), fun _ => ⟨_, rfl⟩⟩
  | float text => exact ⟨fun _ _ h => (by cases h), fun _ => ⟨_, rfl⟩⟩
  | null => exact ⟨fun _ _ h => (by cases h), fun _ => ⟨_, rfl⟩⟩
  | str s => exact ⟨fun _ _ h => (by cases h), fun _ => ⟨_, rfl⟩⟩
  | arr items => exact ⟨fun _ _ h => (by cases h), fun _ => ⟨_, rfl⟩⟩
  | obj members => exact ⟨fun _ _ h => (by cases h), fun _ => ⟨_, rfl⟩⟩

/-- The rows of a payload are those of its members, or there are none. -/
theorem metricRows_cons (tenantId deviceId key : String) (val : Json)
    (rest : List (String × Json)) (rows : List MetricRow) :
    metricRows tenantId deviceId ((key, val) :: rest) = .ok rows ↔
      ∃ value others, rowValue val = .ok value ∧ metricRows tenantId deviceId rest = .ok others ∧
        rows = ⟨tenantId, deviceId, key, value, [("raw_type", val.typeName)]⟩ :: others := by
  rw [metricRows]
  cases hvalue : rowValue val with
  | error error =>
    constructor
    · intro h; cases h
    · rintro ⟨value, others, h, _⟩; cases h
  | ok value =>
    cases hrest : metricRows tenantId deviceId rest with
    | error error =>
      constructor
      · intro h; cases h
      · rintro ⟨value, others, _, h, _⟩; cases h
    | ok others =>
      constructor
      · intro h
        cases h
        exact ⟨value, others, rfl, rfl, rfl⟩
      · rintro ⟨_, _, hv, ho, rfl⟩
        cases hv
        cases ho
        rfl

theorem metricRows_ok_iff (tenantId deviceId : String) (fields : List (String × Json)) :
    (∃ rows, metricRows tenantId deviceId fields = .ok rows) ↔ Bounded fields := by
  induction fields with
  | nil => exact ⟨fun _ key n h => (by cases h), fun _ => ⟨[], rfl⟩⟩
  | cons member rest ih =>
    obtain ⟨key, val⟩ := member
    constructor
    · intro made
      obtain ⟨rows, h⟩ := made
      obtain ⟨value, others, hvalue, hothers, _⟩ := (metricRows_cons _ _ _ _ _ _).mp h
      intro key' n hmem
      rcases List.mem_cons.mp hmem with heq | hmem
      · cases heq
        exact (rowValue_ok_iff _).mp ⟨value, hvalue⟩ n rfl
      · exact ih.mp ⟨others, hothers⟩ key' n hmem
    · intro bounded
      have first : ∀ n, val = .int n → n.natAbs < Rounding.doubleLimit := by
        intro n hn
        exact bounded key n (by simp [hn])
      have others : Bounded rest := fun key' n hmem => bounded key' n (List.mem_cons_of_mem _ hmem)
      obtain ⟨value, hvalue⟩ := (rowValue_ok_iff val).mpr first
      obtain ⟨rows, hrows⟩ := ih.mpr others
      exact ⟨_, (metricRows_cons _ _ _ _ _ _).mpr ⟨value, rows, hvalue, hrows, rfl⟩⟩

/-- One record for each member, whatever the time. -/
theorem records_of_rows {tenantId deviceId : String} {fields : List (String × Json)}
    {rows : List MetricRow} (h : metricRows tenantId deviceId fields = .ok rows)
    (time : Datetime) :
    List.Forall₂ (RecordOf tenantId deviceId) fields
      (rows.map (TimescaleDBClient.record time)) := by
  induction fields generalizing rows with
  | nil =>
    cases h
    exact .nil
  | cons member rest ih =>
    obtain ⟨key, val⟩ := member
    obtain ⟨value, others, hvalue, hothers, rfl⟩ := (metricRows_cons _ _ _ _ _ _).mp h
    rw [List.map_cons]
    apply List.Forall₂.cons _ (ih hothers)
    constructor
    · rfl
    · rfl
    · rfl
    · exact rowValue_carries hvalue

/-! ## The request -/

theorem getTimescaledbClient_dsn_ne (settings : TsdbSettings) :
    (getTimescaledbClient settings).dsn ≠ "" := by
  unfold getTimescaledbClient
  simp only [ne_eq, String.append_eq_empty_iff, String.reduceEq, false_and, not_false_eq_true]

/-- There is something to write, and the client has a data source. -/
theorem writeMetrics_some (env : TelemetryEnv) {rows : List MetricRow}
    (some : rows.isEmpty = false) :
    (getTimescaledbClient env.settings).writeMetrics env rows = (do
      let time ← now env
      match ← attempt TelemetryRaised.isPostgresError
        ((getTimescaledbClient env.settings).insert (rows.map (TimescaleDBClient.record time))) with
      | .ok self => pure self
      | .error error =>
          fail (.timescaleDbError ("TimescaleDB write failed: " ++ error.text))) := by
  unfold TimescaleDBClient.writeMetrics
  exact (if_neg (Bool.eq_false_iff.mp some)).trans
    ((if_neg (getTimescaledbClient_dsn_ne env.settings)).trans rfl)

section Handler

variable {env : TelemetryEnv} {event : TelemetryEvent} {deviceId : String}

/-- A payload with a member that does not convert is answered 500. -/
theorem serveTelemetry_overflow (named : eventDevice env event = some deviceId)
    {error : TelemetryRaised}
    (h : metricRows (eventTenant env event) deviceId event.data.fields = .error error) :
    serveTelemetry env event = .ret (telemetryAnswer (.error error)) := by
  unfold serveTelemetry thingsboardTelemetry
  rw [named]
  dsimp only
  rw [h]
  rfl

theorem thingsboardTelemetry_rows (named : eventDevice env event = some deviceId)
    {rows : List MetricRow}
    (h : metricRows (eventTenant env event) deviceId event.data.fields = .ok rows)
    (some : rows.isEmpty = false) (tsdb : TimescaleDBClient) :
    thingsboardTelemetry env event tsdb = (do
      match ← attempt TelemetryRaised.isTimescaleDbError (tsdb.writeMetrics env rows) with
      | .ok _ =>
          pure { status := "written", deviceId := deviceId, tenantId := eventTenant env event,
                 pointsWritten := rows.length }
      | .error error =>
          fail (.httpException 503 ("TimescaleDB write failed: " ++ error.text))) := by
  unfold thingsboardTelemetry
  rw [named]
  dsimp only
  rw [h]
  exact (if_neg (Bool.eq_false_iff.mp some)).trans rfl

/-- Against a database that accepts everything. -/
theorem telemetryRun_accepted (named : eventDevice env event = some deviceId)
    {rows : List MetricRow}
    (h : metricRows (eventTenant env event) deviceId event.data.fields = .ok rows)
    (some : rows.isEmpty = false) (w : DbWorld) :
    (telemetryRun env event (fun _ => .done) w).value = .some (.telemetry
        { status := "written", deviceId := deviceId, tenantId := eventTenant env event,
          pointsWritten := rows.length }) ∧
      batches (telemetryRun env event (fun _ => .done) w).trace =
        [rows.map (TimescaleDBClient.record (env.device.env.clock w.ticks))] := by
  unfold telemetryRun serveTelemetry
  rw [thingsboardTelemetry_rows named h some, writeMetrics_some env some]
  exact ⟨rfl, rfl⟩

theorem isEmpty_of_rows {tenantId : String} {fields : List (String × Json)} {rows : List MetricRow}
    (h : metricRows tenantId deviceId fields = .ok rows) (some : fields ≠ []) :
    rows.isEmpty = false := by
  cases fields with
  | nil => exact absurd rfl some
  | cons member rest =>
    obtain ⟨key, val⟩ := member
    obtain ⟨value, others, _, _, rfl⟩ := (metricRows_cons _ _ _ _ _ _).mp h
    rfl

/-- A request with a device and a payload is written, one record for each
member, exactly if every integer of the payload rounds to a finite double. -/
theorem telemetry_written_iff (env : TelemetryEnv) (event : TelemetryEvent) (deviceId : String)
    (fields : List (String × Json)) (w : DbWorld) (named : eventDevice env event = some deviceId)
    (object : event.data = .object fields) (some : fields ≠ []) :
    Written (eventTenant env event) deviceId fields (telemetryRun env event (fun _ => .done) w) ↔
      Bounded fields := by
  have hfields : event.data.fields = fields := by rw [object]; rfl
  rw [← metricRows_ok_iff (eventTenant env event) deviceId]
  constructor
  · intro written
    cases hrows : metricRows (eventTenant env event) deviceId fields with
    | ok rows => exact ⟨rows, rfl⟩
    | error error =>
      have hvalue := written.answered
      unfold telemetryRun at hvalue
      rw [serveTelemetry_overflow named (by rw [hfields]; exact hrows)] at hvalue
      cases error <;> cases hvalue
  · intro made
    obtain ⟨rows, hrows⟩ := made
    have records := records_of_rows hrows (env.device.env.clock w.ticks)
    have hlength : fields.length = rows.length := by simpa using records.length_eq
    obtain ⟨hvalue, htrace⟩ := telemetryRun_accepted named (by rw [hfields]; exact hrows)
      (isEmpty_of_rows hrows some) w
    constructor
    · rw [hlength]
      exact hvalue
    · exact ⟨_, htrace, records⟩

end Handler

def telemetryEnv : TelemetryEnv := ⟨tenantEnv, {}⟩

def reading (fields : List (String × Json)) : TelemetryEvent where
  metadata := [("deviceId", .str "dev-1"), ("tenantId", .str "acme")]
  data := .object fields

theorem mixed_reading_written :
    Written "acme" "dev-1" [("cpu_percent", .int 42), ("ota_status", .str "idle"),
        ("nested", .arr [.null])]
      (telemetryRun telemetryEnv (reading [("cpu_percent", .int 42), ("ota_status", .str "idle"),
        ("nested", .arr [.null])]) (fun _ => .done) ⟨0, []⟩) := by
  apply (telemetry_written_iff telemetryEnv (reading _) "dev-1" _ ⟨0, []⟩ (by decide +kernel) rfl
    (by simp)).mpr
  intro key n hmem
  have hn : key = "cpu_percent" ∧ n = 42 := by simpa using hmem
  rw [hn.2]
  decide +kernel

/-- 2 ^ 1024 is more than any double. -/
theorem huge_reading_lost :
    ¬ Written "acme" "dev-1" [("counter", .int (2 ^ 1024)), ("cpu_percent", .int 42)]
      (telemetryRun telemetryEnv (reading [("counter", .int (2 ^ 1024)), ("cpu_percent", .int 42)])
        (fun _ => .done) ⟨0, []⟩) := by
  intro written
  obtain ⟨records, hbatches, _⟩ := written.inserted
  have hrows : metricRows "acme" "dev-1" [("counter", .int (2 ^ 1024)), ("cpu_percent", .int 42)] =
      .error (.overflowError "int too large to convert to float") := by
    rw [metricRows, rowValue]
    have hnone : Rounding.toDouble (2 ^ 1024) = none := by decide +kernel
    rw [hnone]
    rfl
  have hnamed : eventDevice telemetryEnv (reading [("counter", .int (2 ^ 1024)),
      ("cpu_percent", .int 42)]) = some "dev-1" := by decide +kernel
  unfold telemetryRun at hbatches
  rw [serveTelemetry_overflow hnamed hrows] at hbatches
  cases hbatches

end CompleteDeviceManagement.Guarantees.TelemetryRows
