import CompleteDeviceManagement.Library.JsonText
import CompleteDeviceManagement.Library.Rounding
import CompleteDeviceManagement.Source.DeviceRouters

/-!
# Telemetry: the webhook and the TimescaleDB client

Source: glue-services/iot-bridge-api/app/clients/timescaledb.py,
`thingsboard_telemetry` in app/routers/webhooks.py and
`get_timescaledb_client` in app/deps.py. A pool is known by its place among
those the process has created; the client object is passed along.
-/

set_option autoImplicit false

namespace CompleteDeviceManagement.Source.Telemetry
open CompleteDeviceManagement.Library CompleteDeviceManagement.Source.DeviceRuntime
  CompleteDeviceManagement.Source.DeviceRouters
open CompleteDeviceManagement.Library.Fallible

/-! ## Settings and models.py -/

/-- The members of `Settings` (app/config.py) that only the telemetry side reads. -/
structure TsdbSettings where
  tsdbHost : String := "timescaledb"
  tsdbPort : Nat := 5432
  tsdbDatabase : String := "cdm"
  tsdbTelegrafPassword : String := ""

structure TelemetryEnv where
  device : DeviceEnv
  settings : TsdbSettings

/-- `dict[str, Any] | str`, the object with each name once. -/
inductive EventData where
  | object (fields : List (String × Json))
  | text (s : String)

structure TelemetryEvent extends ThingsboardWebhookEvent where
  data : EventData

structure TelemetryWebhookResponse where
  status : String
  deviceId : Option String := none
  tenantId : Option String := none
  pointsWritten : Nat := 0
  reason : Option String := none
  deriving DecidableEq

/-! ## What is written -/

/-- A float: one made from an integer or a truth value, or one that
`json.loads` read, kept by its `repr`. -/
inductive PyFloat where
  | whole (n : Int)
  | read (text : String)
  deriving DecidableEq

structure MetricRow where
  tenantId : String
  deviceId : String
  metricName : String
  value : Option PyFloat
  tags : List (String × String)

/-- A row of `device_telemetry`. -/
structure MetricRecord where
  time : Datetime
  tenantId : String
  deviceId : String
  metricName : String
  value : Option PyFloat
  tags : String

/-! ## asyncpg -/

inductive DbError where
  | postgresError (text : String)
  | interfaceError (text : String)
  | osError (text : String)
  /-- the command timeout -/
  | timeoutError (text : String)

inductive DbRequest where
  | createPool (dsn : String) (minSize maxSize commandTimeout : Nat)
  | acquire (pool : Nat)
  | executemany (pool : Nat) (sql : String) (records : List MetricRecord)
  | release (pool : Nat)
  | closePool (pool : Nat)

inductive DbAnswer where
  | done
  | raised (error : DbError)

structure Pool where
  dsn : String
  minSize : Nat
  maxSize : Nat
  commandTimeout : Nat
  isOpen : Bool

/-- How often the clock was read, and the pools in the order they were created. -/
structure DbWorld where
  ticks : Nat
  pools : List Pool

/-! ## Exceptions -/

inductive TelemetryRaised where
  | timescaleDbError (message : String)
  | httpException (status : Nat) (detail : String)
  | database (error : DbError)
  | overflowError (text : String)

/-- `str(exc)` -/
def TelemetryRaised.text : TelemetryRaised → String
  | .timescaleDbError message => message
  | .httpException status detail => toString status ++ ": " ++ detail
  | .database (.postgresError text) => text
  | .database (.interfaceError text) => text
  | .database (.osError text) => text
  | .database (.timeoutError text) => text
  | .overflowError text => text

/-- `asyncpg.PostgresError` -/
def TelemetryRaised.isPostgresError : TelemetryRaised → Bool
  | .database (.postgresError _) => true
  | _ => false

def TelemetryRaised.isTimescaleDbError : TelemetryRaised → Bool
  | .timescaleDbError _ => true
  | _ => false

abbrev TelemetryApp := Fallible DbWorld DbRequest DbAnswer TelemetryRaised

section Primitives

variable {α : Type} (env : TelemetryEnv)

def dbCall (request : DbRequest) : TelemetryApp Unit := do
  match ← perform (Proc.call request) with
  | .done => pure ()
  | .raised error => fail (.database error)

/-- `asyncpg.create_pool` -/
def createPool (dsn : String) (minSize maxSize commandTimeout : Nat) : TelemetryApp Nat := do
  dbCall (.createPool dsn minSize maxSize commandTimeout)
  let w ← perform Proc.get
  perform (Proc.modify fun w =>
    { w with pools := w.pools ++ [⟨dsn, minSize, maxSize, commandTimeout, true⟩] })
  pure w.pools.length

/-- `async with pool.acquire()`: the connection is released however the body
ends, and an exception of the release takes the place of the body's. -/
def withConnection (pool : Nat) (body : TelemetryApp α) : TelemetryApp α := do
  dbCall (.acquire pool)
  let result ← attempt (fun _ => true) body
  dbCall (.release pool)
  settled result

/-- `datetime.now(UTC)` -/
def now : TelemetryApp Datetime := do
  let w ← perform Proc.get
  perform (Proc.modify fun w => { w with ticks := w.ticks + 1 })
  pure (env.device.env.clock w.ticks)

end Primitives

/-! ## timescaledb.py -/

def insertSql : String :=
  "\nINSERT INTO device_telemetry (time, tenant_id, device_id, metric_name, value, tags)\n" ++
    "VALUES ($1, $2, $3, $4, $5, $6)\n"

/-- `json.dumps` of an object of texts. -/
def dumpsTags (tags : List (String × String)) : String :=
  .ofList ('\x7b' :: List.intercalate [',', ' '] (tags.map fun tag =>
    JsonText.Style.ascii.quoted tag.1 ++ [':', ' '] ++ JsonText.Style.ascii.quoted tag.2) ++
      ['\x7d'])

structure TimescaleDBClient where
  dsn : String
  pool : Option Nat

namespace TimescaleDBClient

variable (env : TelemetryEnv) (self : TimescaleDBClient)

def getPool : TelemetryApp (Nat × TimescaleDBClient) :=
  match self.pool with
  | some pool => pure (pool, self)
  | none => do
      match ← attempt (fun _ => true) (createPool self.dsn 1 5 10) with
      | .ok pool => pure (pool, { self with pool := some pool })
      | .error error =>
          fail (.timescaleDbError ("Failed to connect to TimescaleDB: " ++ error.text))

/-- The statements in the `try` of `write_metrics`. -/
def insert (records : List MetricRecord) : TelemetryApp TimescaleDBClient := do
  let opened ← self.getPool
  withConnection opened.1 (dbCall (.executemany opened.1 insertSql records))
  pure opened.2

def record (time : Datetime) (row : MetricRow) : MetricRecord :=
  ⟨time, row.tenantId, row.deviceId, row.metricName, row.value, dumpsTags row.tags⟩

def writeMetrics (rows : List MetricRow) : TelemetryApp TimescaleDBClient :=
  if rows.isEmpty then pure self
  else if self.dsn = "" then pure self
  else do
    let now ← now env
    match ← attempt TelemetryRaised.isPostgresError (self.insert (rows.map (record now))) with
    | .ok self => pure self
    | .error error => fail (.timescaleDbError ("TimescaleDB write failed: " ++ error.text))

def close : TelemetryApp TimescaleDBClient :=
  match self.pool with
  | none => pure self
  | some pool => do
      dbCall (.closePool pool)
      perform (Proc.modify fun w =>
        { w with pools := w.pools.modify pool fun opened => { opened with isOpen := false } })
      pure { self with pool := none }

end TimescaleDBClient

/-- `get_timescaledb_client`: a new client for every request. -/
def getTimescaledbClient (settings : TsdbSettings) : TimescaleDBClient where
  dsn := "postgresql://telegraf:" ++ settings.tsdbTelegrafPassword ++ "@" ++ settings.tsdbHost ++
    ":" ++ toString settings.tsdbPort ++ "/" ++ settings.tsdbDatabase
  pool := none

/-! ## webhooks.py -/

/-- `float(val) if isinstance(val, (int, float)) else None`; a truth value is
an `int`. -/
def rowValue : Json → Except TelemetryRaised (Option PyFloat)
  | .bool b => .ok (some (.whole (if b then 1 else 0)))
  | .int n =>
      match Rounding.toDouble n with
      | some m => .ok (some (.whole m))
      | none => .error (.overflowError "int too large to convert to float")
  | .float text => .ok (some (.read text))
  | _ => .ok none

def metricRows (tenantId deviceId : String) :
    List (String × Json) → Except TelemetryRaised (List MetricRow)
  | [] => .ok []
  | (key, val) :: rest => do
      let value ← rowValue val
      let rows ← metricRows tenantId deviceId rest
      pure (⟨tenantId, deviceId, key, value, [("raw_type", val.typeName)]⟩ :: rows)

/-- `event.data if isinstance(event.data, dict) else {}` -/
def EventData.fields : EventData → List (String × Json)
  | .object fields => fields
  | .text _ => []

section Handler

variable (env : TelemetryEnv) (event : TelemetryEvent)

def eventDevice : Option String :=
  (extractDeviceId env.device event.toThingsboardWebhookEvent).filter (· ≠ "")

def eventTenant : String := (event.member "tenantId" "unknown").text env.device.env.py

def thingsboardTelemetry (tsdb : TimescaleDBClient) : TelemetryApp TelemetryWebhookResponse :=
  match eventDevice env event with
  | none => pure { status := "ignored", reason := some "No device_id found in event metadata" }
  | some deviceId => do
      let tenantId := eventTenant env event
      let rows ← settled (metricRows tenantId deviceId event.data.fields)
      if rows.isEmpty then
        pure { status := "ignored", deviceId := some deviceId, tenantId := some tenantId,
               reason := some "No fields in telemetry payload" }
      else do
        match ← attempt TelemetryRaised.isTimescaleDbError (tsdb.writeMetrics env rows) with
        | .ok _ =>
            pure { status := "written", deviceId := some deviceId, tenantId := some tenantId,
                   pointsWritten := rows.length }
        | .error error =>
            fail (.httpException 503 ("TimescaleDB write failed: " ++ error.text))

end Handler

inductive TelemetryReply where
  | telemetry (body : TelemetryWebhookResponse)
  | httpError (status : Nat) (detail : String)
  | serverError (raised : TelemetryRaised)

def telemetryAnswer : Except TelemetryRaised TelemetryWebhookResponse → TelemetryReply
  | .ok body => .telemetry body
  | .error (.httpException status detail) => .httpError status detail
  | .error raised => .serverError raised

def serveTelemetry (env : TelemetryEnv) (event : TelemetryEvent) :
    Proc DbWorld DbRequest DbAnswer TelemetryReply :=
  (thingsboardTelemetry env event (getTimescaledbClient env.settings)).run.bind fun result =>
    .ret (telemetryAnswer result)

end CompleteDeviceManagement.Source.Telemetry
