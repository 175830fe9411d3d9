import CompleteDeviceManagement.Guarantees.EnrollBody
import CompleteDeviceManagement.Guarantees.TelemetryRows
import CompleteDeviceManagement.Library.JsonLead
import CompleteDeviceManagement.Source.PublishTelemetry

/-!
# From the telemetry script to the database

The script writes its messages with printf, the id of the device as it is. A message
is read as the reading it stands for if and only if the id needs no escape, and then
the webhook stores one record for each member.
-/

set_option autoImplicit false

namespace CompleteDeviceManagement.Guarantees.PublishTelemetry
open CompleteDeviceManagement.Library CompleteDeviceManagement.Library.JsonText
  CompleteDeviceManagement.Source.PublishTelemetry CompleteDeviceManagement.Source.Telemetry
  CompleteDeviceManagement.Guarantees.TelemetryRows
open CompleteDeviceManagement.Source.EnrollClients (orDefault)
open CompleteDeviceManagement.Guarantees.EnrollmentAgreement (JsonPlain)
open CompleteDeviceManagement.Guarantees.EnrollBody (jsonPlain_of_length)

/-! ## What a message says -/

/-- The members in front of the id. -/
def measured (seq : Int) (draws : Draws) : List (String × Json) :=
  [("sequence", .int seq), ("cpu_percent", .int (randInt 5 85 draws.cpu)),
    ("ram_percent", .int (randInt 30 90 draws.ram)),
    ("disk_percent", .int (randInt 10 70 draws.disk)),
    ("temperature_c", .int (randInt 38 72 draws.temp)),
    ("rssi_dbm", .int (randInt (-95) (-40) draws.rssi)), ("ota_status", .str "idle")]

def reading (deviceId : String) (seq : Int) (draws : Draws) : List (String × Json) :=
  measured seq draws ++ [("device_id", .str deviceId)]

theorem randInt_bounds {min max : Int} (order : min ≤ max) (val : UInt16) :
    min ≤ randInt min max val ∧ randInt min max val ≤ max := by
  have positive : 0 < max - min + 1 := by omega
  have low := Int.tmod_nonneg (a := val.toNat) (max - min + 1) (by omega)
  have high := Int.tmod_lt_of_pos (val.toNat : Int) positive
  unfold randInt
  dsimp only
  omega

theorem toList_toString (n : Int) : (toString n).toList = intText n := by
  cases n with
  | ofNat n =>
    have text : toString (Int.ofNat n) = Nat.repr n := rfl
    rw [text, Nat.repr, String.toList_ofList]
    rfl
  | negSucc n =>
    have text : toString (Int.negSucc n) = "-" ++ Nat.repr (n + 1) := rfl
    rw [text, String.toList_append, Nat.repr, String.toList_ofList, String.toList_ofList]
    rfl

/-- What follows the first quote of the last member. -/
def lastText (deviceId : String) : Text :=
  "device_id".toList ++ '"' :: ':' :: '"' :: (deviceId.toList ++ ['"', '\x7d'])

theorem payload_lead (deviceId : String) (seq : Int) (draws : Draws) :
    payload deviceId seq draws =
      .ofList ('\x7b' :: (JsonLine.lead Style.unicode (measured seq draws) ++
        '"' :: lastText deviceId)) := by
  have sequence : "\x7b\"sequence\":".toList =
      '\x7b' :: (Style.unicode.quoted "sequence" ++ [':']) := by decide +kernel
  have cpu : ",\"cpu_percent\":".toList =
      ',' :: (Style.unicode.quoted "cpu_percent" ++ [':']) := by decide +kernel
  have ram : ",\"ram_percent\":".toList =
      ',' :: (Style.unicode.quoted "ram_percent" ++ [':']) := by decide +kernel
  have disk : ",\"disk_percent\":".toList =
      ',' :: (Style.unicode.quoted "disk_percent" ++ [':']) := by decide +kernel
  have temp : ",\"temperature_c\":".toList =
      ',' :: (Style.unicode.quoted "temperature_c" ++ [':']) := by decide +kernel
  have rssi : ",\"rssi_dbm\":".toList =
      ',' :: (Style.unicode.quoted "rssi_dbm" ++ [':']) := by decide +kernel
  have status : ",\"ota_status\":\"".toList =
      ',' :: (Style.unicode.quoted "ota_status" ++ [':', '"']) := by decide +kernel
  have device : "\",\"device_id\":\"".toList =
      '"' :: ',' :: '"' :: ("device_id".toList ++ ['"', ':', '"']) := by decide +kernel
  have last : "\"\x7d".toList = ['"', '\x7d'] := by decide +kernel
  have idle : Style.unicode.quoted "idle" = '"' :: ("idle".toList ++ ['"']) := by decide +kernel
  apply String.toList_injective
  rw [String.toList_ofList]
  unfold payload lastText
  simp only [String.toList_append, toList_toString, sequence, cpu, ram, disk, temp, rssi, status,
    device, last, measured, JsonLine.lead, JsonLine.line, idle, List.append_assoc,
    List.cons_append, List.nil_append]

/-! ## Reading a message -/

theorem measured_regular (seq : Int) (draws : Draws) : RegularMembers (measured seq draws) :=
  ⟨trivial, trivial, trivial, trivial, trivial, trivial, trivial, trivial⟩

theorem parse_payload {deviceId : String} (plain : JsonPlain deviceId) (seq : Int)
    (draws : Draws) :
    parse (payload deviceId seq draws) = some (.obj (reading deviceId seq draws)) := by
  have key : Spells "device_id".toList "device_id".toList := spells_plain (by decide +kernel)
  have last := readsMembers_one key (reads_str (spells_plain plain)) Style.space_nil
    Style.space_nil Style.space_nil
  have object := reads_obj Style.space_nil
    (JsonLine.readsMembers_lead Style.unicode (measured_regular seq draws) last)
  have distinct : ((measured seq draws ++
      [(String.ofList "device_id".toList, Json.str (.ofList deviceId.toList))]).map
        Prod.fst).Nodup := by
    rw [String.ofList_toList]
    simp only [measured, List.cons_append, List.nil_append, List.map_cons, List.map_nil]
    decide
  rw [collapse_nodup distinct, String.ofList_toList, String.ofList_toList] at object
  have whole := parse_of_reads object Style.space_nil Style.space_nil
  have text : payload deviceId seq draws = .ofList ([] ++ ('\x7b' :: ([] ++
      (JsonLine.lead Style.unicode (measured seq draws) ++ '"' :: ("device_id".toList ++
        '"' :: ([] ++ ':' :: ([] ++ ('"' :: deviceId.toList ++ ['"'] ++ [])))))) ++
          ['\x7d'] ++ [])) := by
    rw [payload_lead]
    unfold lastText
    simp only [List.append_assoc, List.cons_append, List.nil_append, List.append_nil]
  rw [text]
  exact whole

theorem plain_of_parse {deviceId : String} {seq : Int} {draws : Draws}
    (h : parse (payload deviceId seq draws) = some (.obj (reading deviceId seq draws))) :
    JsonPlain deviceId := by
  rw [payload_lead] at h
  obtain ⟨ms, r, same, taken⟩ :=
    JsonLine.parse_lead Style.unicode (measured_regular seq draws) h
  have inside : ("device_id", Json.str deviceId) ∈ collapse (measured seq draws ++ ms) := by
    rw [← Json.obj.inj same]
    exact List.mem_append_right _ List.mem_cons_self
  have later : ("device_id", Json.str deviceId) ∈ ms := by
    rcases List.mem_append.mp (JsonLine.mem_of_mem_collapse inside) with first | later
    · simp [measured] at first
    · exact later
  -- the id has to fit into what is left of the text
  have room : memberLength ("device_id", .str deviceId) ≤ membersLength ms :=
    List.le_sum_of_mem (List.mem_map_of_mem later)
  have name : spelledLength "device_id".toList = 9 := by decide +kernel
  have least : memberLength ("device_id", .str deviceId) =
      spelledLength deviceId.toList + 15 := by
    unfold memberLength stringLength
    dsimp only
    omega
  have letters : "device_id".toList.length = 9 := by decide +kernel
  have left : ('"' :: lastText deviceId).length = deviceId.length + 15 := by
    unfold lastText
    -- simp would look into the literal
    generalize "device_id".toList = key at letters
    simp only [List.length_cons, List.length_append, List.length_nil, letters,
      String.length_toList]
    omega
  obtain ⟨t, split, long, -⟩ := taken
  have length := congrArg List.length split
  rw [left, List.length_append] at length
  exact jsonPlain_of_length (by omega)

/-! ## The loop -/

def sequence (i : Nat) : Int := Int.bmod (i + 1) (2 ^ 64)

theorem publishLoop_getElem (deviceId : String) (rounds : List Draws) (seq : Int) (i : Nat) :
    (publishLoop deviceId seq rounds)[i]? =
      rounds[i]?.map (payload deviceId (Int.bmod (seq + i + 1) (2 ^ 64))) := by
  induction rounds generalizing seq i with
  | nil => rfl
  | cons draws rounds ih =>
    rw [publishLoop]
    cases i with
    | zero => simp
    | succ i =>
      have wraps : Int.bmod (Int.bmod (seq + 1) (2 ^ 64) + i + 1) (2 ^ 64) =
          Int.bmod (seq + (i + 1 : Nat) + 1) (2 ^ 64) := by
        rw [Int.add_assoc, Int.bmod_add_bmod]
        congr 1
        omega
      rw [List.getElem?_cons_succ, List.getElem?_cons_succ, ih, wraps]

theorem published_getElem (deviceId : Option String) (rounds : List Draws) (i : Nat) :
    (published deviceId rounds)[i]? =
      rounds[i]?.map (payload (orDefault deviceId "sim-device-001") (sequence i)) := by
  unfold published sequence
  rw [publishLoop_getElem, Int.zero_add]

/-! ## The database -/

/-- The sequence number apart, every number of a reading is small. -/
theorem reading_small {deviceId : String} {seq : Int} {draws : Draws} {key : String} {n : Int}
    (member : (key, Json.int n) ∈ reading deviceId seq draws) : n = seq ∨ n.natAbs ≤ 1000 := by
  have within : ∀ min max : Int, min ≤ max → -1000 ≤ min → max ≤ 1000 → ∀ val,
      (randInt min max val).natAbs ≤ 1000 := by
    intro min max order low high val
    have bounds := randInt_bounds order val
    omega
  unfold reading measured at member
  simp only [List.cons_append, List.nil_append, List.mem_cons, Prod.mk.injEq, Json.int.injEq,
    reduceCtorEq, and_false, or_false, List.not_mem_nil] at member
  rcases member with ⟨-, hn⟩ | ⟨-, hn⟩ | ⟨-, hn⟩ | ⟨-, hn⟩ | ⟨-, hn⟩ | ⟨-, hn⟩
  · exact .inl hn
  all_goals
    right
    rw [hn]
    exact within _ _ (by omega) (by omega) (by omega) _

theorem reading_bounded (deviceId : String) (i : Nat) (draws : Draws) :
    Bounded (reading deviceId (sequence i) draws) := by
  have thousand : 1000 < Rounding.doubleLimit := by decide +kernel
  have word : 2 ^ 63 < Rounding.doubleLimit := by decide +kernel
  have low := Int.le_bmod (x := (i + 1 : Int)) (m := 2 ^ 64) (Nat.two_pow_pos 64)
  have high := Int.bmod_lt (x := (i + 1 : Int)) (m := 2 ^ 64) (Nat.two_pow_pos 64)
  have counted : (sequence i).natAbs ≤ 2 ^ 63 := by
    unfold sequence
    omega
  intro key n member
  rcases reading_small member with hn | hn
  · rw [hn]
    exact Nat.lt_of_le_of_lt counted word
  · exact Nat.lt_of_le_of_lt hn thousand

theorem reading_written (env : TelemetryEnv) (event : TelemetryEvent) (w : DbWorld)
    {deviceId name : String} {i : Nat} {draws : Draws} (named : eventDevice env event = some name)
    (data : event.data = .object (reading deviceId (sequence i) draws)) :
    Written (eventTenant env event) name (reading deviceId (sequence i) draws)
      (telemetryRun env event (fun _ => .done) w) := by
  obtain ⟨rows, made⟩ := (metricRows_ok_iff (eventTenant env event) name _).mpr
    (reading_bounded deviceId i draws)
  have members : event.data.fields = reading deviceId (sequence i) draws := by
    rw [data]
    rfl
  have records := records_of_rows made (env.device.env.clock w.ticks)
  have count := records.length_eq
  rw [List.length_map] at count
  obtain ⟨answered, sent⟩ := telemetryRun_accepted named (by rw [members]; exact made)
    (isEmpty_of_rows made (by simp [reading])) w
  constructor
  · rw [count]
    exact answered
  · exact ⟨_, sent, records⟩

/-- Each round publishes one message. It is read as its reading if and only if the id
needs no escape, and an event with what is then read leaves one record for each member. -/
theorem readings_stored (setting : Option String) (rounds : List Draws) (i : Nat)
    (draws : Draws) (round : rounds[i]? = some draws) :
    ∃ message, (published setting rounds)[i]? = some message ∧
      (parse message = some (.obj (reading (orDefault setting "sim-device-001") (sequence i)
        draws)) ↔ JsonPlain (orDefault setting "sim-device-001")) ∧
      (JsonPlain (orDefault setting "sim-device-001") →
        ∀ (env : TelemetryEnv) (event : TelemetryEvent) (name : String)
          (fields : List (String × Json)) (w : DbWorld), eventDevice env event = some name →
          parse message = some (.obj fields) → event.data = .object fields →
          Written (eventTenant env event) name
            (reading (orDefault setting "sim-device-001") (sequence i) draws)
            (telemetryRun env event (fun _ => .done) w)) := by
  have place := published_getElem setting rounds i
  rw [round] at place
  refine ⟨_, place, ⟨plain_of_parse, fun plain => parse_payload plain _ _⟩, ?_⟩
  intro plain env event name fields w named read data
  have same := (parse_payload plain (sequence i) draws).symm.trans read
  have members := Json.obj.inj (Option.some.inj same)
  apply reading_written env event w named
  rw [data, members]

/-- What a first round can draw. -/
def firstDraws : Draws := ⟨81, 12, 60, 35, 1000⟩

/-- The event of that round, for the device the script runs for. -/
def firstEvent : TelemetryEvent where
  metadata := [("deviceId", .str "sim-device-001"), ("tenantId", .str "acme")]
  data := .object (reading "sim-device-001" (sequence 0) firstDraws)

theorem first_reading_stored :
    ∃ message, (published none [firstDraws])[0]? = some message ∧
      parse message = some (.obj (reading "sim-device-001" (sequence 0) firstDraws)) ∧
      Written (eventTenant telemetryEnv firstEvent) "sim-device-001"
        (reading "sim-device-001" (sequence 0) firstDraws)
        (telemetryRun telemetryEnv firstEvent (fun _ => .done) ⟨0, []⟩) := by
  obtain ⟨message, place, read, stored⟩ := readings_stored none [firstDraws] 0 firstDraws rfl
  have plain : JsonPlain "sim-device-001" := by
    unfold JsonPlain
    decide +kernel
  exact ⟨message, place, read.mpr plain,
    stored plain telemetryEnv firstEvent _ _ ⟨0, []⟩ (by decide +kernel) (read.mpr plain) rfl⟩

end CompleteDeviceManagement.Guarantees.PublishTelemetry
