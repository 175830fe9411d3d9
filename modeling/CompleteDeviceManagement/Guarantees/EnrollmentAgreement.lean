import CompleteDeviceManagement.Library.JsonPrefix
import CompleteDeviceManagement.Source.EnrollClients

/-!
# Which clients agree with the enrollment endpoint

The docker client posts to the route that the API has, with a body that
validates; the CSR in it has lost the newlines at its end. The other four post to
`/v1/enroll`, which no route matches, and send no `device_name`.
-/

set_option autoImplicit false

namespace CompleteDeviceManagement.Guarantees.EnrollmentAgreement
open CompleteDeviceManagement.Library CompleteDeviceManagement.Library.JsonText
  CompleteDeviceManagement.Source.DeviceRouters CompleteDeviceManagement.Source.EnrollmentApi
  CompleteDeviceManagement.Source.EnrollClients
open CompleteDeviceManagement.Source.InitSubCa (captured captured_newline captured_eq_iff)

/-! ## Texts without metacharacters -/

/-- No blank, no control character and none that a URL gives a meaning or that
curl takes for a pattern. -/
def UrlPlain (text : String) : Prop :=
  ∀ c ∈ text.toList, 32 < c.toNat ∧ c.toNat ≠ 127 ∧
    c ∉ ['"', '#', '%', '/', '<', '>', '?', '[', '\\', ']', '^', '\x60', '\x7b', '|', '\x7d']

def JsonPlain (text : String) : Prop :=
  ∀ c ∈ text.toList, 32 ≤ c.toNat ∧ c ≠ '"' ∧ c ≠ '\\'

/-- Lines of printable ASCII. -/
def PemText (text : String) : Prop :=
  ∀ c ∈ text.toList, c = '\n' ∨ 32 ≤ c.toNat ∧ c.toNat < 127 ∧ c ≠ '"' ∧ c ≠ '\\'

theorem UrlPlain.json {text : String} (h : UrlPlain text) : JsonPlain text := by
  intro c hc
  obtain ⟨printable, -, special⟩ := h c hc
  refine ⟨by omega, ?_, ?_⟩
  · rintro rfl
    exact special (by decide)
  · rintro rfl
    exact special (by decide)

theorem UrlPlain.slash {text : String} (h : UrlPlain text) : '/' ∉ text.toList := by
  intro hc
  exact (h '/' hc).2.2 (by decide)

/-! ## The way to the application -/

def pathText (segments : List String) : String :=
  .ofList (segments.flatMap fun segment => '/' :: segment.toList)

/-- What curl makes of the dot segments of a path, those before it reversed;
`none` where they lead above the path. -/
def removeDots : List String → List String → Option (List String)
  | out, [] => some out.reverse
  | out, segment :: rest =>
      if segment = "." then removeDots (if rest = [] then "" :: out else out) rest
      else if segment = ".." then
        match out with
        | [] => none
        | _ :: out => removeDots (if rest = [] then "" :: out else out) rest
      else removeDots (segment :: out) rest

/-- `reaches url` is the path with which the application gets a request that curl
is told to send to `url`. Whatever is below `base` is forwarded. -/
def Forwarded (reaches : String → Option String) (base : String) : Prop :=
  ∀ segments resolved, (∀ segment ∈ segments, segment ≠ "" ∧ UrlPlain segment) →
    removeDots [] segments = some resolved →
      reaches (base ++ pathText segments) = some (pathText resolved)

/-! ## What is claimed of a request -/

structure Agrees (reaches : String → Option String) (deviceId csr : String) (sent : Sent) :
    Prop where
  routed : (sent.request.url.bind reaches).bind (route sent.request.method) =
    some (.enrollDevice, [deviceId])
  validates : ∃ body, sent.request.enrollment = some body ∧ body.csr = csr
  answered : ∀ field ∈ sent.extracts, field ∈ responseFields

/-! ## Routing -/

theorem splitOn_segments (segments : List String) (first : List Char) (hfirst : '/' ∉ first)
    (plain : ∀ segment ∈ segments, '/' ∉ segment.toList) :
    (first ++ segments.flatMap fun segment => '/' :: segment.toList).splitOn '/' =
      first :: segments.map String.toList := by
  induction segments generalizing first with
  | nil =>
    rw [List.flatMap_nil, List.append_nil, List.splitOn_eq_singleton hfirst]
    rfl
  | cons segment rest ih =>
    have hrest := ih segment.toList (plain segment List.mem_cons_self) fun s hs =>
      plain s (List.mem_cons_of_mem _ hs)
    rw [List.flatMap_cons, List.cons_append, List.splitOn_append_cons_self, hrest,
      List.splitOn_eq_singleton hfirst]
    rfl

theorem segmentsOf_pathText (segments : List String)
    (plain : ∀ segment ∈ segments, '/' ∉ segment.toList) :
    segmentsOf (pathText segments) = "" :: segments := by
  have hsplit := splitOn_segments segments [] (by simp) plain
  rw [List.nil_append] at hsplit
  rw [segmentsOf, pathText, String.toList_ofList, hsplit, List.map_cons, List.map_map]
  have hround : (String.ofList ∘ String.toList) = id := by
    funext s
    exact String.ofList_toList
  rw [hround, List.map_id]

theorem route_enroll {deviceId : String} (h : deviceId ≠ "") (plain : '/' ∉ deviceId.toList) :
    route "POST" (pathText ["devices", deviceId, "enroll"]) =
      some (.enrollDevice, [deviceId]) := by
  have hsegments : segmentsOf (pathText ["devices", deviceId, "enroll"]) =
      ["", "devices", deviceId, "enroll"] := by
    apply segmentsOf_pathText
    intro segment hsegment
    simp only [List.mem_cons, List.not_mem_nil, or_false] at hsegment
    rcases hsegment with rfl | rfl | rfl
    · decide
    · exact plain
    · decide
  simp [route, routes, hsegments, matchParts, Part.accepts, h]

/-- A device called `.` or `..` is routed nowhere. -/
theorem route_dots {deviceId : String} (h : deviceId = "." ∨ deviceId = "..") :
    ∃ resolved, removeDots [] ["devices", deviceId, "enroll"] = some resolved ∧
      route "POST" (pathText resolved) = none := by
  rcases h with rfl | rfl
  · exact ⟨["devices", "enroll"], by decide, by decide +kernel⟩
  · exact ⟨["enroll"], by decide, by decide +kernel⟩

theorem removeDots_device {deviceId : String} (h : deviceId ≠ "." ∧ deviceId ≠ "..") :
    removeDots [] ["devices", deviceId, "enroll"] = some ["devices", deviceId, "enroll"] := by
  simp [removeDots, h.1, h.2]

theorem urlPlain_device {deviceId : String} (nonempty : deviceId ≠ "") (plain : UrlPlain deviceId) :
    ∀ segment ∈ ["devices", deviceId, "enroll"], segment ≠ "" ∧ UrlPlain segment := by
  intro segment hsegment
  simp only [List.mem_cons, List.not_mem_nil, or_false] at hsegment
  rcases hsegment with rfl | rfl | rfl
  · exact ⟨by decide, by unfold UrlPlain; decide⟩
  · exact ⟨nonempty, plain⟩
  · exact ⟨by decide, by unfold UrlPlain; decide⟩

/-- The path of the docker client, whatever the device is called. -/
theorem docker_routed_iff {reaches : String → Option String} {base deviceId : String}
    (forwarded : Forwarded reaches base) (nonempty : deviceId ≠ "") (plain : UrlPlain deviceId) :
    (reaches (base ++ "/devices/" ++ deviceId ++ "/enroll")).bind (route "POST") =
        some (.enrollDevice, [deviceId]) ↔ deviceId ≠ "." ∧ deviceId ≠ ".." := by
  have hurl : base ++ "/devices/" ++ deviceId ++ "/enroll" =
      base ++ pathText ["devices", deviceId, "enroll"] := by
    apply String.toList_injective
    simp [pathText]
  have segments := urlPlain_device nonempty plain
  rw [hurl]
  constructor
  · intro hroute
    by_contra hdots
    have hdots' : deviceId = "." ∨ deviceId = ".." := by
      by_contra hne
      exact hdots (not_or.mp hne)
    obtain ⟨resolved, hresolved, hnone⟩ := route_dots hdots'
    rw [forwarded _ resolved segments hresolved, Option.bind_some, hnone] at hroute
    cases hroute
  · intro hdots
    rw [forwarded _ _ segments (removeDots_device hdots), Option.bind_some]
    exact route_enroll nonempty plain.slash

/-- `/v1/enroll` is no route. -/
theorem v1_unrouted {reaches : String → Option String} {base : String}
    (forwarded : Forwarded reaches base) :
    (reaches (base ++ "/v1/enroll")).bind (route "POST") = none := by
  have hurl : base ++ "/v1/enroll" = base ++ pathText ["v1", "enroll"] := rfl
  have plain : ∀ segment ∈ ["v1", "enroll"], segment ≠ "" ∧ UrlPlain segment := by
    unfold UrlPlain
    decide
  rw [hurl, forwarded ["v1", "enroll"] ["v1", "enroll"] plain (by decide), Option.bind_some]
  decide +kernel

/-! ## The body of the docker client -/

theorem payload_written (env : Env) (made : Generated) :
    captured (.ofList (Style.jq.write 0 (payload env made) ++ ['\n'])) =
      .ofList (Style.jq.write 0 (payload env made)) := by
  have hclose : ∃ front, Style.jq.write 0 (payload env made) = front ++ ['\x7d'] := ⟨_, rfl⟩
  obtain ⟨front, hfront⟩ := hclose
  rw [hfront]
  unfold captured
  rw [String.toList_ofList, List.rdropWhile_concat_pos _ _ _ (by decide),
    List.rdropWhile_concat_neg _ _ _ (by decide)]

theorem regular_payload (env : Env) (made : Generated) : Regular (payload env made) := by
  refine ⟨by simp, trivial, trivial, trivial, trivial, trivial⟩

/-- The payload validates, with the CSR that the shell has captured. -/
theorem docker_enrollment (env : Env) (made : Generated) :
    (enrollDocker env made).request.enrollment =
      some ⟨captured made.csr, orDefault env.deviceName "Simulated Device 001",
        orDefault env.deviceType "simulator", some (captured made.wgPublicKey)⟩ := by
  have hparse : (some (captured (.ofList (Style.jq.write 0 (payload env made) ++ ['\n'])))).bind
      JsonText.parse = some (payload env made) := by
    rw [payload_written, Option.bind_some]
    exact parse_write Style.jq (regular_payload env made)
  simp only [Request.enrollment, enrollDocker, if_true, hparse, Option.bind_some]
  rfl

/-! ## The body of enroll.sh on QEMU and of enroll.c -/

/-- Whatever of the CSR fits into the buffer is spelled in it. -/
theorem csrEscaped_spells {cs : List Char}
    (h : ∀ c ∈ cs, c = '\n' ∨ 32 ≤ c.toNat ∧ c.toNat < 127 ∧ c ≠ '"' ∧ c ≠ '\\') (ei : Nat) :
    ∃ kept, Spells kept (csrEscaped ei cs) := by
  induction cs generalizing ei with
  | nil => exact ⟨[], .nil⟩
  | cons c cs ih =>
    have hrest : ∀ d ∈ cs, d = '\n' ∨ 32 ≤ d.toNat ∧ d.toNat < 127 ∧ d ≠ '"' ∧ d ≠ '\\' :=
      fun d hd => h d (List.mem_cons_of_mem _ hd)
    rw [csrEscaped]
    split
    next room =>
      split
      next newline =>
        obtain ⟨kept, hkept⟩ := ih hrest (ei + 2)
        exact ⟨c :: kept, .short (by rw [newline]; rfl) hkept⟩
      next other =>
        obtain ⟨kept, hkept⟩ := ih hrest (ei + 1)
        rcases h c List.mem_cons_self with newline | ⟨printable, -, quote, backslash⟩
        · exact absurd newline other
        · exact ⟨c :: kept, .plain printable quote backslash hkept⟩
    · exact ⟨[], .nil⟩

/-- The body is JSON, an object of three members. -/
theorem reads_inlineBody {deviceId deviceType : String} {kept csr : List Char}
    (idPlain : JsonPlain deviceId) (typePlain : JsonPlain deviceType) (spelled : Spells kept csr) :
    Reads (.obj [("device_id", .str deviceId), ("device_type", .str deviceType),
      ("csr", .str (.ofList kept))]) (inlineBody deviceId deviceType csr) := by
  have name : ∀ key : String, JsonPlain key → Spells key.toList key.toList :=
    fun key plain => spells_plain plain
  have hcsr := readsMembers_one (name "csr" (by unfold JsonPlain; decide)) (reads_str spelled)
    Style.space_nil Style.space_nil Style.space_nil
  have htype := readsMembers_cons (name "device_type" (by unfold JsonPlain; decide))
    (reads_str (spells_plain typePlain)) Style.space_nil Style.space_nil Style.space_nil
    Style.space_nil hcsr
  have hid := readsMembers_cons (name "device_id" (by unfold JsonPlain; decide))
    (reads_str (spells_plain idPlain)) Style.space_nil Style.space_nil Style.space_nil
    Style.space_nil htype
  have hobj := reads_obj Style.space_nil hid
  rw [collapse_nodup (by simp)] at hobj
  simp only [String.ofList_toList] at hobj
  -- the literals are abstracted first: comparing two of them unfolds both
  have shape : ∀ first second third last : List Char,
      first = '\x7b' :: '"' :: ("device_id".toList ++ ['"', ':', '"']) →
      second = '"' :: ',' :: '"' :: ("device_type".toList ++ ['"', ':', '"']) →
      third = '"' :: ',' :: '"' :: ("csr".toList ++ ['"', ':', '"']) → last = ['"', '\x7d'] →
      Reads (.obj [("device_id", .str deviceId), ("device_type", .str deviceType),
        ("csr", .str (.ofList kept))])
        (first ++ deviceId.toList ++ second ++ deviceType.toList ++ third ++ csr ++ last) := by
    intro first second third last hfirst hsecond hthird hlast
    subst hfirst hsecond hthird hlast
    simpa only [List.append_assoc, List.cons_append, List.nil_append] using hobj
  exact shape _ _ _ _ (by decide +kernel) (by decide +kernel) (by decide +kernel)
    (by decide +kernel)

theorem snprintf_prefix {text kept : List Char} {room : Nat}
    (h : snprintf room text = some kept) : ∃ cut, kept ++ cut = text := by
  induction text generalizing room kept with
  | nil =>
    cases h
    exact ⟨[], rfl⟩
  | cons c rest ih =>
    rw [snprintf] at h
    split at h
    · obtain ⟨more, hmore, rfl⟩ := Option.map_eq_some_iff.mp h
      obtain ⟨cut, hcut⟩ := ih hmore
      exact ⟨cut, by rw [List.cons_append, hcut]⟩
    · split at h
      · cases h
        exact ⟨c :: rest, rfl⟩
      · cases h

/-- An object without `device_name` is refused. -/
theorem validate_nameless {fields : List (String × Json)}
    (h : Json.field? "device_name" fields = none) : validateEnrollment (.obj fields) = none := by
  simp only [validateEnrollment, h, Option.bind_none, Option.bind_eq_bind]
  exact Option.bind_fun_none _

theorem inlineBody_refused {deviceId deviceType : String} {kept csr : List Char}
    (idPlain : JsonPlain deviceId) (typePlain : JsonPlain deviceType) (spelled : Spells kept csr)
    {part cut : List Char} (hcut : part ++ cut = inlineBody deviceId deviceType csr) :
    (JsonText.parse (.ofList part)).bind validateEnrollment = none := by
  have hreads := reads_inlineBody idPlain typePlain spelled
  cases cut with
  | nil =>
    have hparse := parse_of_reads hreads Style.space_nil Style.space_nil
    rw [List.nil_append, List.append_nil, ← hcut, List.append_nil] at hparse
    rw [hparse, Option.bind_some]
    exact validate_nameless rfl
  | cons c cut =>
    rw [parse_cut hreads trivial hcut (List.cons_ne_nil c cut)]
    rfl

/-- The body of enroll.c is refused, also where a buffer was too short for it. -/
theorem freertos_refused {env : Env} {made : Generated} {sent : Sent}
    (h : cdmEnroll env made = some sent) (idPlain : JsonPlain (deviceIdFreertos env))
    (typePlain : JsonPlain (orDefault env.deviceType "freertos-posix"))
    (pem : PemText made.csr) : sent.request.enrollment = none := by
  obtain ⟨apiUrl, -, rfl⟩ := Option.map_eq_some_iff.mp h
  obtain ⟨kept, spelled⟩ := csrEscaped_spells pem 0
  simp only [Request.enrollment, if_true]
  cases hbody : snprintf (8192 + 256 - 1) (inlineBody (deviceIdFreertos env)
      (orDefault env.deviceType "freertos-posix") (csrEscaped 0 made.csr.toList)) with
  | none => rfl
  | some part =>
    obtain ⟨cut, hcut⟩ := snprintf_prefix hbody
    exact inlineBody_refused idPlain typePlain spelled hcut

/-! ## Every client -/

theorem docker_agrees_iff {reaches : String → Option String} (env : Env) (made : Generated)
    (forwarded : Forwarded reaches (bridgeUrlDocker env)) (plain : UrlPlain (deviceIdDocker env)) :
    Agrees reaches (deviceIdDocker env) made.csr (enrollDocker env made) ↔
      (deviceIdDocker env ≠ "." ∧ deviceIdDocker env ≠ "..") ∧
        made.csr.toList.getLast? ≠ some '\n' := by
  have nonempty : deviceIdDocker env ≠ "" := by
    unfold deviceIdDocker orDefault
    split
    · decide
    · split
      · decide
      next hne => exact hne
  have hrouted := docker_routed_iff forwarded nonempty plain
  have hcsr := captured_eq_iff made.csr
  constructor
  · intro agrees
    obtain ⟨body, hbody, heq⟩ := agrees.validates
    rw [docker_enrollment] at hbody
    cases hbody
    exact ⟨hrouted.mp agrees.routed, hcsr.mp heq⟩
  · intro ⟨hdots, hlast⟩
    exact
      { routed := hrouted.mpr hdots
        validates := ⟨_, docker_enrollment env made, hcsr.mpr hlast⟩
        answered := fun field hfield => hfield }

/-- A request to `/v1/enroll` below a forwarded URL does not agree. -/
theorem v1_disagrees {reaches : String → Option String} {base deviceId csr : String} {sent : Sent}
    (forwarded : Forwarded reaches base) (url : sent.request.url = some (base ++ "/v1/enroll"))
    (method : sent.request.method = "POST") : ¬ Agrees reaches deviceId csr sent := by
  intro agrees
  have hrouted := agrees.routed
  rw [url, method, Option.bind_some, v1_unrouted forwarded] at hrouted
  cases hrouted

theorem required_eq {setting : Option String} {value : String}
    (h : required setting = some value) : setting.getD "" = value := by
  unfold required at h
  split at h
  · cases h
  · split at h
    · cases h
    · cases h
      rfl

theorem yocto_disagrees {reaches : String → Option String} {defaultType d csr : String}
    {env : Env} {made : Generated} {sent : Sent}
    (sends : enrollYocto defaultType env made = some sent)
    (forwarded : Forwarded reaches (dropSlash (env.bridgeApiUrl.getD ""))) :
    ¬ Agrees reaches d csr sent := by
  simp only [enrollYocto, Option.bind_eq_bind, Option.bind_eq_some_iff] at sends
  obtain ⟨deviceId, -, tenantId, -, url, hurl, heq⟩ := sends
  cases heq
  rw [required_eq hurl] at forwarded
  exact v1_disagrees forwarded rfl rfl

/-- What a client sends agrees with the endpoint if and only if it is the docker
client, the device is not called `.` or `..`, and no newline ends the CSR. -/
theorem enrollment_agrees_iff (reaches : String → Option String) (client : Client) (env : Env)
    (made : Generated) {sent : Sent} (sends : enroll client env made = some sent)
    (forwarded : Forwarded reaches (bridgeUrl client env))
    (idPlain : UrlPlain (deviceId client env)) (typePlain : JsonPlain (deviceType client env))
    (pem : PemText made.csr) :
    Agrees reaches (deviceId client env) made.csr sent ↔
      client = .docker ∧ (deviceId client env ≠ "." ∧ deviceId client env ≠ "..") ∧
        made.csr.toList.getLast? ≠ some '\n' := by
  cases client with
  | docker =>
    cases sends
    rw [eq_self_iff_true, true_and]
    exact docker_agrees_iff env made forwarded idPlain
  | qemu =>
    obtain ⟨url, hurl, rfl⟩ := Option.map_eq_some_iff.mp sends
    have hbase : bridgeUrl .qemu env = url := required_eq hurl
    rw [hbase] at forwarded
    exact iff_of_false (v1_disagrees forwarded rfl rfl) fun h => by cases h.1
  | yocto => exact iff_of_false (yocto_disagrees sends forwarded) fun h => by cases h.1
  | yoctoTpm => exact iff_of_false (yocto_disagrees sends forwarded) fun h => by cases h.1
  | freertos =>
    have refused := freertos_refused sends idPlain.json typePlain pem
    have disagrees : ¬ Agrees reaches (deviceId .freertos env) made.csr sent := by
      intro agrees
      obtain ⟨body, hbody, -⟩ := agrees.validates
      rw [refused] at hbody
      cases hbody
    exact iff_of_false disagrees fun h => by cases h.1

/-! ## Two setups -/

/-- curl, and a proxy that takes off all that is before the application's path. -/
def proxied (base url : String) : Option String :=
  if base.toList <+: url.toList then
    (removeDots [] (segmentsOf (.ofList (url.toList.drop base.toList.length))).tail).map pathText
  else none

theorem forwarded_proxied (base : String) : Forwarded (proxied base) base := by
  intro segments resolved plain hresolved
  have hprefix : base.toList <+: (base ++ pathText segments).toList := by
    rw [String.toList_append]
    exact List.prefix_append _ _
  have hrest : (base ++ pathText segments).toList.drop base.toList.length =
      (pathText segments).toList := by
    rw [String.toList_append, List.drop_left]
  have hsegments := segmentsOf_pathText segments fun s hs => (plain s hs).2.slash
  unfold proxied
  rw [if_pos hprefix, hrest, String.ofList_toList, hsegments, List.tail_cons, hresolved]
  rfl

def bareCsr : Generated where
  csr := "-----BEGIN CERTIFICATE REQUEST-----\nMIIB\n-----END CERTIFICATE REQUEST-----"
  wgPublicKey := "d2lyZWd1YXJk\n"

def unsetEnv : Env := ⟨none, none, none, none, none⟩

/-- The docker client as it is shipped, with a CSR that no newline ends. -/
theorem enrollment_agrees_docker :
    Agrees (proxied "http://host.docker.internal:8888/api") "sim-device-001" bareCsr.csr
      (enrollDocker unsetEnv bareCsr) :=
  (enrollment_agrees_iff (proxied "http://host.docker.internal:8888/api") .docker unsetEnv bareCsr
    rfl (forwarded_proxied _) (by unfold UrlPlain; decide +kernel)
    (by unfold JsonPlain; decide +kernel) (by unfold PemText; decide +kernel)).mpr
      ⟨rfl, by decide +kernel, by decide +kernel⟩

def labEnv : Env where
  deviceId := some "lab-device-001"
  deviceName := none
  deviceType := none
  tenantId := some "tenant1"
  bridgeApiUrl := some "http://192.168.1.100:8888/api"

/-- As `step certificate create` and `openssl req` write it. -/
def writtenCsr : Generated where
  csr := bareCsr.csr ++ "\n"
  wgPublicKey := bareCsr.wgPublicKey

/-- With a CSR as the tools write it neither the script for QEMU nor the docker
client agrees. -/
theorem written_csr_disagrees :
    (∃ sent, enroll .qemu labEnv writtenCsr = some sent ∧
      ¬ Agrees (proxied "http://192.168.1.100:8888/api") "lab-device-001" writtenCsr.csr sent) ∧
    ∃ sent, enroll .docker labEnv writtenCsr = some sent ∧
      ¬ Agrees (proxied "http://192.168.1.100:8888/api") "lab-device-001" writtenCsr.csr sent := by
  have forwarded := forwarded_proxied "http://192.168.1.100:8888/api"
  constructor
  · have hurl : required labEnv.bridgeApiUrl = some "http://192.168.1.100:8888/api" := by
      decide +kernel
    simp only [enroll, enrollQemu, hurl, Option.map_some]
    exact ⟨_, rfl, v1_disagrees forwarded rfl rfl⟩
  · refine ⟨enrollDocker labEnv writtenCsr, rfl, ?_⟩
    intro agrees
    have hlast := (docker_agrees_iff labEnv writtenCsr forwarded
      (by unfold UrlPlain; decide +kernel)).mp agrees
    exact hlast.2 (by decide +kernel)

end CompleteDeviceManagement.Guarantees.EnrollmentAgreement
