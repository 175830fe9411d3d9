import CompleteDeviceManagement.Guarantees.DeviceCalls
import CompleteDeviceManagement.Guarantees.EnrollmentAgreement
import CompleteDeviceManagement.Library.Script
import CompleteDeviceManagement.Source.Bootstrap

/-!
# What the flag of the bootstrap container stands for

The script can be killed at any moment and started again, requests can reach the
API and their answers get lost, and others use the API meanwhile. Whenever
`.enrolled` is there, the volume holds the files of one run, made for each other
and for one answer of the API, and nothing changes it any more.
-/

set_option autoImplicit false

namespace CompleteDeviceManagement.Guarantees.Bootstrap
open CompleteDeviceManagement.Library CompleteDeviceManagement.Source.Bootstrap
  CompleteDeviceManagement.Source.DeviceRouters CompleteDeviceManagement.Source.EnrollmentApi
  CompleteDeviceManagement.Source.EnrollClients CompleteDeviceManagement.Guarantees.DeviceCalls
open CompleteDeviceManagement.Source.InitSubCa (captured captured_newline captured_eq_iff)
open CompleteDeviceManagement.Guarantees.EnrollmentAgreement (docker_enrollment)

/-! ## The device and the API -/

/-- `answered` records the enrollments that the device got an answer to. -/
structure World where
  certs : Certs
  vars : Vars
  platform : Platform
  answered : List (DeviceCall × EnrollmentResponse)

variable (site : Site)

/-- Until a command is through its files may hold anything; a request may reach the
API and its answer get lost, or be an error. -/
def during (command : Command) (w w' : World) : Prop :=
  (∃ texts : Certs, w' = { w with
    certs := fun f => if f ∈ command.targets then (texts f).or (w.certs f) else w.certs f }) ∨
  command = .post ∧ ∃ request ∈ w.vars.payload, ∃ call ∈ site.call request, ∃ fates,
    w' = { w with platform := (deviceRun site.api w.platform call fates).state }

def done (command : Command) (w w' : World) : Prop :=
  (∃ given d, command.run site given ⟨w.certs, w.vars⟩ = some d ∧
    w' = { w with certs := d.certs, vars := d.vars }) ∨
  command = .post ∧ ∃ request ∈ w.vars.payload, ∃ call ∈ site.call request, ∃ fates resp,
    (deviceRun site.api w.platform call fates).value = some (.enrolled resp) ∧
    w' = { w with
      vars := { w.vars with response := some (captured (responseText resp)) }
      platform := (deviceRun site.api w.platform call fates).state
      answered := w.answered ++ [(call, resp)] }

def enroll : Script World where
  skip w := (w.certs .enrolledFlag).isSome = true
  enter w := { w with vars := {} }
  commands := commands.map fun command => (during site command, done site command)

/-- A call of somebody else. -/
def others (may : DeviceCall → Prop) (w w' : World) : Prop :=
  ∃ call fates, may call ∧
    w' = { w with platform := (deviceRun site.api w.platform call fates).state }

/-! ## Reading the answer -/

theorem captured_response (resp : EnrollmentResponse) :
    captured (responseText resp) = responseText resp := by
  have closes : ∃ front, JsonLine.line JsonText.Style.unicode [] (responseJson resp) =
      front ++ ['\x7d'] := ⟨_, rfl⟩
  obtain ⟨front, same⟩ := closes
  unfold responseText captured
  rw [same, String.toList_ofList, List.rdropWhile_concat_neg _ _ _ (by decide)]

theorem parse_response (resp : EnrollmentResponse) :
    JsonText.parse (captured (responseText resp) ++ "\n") = some (responseJson resp) := by
  have regular : JsonText.Regular (responseJson resp) := by
    refine ⟨by simp, trivial, trivial, trivial, trivial, trivial⟩
  have line : responseText resp ++ "\n" =
      .ofList (JsonLine.line JsonText.Style.unicode [] (responseJson resp) ++ ['\n']) := by
    apply String.toList_injective
    simp [responseText]
  rw [captured_response, line]
  exact JsonLine.parse_line _ JsonText.Style.space_nil regular (by
    intro c hc
    rw [List.mem_singleton] at hc
    rw [hc]
    decide)

/-- The four members, as `jq -r` prints them. -/
theorem extracted_response {vars : Vars} {resp : EnrollmentResponse}
    (stored : vars.response = some (captured (responseText resp))) :
    extracted vars "certificate" = some (resp.certificate ++ "\n") ∧
      extracted vars "ca_chain" = some (resp.caChain ++ "\n") ∧
      extracted vars "wireguard_ip" = some (resp.wireguardIp ++ "\n") ∧
      extracted vars "wireguard_config" = some (resp.wireguardConfig ++ "\n") := by
  unfold extracted
  rw [stored]
  simp [jqRaw, parse_response, responseJson, Json.field?]

/-! ## The private key in the config -/

def placeholder : Sed.Text := "<REPLACE_WITH_DEVICE_PRIVATE_KEY>".toList

theorem placeholder_literal : Sed.Literal placeholder := by
  decide +kernel

def keySubst (wgPriv : String) : Sed.Subst := ⟨placeholder, wgPriv.toList.map .char⟩

/-- A key has no character that sed gives a meaning. -/
theorem key_clean {key : String} (text : KeyText key) :
    ∀ c ∈ key.toList, c ≠ '\\' ∧ c ≠ '&' ∧ c ≠ '|' ∧ c ≠ '\n' := by
  intro c hc
  have letter := text c hc
  refine ⟨?_, ?_, ?_, ?_⟩
  · rintro rfl
    exact absurd letter (by decide)
  · rintro rfl
    exact absurd letter (by decide)
  · rintro rfl
    exact absurd letter (by decide)
  · rintro rfl
    exact absurd letter (by decide)

theorem parse_key {key : String} (text : KeyText key) :
    Sed.parse (keyExpression key) = .done (keySubst key) := by
  have bar : '|' ∉ placeholder := by decide +kernel
  have shape : keyExpression key =
      's' :: '|' :: (placeholder ++ '|' :: (key.toList ++ '|' :: ['g'])) := rfl
  rw [shape, Sed.parse_command bar, Sed.command, if_pos placeholder_literal,
    Sed.replacement_clean (by decide) (key_clean text)]
  rfl

/-- The config of the answer with the key in it. -/
def configWith (key config : String) : String :=
  .ofList (Sed.replaceAll placeholder key.toList (config ++ "\n").toList)

theorem sed_key {key : String} (text : KeyText key) (config : String) :
    site.tools.sed.run [keyExpression key] (config ++ "\n").toList =
      some (configWith key config).toList := by
  have program : Sed.program [keyExpression key] = .done [keySubst key] := by
    rw [Sed.program, parse_key text]
    rfl
  have inLine : ∀ subst ∈ [keySubst key], subst.InLine := by
    intro subst member
    rw [List.mem_singleton.mp member]
    exact placeholder_literal.inLine
  have new : (keySubst key).new = key.toList := by
    have each : ∀ cs : Sed.Text,
        (cs.map Sed.Part.char).flatMap (Sed.Part.text placeholder) = cs := by
      intro cs
      induction cs with
      | nil => rfl
      | cons c cs ih =>
        rw [List.map_cons, List.flatMap_cons, ih]
        rfl
    exact each key.toList
  have once : ∀ line, (keySubst key).apply line = Sed.replaceAll placeholder key.toList line := by
    intro line
    rw [Sed.Subst.apply, new]
    rfl
  rw [site.tools.sed.done _ _ _ program, Sed.edited_eq inLine]
  simp only [Sed.edit, List.foldl_cons, List.foldl_nil, once, configWith, String.toList_ofList]

/-! ## What a run has made -/

/-- What tee left of the key. -/
def kept (given : Given) : String := .ofList ((given.wgKey ++ "\n").toList.take given.kept)

theorem captured_key {key : String} (text : KeyText key) : captured key = key := by
  rw [captured_eq_iff]
  intro newline
  have letter := text '\n' (List.mem_of_getLast? newline)
  exact absurd letter (by decide)

/-- Of a newline that tee wrote too nothing is left in the variable. -/
theorem kept_whole {given : Given} (whole : given.wgKey.toList.length ≤ given.kept) :
    captured (kept given) = given.wgKey := by
  rcases Nat.lt_or_eq_of_le whole with more | exact_
  · have all : kept given = given.wgKey ++ "\n" := by
      have length : (given.wgKey ++ "\n").toList.length ≤ given.kept := by
        rw [String.toList_append, List.length_append]
        exact more
      rw [kept, List.take_of_length_le length, String.ofList_toList]
    rw [all, captured_newline, captured_key given.wgText]
  · have front : kept given = given.wgKey := by
      rw [kept, String.toList_append, ← exact_, List.take_left, String.ofList_toList]
    rw [front, captured_key given.wgText]

theorem kept_text (given : Given) : KeyText (captured (kept given)) := by
  by_cases short : given.kept ≤ given.wgKey.toList.length
  · have front : kept given = .ofList (given.wgKey.toList.take given.kept) := by
      rw [kept, String.toList_append, List.take_append_of_le_length short]
    have text : KeyText (.ofList (given.wgKey.toList.take given.kept)) := by
      intro c hc
      rw [String.toList_ofList] at hc
      exact given.wgText c (List.mem_of_mem_take hc)
    rw [front, captured_key text]
    exact text
  · rw [kept_whole (by omega)]
    exact given.wgText

/-- The draws of a run, the call its request became, and the answer. -/
structure Made where
  key : String
  seed : Nat
  wg : Given
  call : DeviceCall
  resp : EnrollmentResponse

def Made.csr (made : Made) : String := site.tools.csrOf made.key site.deviceId made.seed

def Made.request (made : Made) : Request :=
  (enrollDocker site.env
    ⟨made.csr site, captured (site.tools.pubkey made.wg.wgKey ++ "\n")⟩).request

/-- What a command leaves, once it is through. -/
def Left (made : Made) (w : World) : Command → Prop
  | .keypair => w.certs .tlsKey = some made.key
  | .createCsr => w.certs .tlsCsr = some (made.csr site)
  | .wgKeys => w.certs .wgPrivkey = some (kept made.wg) ∧
      w.certs .wgPubkey = some (site.tools.pubkey made.wg.wgKey ++ "\n")
  | .makePayload => w.vars.payload = some (made.request site)
  | .post => site.call (made.request site) = some made.call ∧
      (made.call, made.resp) ∈ w.answered ∧
      w.vars.response = some (captured (responseText made.resp))
  | .checkResponse => True
  | .saveCert => w.certs .tlsCert = some (made.resp.certificate ++ "\n")
  | .saveChain => w.certs .caChain = some (made.resp.caChain ++ "\n")
  | .readWgIp => w.vars.wgIp = some (captured (made.resp.wireguardIp ++ "\n"))
  | .buildConfig => w.certs .wgConfig =
      some (configWith (captured (kept made.wg)) made.resp.wireguardConfig)
  | .mark => True

/-- Nothing of what the command leaves differs. -/
structure Agree (command : Command) (w w' : World) : Prop where
  files : ∀ f ∈ command.targets, w'.certs f = w.certs f
  payload : command = .makePayload → w'.vars.payload = w.vars.payload
  response : command = .post → w'.vars.response = w.vars.response
  answered : w.answered ⊆ w'.answered
  wgIp : command = .readWgIp → w'.vars.wgIp = w.vars.wgIp

theorem Left.frame {made : Made} {w w' : World} {command : Command}
    (h : Left site made w command) (agree : Agree command w w') : Left site made w' command := by
  cases command with
  | keypair => exact (agree.files .tlsKey (by decide)).trans h
  | createCsr => exact (agree.files .tlsCsr (by decide)).trans h
  | wgKeys =>
    exact ⟨(agree.files .wgPrivkey (by decide)).trans h.1,
      (agree.files .wgPubkey (by decide)).trans h.2⟩
  | makePayload => exact (agree.payload rfl).trans h
  | post => exact ⟨h.1, agree.answered h.2.1, (agree.response rfl).trans h.2.2⟩
  | checkResponse => trivial
  | saveCert => exact (agree.files .tlsCert (by decide)).trans h
  | saveChain => exact (agree.files .caChain (by decide)).trans h
  | readWgIp => exact (agree.wgIp rfl).trans h
  | buildConfig => exact (agree.files .wgConfig (by decide)).trans h
  | mark => trivial

/-! ## One command -/

/-- Every file is written by one command. -/
theorem targets_disjoint {c c' : Command} {f : File} (h : f ∈ c.targets) (h' : f ∈ c'.targets) :
    c = c' := by
  cases c <;> cases c' <;> first | rfl | (cases f <;> simp [Command.targets] at h h')

@[simp] theorem write_same (certs : Certs) (f : File) (text : String) :
    certs.write f text f = some text :=
  Function.update_self _ _ _

theorem write_other (certs : Certs) {f g : File} (other : g ≠ f) (text : String) :
    certs.write f text g = certs g :=
  Function.update_of_ne other _ _

/-- What a command leaves alone. -/
structure Frame (command : Command) (d d' : Device) : Prop where
  files : ∀ f, f ∉ command.targets → d'.certs f = d.certs f
  payload : command ≠ .makePayload → d'.vars.payload = d.vars.payload
  response : d'.vars.response = d.vars.response
  wgIp : command ≠ .readWgIp → d'.vars.wgIp = d.vars.wgIp

theorem frame_write (command : Command) (d : Device) {f : File} (target : f ∈ command.targets)
    (text : String) : Frame command d { d with certs := d.certs.write f text } where
  files := by
    intro g other
    apply write_other
    rintro rfl
    exact other target
  payload := fun _ => rfl
  response := rfl
  wgIp := fun _ => rfl

theorem Frame.trans {command : Command} {d d' d'' : Device} (first : Frame command d d')
    (second : Frame command d' d'') : Frame command d d'' where
  files := fun f other => (second.files f other).trans (first.files f other)
  payload := fun other => (second.payload other).trans (first.payload other)
  response := second.response.trans first.response
  wgIp := fun other => (second.wgIp other).trans (first.wgIp other)

theorem run_frame {command : Command} {given : Given} {d d' : Device}
    (ran : command.run site given d = some d') : Frame command d d' := by
  cases command with
  | keypair =>
    cases ran
    exact (frame_write .keypair d (f := .tlsPub) (by decide) _).trans
      (frame_write .keypair _ (f := .tlsKey) (by decide) _)
  | createCsr =>
    obtain ⟨key, -, same⟩ := Option.bind_eq_some_iff.mp ran
    cases same
    exact frame_write .createCsr d (by decide) _
  | wgKeys =>
    cases ran
    exact (frame_write .wgKeys d (f := .wgPrivkey) (by decide) _).trans
      (frame_write .wgKeys _ (f := .wgPubkey) (by decide) _)
  | makePayload =>
    obtain ⟨csr, -, more⟩ := Option.bind_eq_some_iff.mp ran
    obtain ⟨wgPub, -, same⟩ := Option.bind_eq_some_iff.mp more
    cases same
    exact ⟨fun _ _ => rfl, fun other => absurd rfl other, rfl, fun _ => rfl⟩
  | post => cases ran
  | checkResponse =>
    simp only [Command.run] at ran
    split at ran
    · cases ran
    · split at ran
      · cases ran
      · cases ran
        exact ⟨fun _ _ => rfl, fun _ => rfl, rfl, fun _ => rfl⟩
  | saveCert =>
    obtain ⟨text, -, same⟩ := Option.bind_eq_some_iff.mp ran
    cases same
    exact frame_write .saveCert d (by decide) _
  | saveChain =>
    obtain ⟨text, -, same⟩ := Option.bind_eq_some_iff.mp ran
    cases same
    exact frame_write .saveChain d (by decide) _
  | readWgIp =>
    obtain ⟨text, -, same⟩ := Option.bind_eq_some_iff.mp ran
    cases same
    exact ⟨fun _ _ => rfl, fun _ => rfl, rfl, fun other => absurd rfl other⟩
  | buildConfig =>
    obtain ⟨wgPriv, -, more⟩ := Option.bind_eq_some_iff.mp ran
    obtain ⟨text, -, more⟩ := Option.bind_eq_some_iff.mp more
    obtain ⟨config, -, same⟩ := Option.bind_eq_some_iff.mp more
    cases same
    exact frame_write .buildConfig d (by decide) _
  | mark =>
    obtain ⟨wgIp, -, same⟩ := Option.bind_eq_some_iff.mp ran
    cases same
    exact frame_write .mark d (by decide) _

/-- Other commands find what this one leaves as it was. -/
theorem Frame.agree {command other : Command} {w : World} {d : Device}
    (frame : Frame command ⟨w.certs, w.vars⟩ d) (differs : other ≠ command) :
    Agree other w { w with certs := d.certs, vars := d.vars } where
  files := by
    intro f target
    apply frame.files
    intro shared
    exact differs (targets_disjoint target shared)
  payload := by
    rintro rfl
    exact frame.payload fun same => differs same.symm
  response := fun _ => frame.response
  answered := List.Subset.refl _
  wgIp := by
    rintro rfl
    exact frame.wgIp fun same => differs same.symm

def earlier (command : Command) : List Command := commands.takeWhile (· ≠ command)

/-- The draws of a run, with those of the command that is done now. -/
theorem run_left {command : Command} {given : Given} {w : World} {d : Device} {made : Made}
    (ran : command.run site given ⟨w.certs, w.vars⟩ = some d)
    (before : ∀ c ∈ earlier command, Left site made w c) :
    ∃ made', Left site made' { w with certs := d.certs, vars := d.vars } command ∧
      (∀ c ∈ earlier command, Left site made' w c) ∧
      (.wgKeys ∈ earlier command → made' = made) := by
  cases command with
  | keypair =>
    cases ran
    refine ⟨{ made with key := given.key }, ?_, ?_, fun drawn => absurd drawn (by decide)⟩
    · dsimp only [Left]
      exact write_same _ _ _
    · intro c member
      cases member
  | createCsr =>
    have key : w.certs .tlsKey = some made.key := before .keypair (by decide)
    obtain ⟨read, found, same⟩ := Option.bind_eq_some_iff.mp ran
    cases same
    obtain rfl : made.key = read := Option.some.inj (key.symm.trans found)
    refine ⟨{ made with seed := given.seed }, ?_, ?_, fun drawn => absurd drawn (by decide)⟩
    · dsimp only [Left]
      exact write_same _ _ _
    · intro c member
      obtain rfl : c = .keypair := List.mem_singleton.mp member
      exact key
  | wgKeys =>
    cases ran
    refine ⟨{ made with wg := given }, ?_, ?_, fun drawn => absurd drawn (by decide)⟩
    · dsimp only [Left]
      refine ⟨?_, write_same _ _ _⟩
      rw [write_other _ (by decide)]
      exact write_same _ _ _
    · intro c member
      rcases List.mem_cons.mp member with rfl | member
      · exact before .keypair (by decide)
      · obtain rfl : c = .createCsr := List.mem_singleton.mp member
        exact before .createCsr (by decide)
  | makePayload =>
    have csr : w.certs .tlsCsr = some (made.csr site) := before .createCsr (by decide)
    have wgPub : w.certs .wgPubkey = some (site.tools.pubkey made.wg.wgKey ++ "\n") :=
      (before .wgKeys (by decide)).2
    obtain ⟨readCsr, found, more⟩ := Option.bind_eq_some_iff.mp ran
    obtain ⟨readPub, foundPub, same⟩ := Option.bind_eq_some_iff.mp more
    cases same
    obtain rfl : made.csr site = readCsr := Option.some.inj (csr.symm.trans found)
    obtain rfl : site.tools.pubkey made.wg.wgKey ++ "\n" = readPub :=
      Option.some.inj (wgPub.symm.trans foundPub)
    exact ⟨made, rfl, before, fun _ => rfl⟩
  | post => cases ran
  | checkResponse => exact ⟨made, trivial, before, fun _ => rfl⟩
  | saveCert =>
    have response : w.vars.response = some (captured (responseText made.resp)) :=
      (before .post (by decide)).2.2
    obtain ⟨text, read, same⟩ := Option.bind_eq_some_iff.mp ran
    cases same
    obtain rfl := Option.some.inj ((extracted_response response).1.symm.trans read)
    refine ⟨made, ?_, before, fun _ => rfl⟩
    dsimp only [Left]
    exact write_same _ _ _
  | saveChain =>
    have response : w.vars.response = some (captured (responseText made.resp)) :=
      (before .post (by decide)).2.2
    obtain ⟨text, read, same⟩ := Option.bind_eq_some_iff.mp ran
    cases same
    obtain rfl := Option.some.inj ((extracted_response response).2.1.symm.trans read)
    refine ⟨made, ?_, before, fun _ => rfl⟩
    dsimp only [Left]
    exact write_same _ _ _
  | readWgIp =>
    have response : w.vars.response = some (captured (responseText made.resp)) :=
      (before .post (by decide)).2.2
    obtain ⟨text, read, same⟩ := Option.bind_eq_some_iff.mp ran
    cases same
    obtain rfl := Option.some.inj ((extracted_response response).2.2.1.symm.trans read)
    exact ⟨made, rfl, before, fun _ => rfl⟩
  | buildConfig =>
    have response : w.vars.response = some (captured (responseText made.resp)) :=
      (before .post (by decide)).2.2
    have wgPriv : w.certs .wgPrivkey = some (kept made.wg) := (before .wgKeys (by decide)).1
    obtain ⟨key, found, more⟩ := Option.bind_eq_some_iff.mp ran
    obtain ⟨text, read, more⟩ := Option.bind_eq_some_iff.mp more
    obtain ⟨config, edited, same⟩ := Option.bind_eq_some_iff.mp more
    cases same
    obtain rfl : kept made.wg = key := Option.some.inj (wgPriv.symm.trans found)
    obtain rfl := Option.some.inj ((extracted_response response).2.2.2.symm.trans read)
    rw [sed_key site (kept_text made.wg)] at edited
    obtain rfl := Option.some.inj edited
    refine ⟨made, ?_, before, fun _ => rfl⟩
    dsimp only [Left]
    rw [String.ofList_toList]
    exact write_same _ _ _
  | mark => exact ⟨made, trivial, before, fun _ => rfl⟩

/-- The same for the request that is answered. -/
theorem post_left {w w' : World} {made : Made} (ends : done site .post w w')
    (before : ∀ c ∈ earlier .post, Left site made w c) :
    ∃ made', Left site made' w' .post ∧ (∀ c ∈ earlier .post, Left site made' w c) ∧
      w'.certs = w.certs ∧ w'.vars.payload = w.vars.payload ∧ w.answered ⊆ w'.answered ∧
      ∃ fates, (deviceRun site.api w.platform made'.call fates).value =
          some (.enrolled made'.resp) ∧
        w'.platform = (deviceRun site.api w.platform made'.call fates).state := by
  rcases ends with ⟨given, d, ran, -⟩ | ⟨-, request, sent, call, called, fates, resp, served, rfl⟩
  · cases ran
  · have payload : w.vars.payload = some (made.request site) := before .makePayload (by decide)
    rw [payload] at sent
    obtain rfl : made.request site = request := Option.some.inj sent
    refine ⟨{ made with call := call, resp := resp }, ⟨called, by simp, rfl⟩, ?_, rfl, rfl,
      by simp, fates, served, rfl⟩
    intro c member
    have held := before c member
    rcases List.mem_cons.mp member with rfl | member
    · exact held
    rcases List.mem_cons.mp member with rfl | member
    · exact held
    rcases List.mem_cons.mp member with rfl | member
    · exact held
    obtain rfl : c = .makePayload := List.mem_singleton.mp member
    exact held

/-! ## The outline -/

theorem commands_nodup : commands.Nodup := by
  decide

theorem commands_split {n : Nat} {command : Command} (found : commands[n]? = some command) :
    commands.take n = earlier command ∧ commands.take (n + 1) = earlier command ++ [command] := by
  obtain ⟨inside, same⟩ := List.getElem?_eq_some_iff.mp found
  have taken : commands.take (n + 1) = commands.take n ++ [command] := by
    rw [List.take_succ_eq_append_getElem inside, same]
  have split : commands = commands.take n ++ command :: commands.drop (n + 1) := by
    rw [← same, ← List.drop_eq_getElem_cons inside, List.take_append_drop]
  have first : ∀ c ∈ commands.take n, decide (c ≠ command) = true := by
    intro c member
    rw [decide_eq_true_eq]
    rintro rfl
    have nodup := commands_nodup
    rw [split] at nodup
    exact List.disjoint_of_nodup_append nodup member List.mem_cons_self
  have front : commands.take n = earlier command := by
    unfold earlier
    conv_rhs => rw [split]
    rw [List.takeWhile_append_of_pos first, List.takeWhile_cons_of_neg (by simp), List.append_nil]
  exact ⟨front, by rw [taken, front]⟩

theorem earlier_ne {c command : Command} (member : c ∈ earlier command) : c ≠ command := by
  have kept := List.mem_takeWhile_imp member
  simpa using kept

/-- Before command `n`: no flag before the last, and all the earlier ones left. -/
structure Before (made : Made) (n : Nat) (w : World) : Prop where
  unmarked : n < 10 → w.certs .enrolledFlag = none
  left : ∀ c ∈ commands.take n, Left site made w c

/-- Everything but the flag. -/
def Complete (w : World) : Prop := ∃ made, Before site made 10 w

theorem flag_untouched {n : Nat} {command : Command} (found : commands[n]? = some command)
    (early : n < 10) : .enrolledFlag ∉ command.targets := by
  intro target
  have mark : command = .mark := targets_disjoint target (by decide)
  have place : commands[10]? = some .mark := rfl
  rw [mark] at found
  have same := (List.getElem?_inj (by decide : 10 < commands.length) commands_nodup).mp
    (place.trans found.symm)
  omega

/-- What the API does meanwhile is nothing to the device. -/
theorem Before.elsewhere {made : Made} {n : Nat} {w : World} (h : Before site made n w)
    (platform : Platform) : Before site made n { w with platform := platform } :=
  ⟨h.unmarked, fun c member => (h.left c member).frame site
    ⟨fun _ _ => rfl, fun _ => rfl, fun _ => rfl, List.Subset.refl _, fun _ => rfl⟩⟩

theorem during_before {made : Made} {n : Nat} {command : Command} {w w' : World}
    (h : Before site made n w) (found : commands[n]? = some command)
    (acts : during site command w w') : Before site made n w' := by
  obtain ⟨front, -⟩ := commands_split found
  rcases acts with ⟨texts, rfl⟩ | ⟨-, _, _, _, _, _, rfl⟩
  · constructor
    · intro early
      have flag := flag_untouched found early
      simp only [flag, if_false]
      exact h.unmarked early
    · intro c member
      apply (h.left c member).frame
      rw [front] at member
      refine ⟨?_, fun _ => rfl, fun _ => rfl, List.Subset.refl _, fun _ => rfl⟩
      intro f target
      have other : f ∉ command.targets := by
        intro shared
        exact earlier_ne member (targets_disjoint target shared)
      simp only [other, if_false]
  · exact h.elsewhere site _

/-- How a command goes on: the fifth is the one that is answered, and behind it
nothing is drawn any more. -/
structure Course (made made' : Made) (n : Nat) (w w' : World) : Prop where
  aside : n ≠ 4 → w'.platform = w.platform
  drawn : 4 < n → made' = made
  answered : n = 4 → ∃ fates,
    (deviceRun site.api w.platform made'.call fates).value = some (.enrolled made'.resp) ∧
      w'.platform = (deviceRun site.api w.platform made'.call fates).state

theorem post_place {n : Nat} {command : Command} (found : commands[n]? = some command) :
    command = .post ↔ n = 4 := by
  have place : commands[4]? = some .post := rfl
  constructor
  · rintro rfl
    have same := (List.getElem?_inj (by decide : 4 < commands.length) commands_nodup).mp
      (place.trans found.symm)
    exact same.symm
  · rintro rfl
    exact (Option.some.inj found).symm

theorem done_before {made : Made} {n : Nat} {command : Command} {w w' : World}
    (h : Before site made n w) (found : commands[n]? = some command)
    (ends : done site command w w') :
    ∃ made', Before site made' (n + 1) w' ∧ Course site made made' n w w' := by
  obtain ⟨front, next⟩ := commands_split found
  have before : ∀ c ∈ earlier command, Left site made w c := by
    rw [← front]
    exact h.left
  by_cases posts : command = .post
  · have place := (post_place found).mp posts
    subst posts
    obtain ⟨made', left, others, files, payload, answered, course⟩ := post_left site ends before
    refine ⟨made', ⟨?_, ?_⟩, fun aside => absurd place aside, fun later => ?_, fun _ => course⟩
    · intro early
      rw [files]
      exact h.unmarked (by omega)
    · rw [next]
      intro c member
      rcases List.mem_append.mp member with member | member
      · apply (others c member).frame
        refine ⟨fun f _ => by rw [files], fun _ => payload, ?_, answered, ?_⟩
        · rintro rfl
          exact absurd rfl (earlier_ne member)
        · rintro rfl
          exact absurd member (by decide)
      · obtain rfl := List.mem_singleton.mp member
        exact left
    · omega
  · have place := mt (post_place found).mpr posts
    rcases ends with ⟨given, d, ran, rfl⟩ | ⟨post, _⟩
    · obtain ⟨made', left, others, drawn⟩ := run_left site ran before
      have frame := run_frame site ran
      refine ⟨made', ⟨?_, ?_⟩, fun _ => rfl, fun later => ?_, fun same => absurd same place⟩
      · intro early
        exact (frame.files _ (flag_untouched found (by omega))).trans (h.unmarked (by omega))
      · rw [next]
        intro c member
        rcases List.mem_append.mp member with member | member
        · exact (others c member).frame site (frame.agree (earlier_ne member))
        · obtain rfl := List.mem_singleton.mp member
          exact left
      · apply drawn
        rw [← front]
        exact List.take_subset_take_left commands later (by decide)
    · exact absurd post posts

theorem enroll_during {n : Nat} {w w' : World} (acts : (enroll site).during n w w') :
    ∃ command, commands[n]? = some command ∧ during site command w w' := by
  obtain ⟨c, found, acts⟩ := acts
  simp only [enroll, List.getElem?_map, Option.map_eq_some_iff] at found
  obtain ⟨command, found, rfl⟩ := found
  exact ⟨command, found, acts⟩

theorem enroll_done {n : Nat} {w w' : World} (ends : (enroll site).done n w w') :
    ∃ command, commands[n]? = some command ∧ done site command w w' := by
  obtain ⟨c, found, ends⟩ := ends
  simp only [enroll, List.getElem?_map, Option.map_eq_some_iff] at found
  obtain ⟨command, found, rfl⟩ := found
  exact ⟨command, found, ends⟩

theorem Before.late {made : Made} {n : Nat} {w : World} (h : Before site made n w)
    (marked : (w.certs .enrolledFlag).isSome = true) : 10 ≤ n := by
  by_contra early
  rw [h.unmarked (by omega)] at marked
  cases marked

/-- The last command is only about the flag. -/
theorem Before.complete {made : Made} {n : Nat} {w : World} (h : Before site made n w)
    (marked : (w.certs .enrolledFlag).isSome = true) : Before site made 10 w := by
  have late := h.late site marked
  refine ⟨fun early => absurd early (by omega), ?_⟩
  intro c member
  exact h.left c (List.take_subset_take_left commands late member)

def blank : Made where
  key := ""
  seed := 0
  wg := ⟨"", "", 0, "", 0, fun c inside => by cases inside⟩
  call := .webhook ⟨[]⟩
  resp := ⟨"", "", "", ""⟩

theorem enroll_length : (enroll site).commands.length = 11 := rfl

/-- Between two runs a flag stands for everything else. -/
def outline (may : DeviceCall → Prop) : Script.Outline (enroll site) (others site may) where
  idle w := (w.certs .enrolledFlag).isSome = true → Complete site w
  before n w := ∃ made, Before site made n w
  starts := by
    intro w _ unmarked
    refine ⟨blank, ?_, ?_⟩
    · intro _
      exact Option.not_isSome_iff_eq_none.mp unmarked
    · intro c member
      cases member
  acts := by
    rintro n w w' ⟨made, h⟩ acts
    obtain ⟨command, found, acts⟩ := enroll_during site acts
    exact ⟨made, during_before site h found acts⟩
  ends := by
    rintro n w w' ⟨made, h⟩ ends
    obtain ⟨command, found, ends⟩ := enroll_done site ends
    obtain ⟨made', next, _⟩ := done_before site h found ends
    exact ⟨made', next⟩
  last := by
    rintro w ⟨made, h⟩ marked
    exact ⟨made, h.complete site marked⟩
  quits := by
    rintro n w ⟨made, h⟩ marked
    exact ⟨made, h.complete site marked⟩
  idles := by
    rintro w w' idle ⟨call, fates, _, rfl⟩ marked
    obtain ⟨made, h⟩ := idle marked
    exact ⟨made, h.elsewhere site _⟩
  moves := by
    rintro n w w' ⟨made, h⟩ ⟨call, fates, _, rfl⟩
    exact ⟨made, h.elsewhere site _⟩

/-! ## The flag -/

/-- Files of one run, made for each other and for one answer of the API. -/
structure Enrolled (made : Made) (w : World) : Prop where
  key : w.certs .tlsKey = some made.key
  csr : w.certs .tlsCsr = some (made.csr site)
  wgPrivkey : w.certs .wgPrivkey = some (kept made.wg)
  wgPubkey : w.certs .wgPubkey = some (site.tools.pubkey made.wg.wgKey ++ "\n")
  cert : w.certs .tlsCert = some (made.resp.certificate ++ "\n")
  chain : w.certs .caChain = some (made.resp.caChain ++ "\n")
  config : w.certs .wgConfig =
    some (configWith (captured (kept made.wg)) made.resp.wireguardConfig)
  /-- the CSR and the public key are those of the request that was answered -/
  asked : ∃ d body, made.call = .enroll d body ∧ body.csr = captured (made.csr site) ∧
    body.wgPublicKey = some (site.tools.pubkey made.wg.wgKey)
  answered : (made.call, made.resp) ∈ w.answered

theorem call_enroll {made : Made} (called : site.call (made.request site) = some made.call) :
    ∃ d body, made.call = .enroll d body ∧ body.csr = captured (made.csr site) ∧
      body.wgPublicKey = some (site.tools.pubkey made.wg.wgKey) := by
  unfold Site.call at called
  split at called
  next d _ =>
    rw [Made.request, docker_enrollment, Option.map_some] at called
    refine ⟨d, _, (Option.some.inj called).symm, rfl, ?_⟩
    have text := (site.tools.pubkeyText made.wg.wgKey).1
    simp only [captured_newline, captured_key text]
  · cases called

theorem Before.enrolled {made : Made} {w : World} (h : Before site made 10 w) :
    Enrolled site made w := by
  have left : ∀ c, c ≠ .mark → Left site made w c := by
    intro c other
    apply h.left
    cases c with
    | mark => exact absurd rfl other
    | _ => decide
  have post := left .post (by decide)
  exact
    { key := left .keypair (by decide)
      csr := left .createCsr (by decide)
      wgPrivkey := (left .wgKeys (by decide)).1
      wgPubkey := (left .wgKeys (by decide)).2
      cert := left .saveCert (by decide)
      chain := left .saveChain (by decide)
      config := left .buildConfig (by decide)
      asked := call_enroll site post.1
      answered := post.2.1 }

/-- The flag is there and the script is not at work, or only at the flag. -/
structure Frozen (w₀ w : World) (place : Option Nat) : Prop where
  marked : (w.certs .enrolledFlag).isSome = true
  same : ∀ f, f ≠ .enrolledFlag → w.certs f = w₀.certs f
  place : ∀ n, place = some n → 10 ≤ n

theorem last_command {n : Nat} {command : Command} (late : 10 ≤ n)
    (found : commands[n]? = some command) : command = .mark := by
  obtain ⟨inside, _⟩ := List.getElem?_eq_some_iff.mp found
  have length : commands.length = 11 := rfl
  obtain rfl : n = 10 := by omega
  exact (Option.some.inj found).symm

theorem Frozen.step {w₀ w w' : World} {place place' : Option Nat} {may : DeviceCall → Prop}
    (h : Frozen w₀ w place)
    (step : Script.Step (enroll site) (others site may) (w, place) (w', place')) :
    Frozen w₀ w' place' := by
  cases step with
  | start todo => exact absurd h.marked todo
  | @during _ _ n acts =>
    obtain ⟨command, found, acts⟩ := enroll_during site acts
    obtain rfl := last_command (h.place n rfl) found
    rcases acts with ⟨texts, rfl⟩ | ⟨post, _⟩
    · refine ⟨?_, ?_, h.place⟩
      · have target : File.enrolledFlag ∈ Command.mark.targets := by decide
        simp only [target, if_true]
        cases texts .enrolledFlag with
        | none => exact h.marked
        | some text => rfl
      · intro f other
        have spared : f ∉ Command.mark.targets := by simpa [Command.targets] using other
        simp only [spared, if_false]
        exact h.same f other
    · cases post
  | @done _ _ n ends =>
    obtain ⟨command, found, ends⟩ := enroll_done site ends
    obtain rfl := last_command (h.place n rfl) found
    rcases ends with ⟨given, d, ran, rfl⟩ | ⟨post, _⟩
    · have frame := run_frame site ran
      obtain ⟨wgIp, _, same⟩ := Option.bind_eq_some_iff.mp ran
      cases same
      refine ⟨?_, ?_, ?_⟩
      · dsimp only
        rw [write_same]
        rfl
      · intro f other
        exact (frame.files f (by simpa [Command.targets] using other)).trans (h.same f other)
      · intro m next
        have late := h.place n rfl
        unfold Script.after at next
        split at next
        · cases next
          omega
        · cases next
    · cases post
  | quit => exact ⟨h.marked, h.same, (by intro _ at_; cases at_)⟩
  | outside moves =>
    obtain ⟨call, fates, _, rfl⟩ := moves
    exact ⟨h.marked, h.same, h.place⟩

def drawn (given : Given) (call : DeviceCall) (resp : EnrollmentResponse) : Made :=
  ⟨given.key, given.seed, given, call, resp⟩

/-- The four commands that read the answer, where it is stored. -/
theorem run_response (given : Given) {d : Device} {resp : EnrollmentResponse}
    (stored : d.vars.response = some (captured (responseText resp))) :
    Command.run site given d .saveCert =
        some { d with certs := d.certs.write .tlsCert (resp.certificate ++ "\n") } ∧
      Command.run site given d .saveChain =
        some { d with certs := d.certs.write .caChain (resp.caChain ++ "\n") } ∧
      Command.run site given d .readWgIp =
        some { d with vars := { d.vars with wgIp := some (captured (resp.wireguardIp ++ "\n")) } } ∧
      ∀ wg, d.certs .wgPrivkey = some (kept wg) → Command.run site given d .buildConfig =
        some { d with
          certs := d.certs.write .wgConfig
            (configWith (captured (kept wg)) resp.wireguardConfig) } := by
  obtain ⟨cert, chain, ip, config⟩ := extracted_response stored
  refine ⟨?_, ?_, ?_, ?_⟩
  · simp [Command.run, cert]
  · simp [Command.run, chain]
  · simp [Command.run, ip]
  · intro wg wgPriv
    simp only [Command.run, wgPriv, config, Option.bind_eq_bind, Option.bind_some,
      sed_key site (kept_text wg), String.ofList_toList]

theorem response_nonempty (resp : EnrollmentResponse) : captured (responseText resp) ≠ "" := by
  intro empty
  have read := parse_response resp
  rw [empty] at read
  cases read

theorem straight_run (may : DeviceCall → Prop) (given : Given) {w : World} {call : DeviceCall}
    {fates : Nat → Fate} {resp : EnrollmentResponse} (fresh : w.certs .enrolledFlag = none)
    (called : site.call ((drawn given call resp).request site) = some call)
    (served : (deviceRun site.api w.platform call fates).value = some (.enrolled resp)) :
    ∃ w', Script.Reaches (enroll site) (others site may) (w, none) (w', none) ∧
      (w'.certs .enrolledFlag).isSome = true ∧
      w'.platform = (deviceRun site.api w.platform call fates).state := by
  have runs : ∀ (n : Nat) (command : Command) {v : World} {d : Device},
      commands[n]? = some command → command.run site given ⟨v.certs, v.vars⟩ = some d →
      Script.Reaches (enroll site) (others site may) (w, none) (v, some n) →
      Script.Reaches (enroll site) (others site may) (w, none)
        ({ v with certs := d.certs, vars := d.vars }, (enroll site).after n) := by
    intro n command v d found ran before
    have ends : (enroll site).done n v { v with certs := d.certs, vars := d.vars } := by
      refine ⟨(during site command, done site command), ?_, .inl ⟨given, d, ran, rfl⟩⟩
      simp only [enroll, List.getElem?_map, found, Option.map_some]
    exact before.tail (.done ends)
  have begins : Script.Reaches (enroll site) (others site may) (w, none)
      ({ w with vars := {} }, some 0) := by
    apply Relation.ReflTransGen.single
    apply Script.Step.start
    intro skip
    have marked : (w.certs .enrolledFlag).isSome = true := skip
    rw [fresh] at marked
    cases marked
  have keypair := runs 0 .keypair rfl rfl begins
  have createCsr := runs 1 .createCsr rfl rfl keypair
  have wgKeys := runs 2 .wgKeys rfl rfl createCsr
  have makePayload := runs 3 .makePayload rfl rfl wgKeys
  have post := makePayload.tail (.done ⟨(during site .post, done site .post), rfl,
    .inr ⟨rfl, _, rfl, call, called, fates, resp, served, rfl⟩⟩)
  have checkResponse := runs 5 .checkResponse rfl
    (by simp only [Command.run, response_nonempty, if_false]; rfl) post
  have saveCert := runs 6 .saveCert rfl (run_response site given rfl).1 checkResponse
  have saveChain := runs 7 .saveChain rfl (run_response site given rfl).2.1 saveCert
  have readWgIp := runs 8 .readWgIp rfl (run_response site given rfl).2.2.1 saveChain
  have buildConfig := runs 9 .buildConfig rfl ((run_response site given rfl).2.2.2 given rfl)
    readWgIp
  have mark := runs 10 .mark rfl rfl buildConfig
  exact ⟨_, mark, rfl, rfl⟩

/-! ## The simulated device -/

/-- The container as it is shipped; its tools write the same whatever they draw. -/
def simulated : Site where
  env := EnrollmentAgreement.unsetEnv
  tools :=
    { csrOf := fun _ name _ => "CSR of " ++ name ++ "\n"
      pubkey := fun _ => "cHVi"
      sed := Sed.Editor.strict
      pubkeyText := by
        intro key
        unfold KeyText
        exact ⟨by decide +kernel, by decide⟩ }
  api := tenantEnv
  reaches := EnrollmentAgreement.proxied "http://host.docker.internal:8888/api"

def draws : Given where
  pub := "public key\n"
  key := "private key\n"
  seed := 1
  wgKey := "cHJpdg=="
  kept := 9
  wgText := by
    unfold KeyText
    decide +kernel

def emptyVolume : World := ⟨fun _ => none, {}, emptyPlatform, []⟩

def simulatedCall : DeviceCall := .enroll "sim-device-001"
  ⟨"CSR of sim-device-001", "Simulated Device 001", "simulator", some "cHVi"⟩

/-- What is sent does not depend on the answer. -/
theorem simulated_called (resp : EnrollmentResponse) :
    simulated.call ((drawn draws simulatedCall resp).request simulated) = some simulatedCall := by
  have any : (drawn draws simulatedCall resp).request simulated =
      (drawn draws simulatedCall blank.resp).request simulated := rfl
  have routed : ((((drawn draws simulatedCall blank.resp).request simulated).url.bind
      simulated.reaches).bind (route "POST")) = some (.enrollDevice, ["sim-device-001"]) := by
    decide +kernel
  have csr : captured ((drawn draws simulatedCall blank.resp).csr simulated) =
      "CSR of sim-device-001" := by
    decide +kernel
  have key : captured (captured (simulated.tools.pubkey draws.wgKey ++ "\n")) = "cHVi" := by
    decide +kernel
  have method : ((drawn draws simulatedCall blank.resp).request simulated).method = "POST" := rfl
  unfold Site.call
  rw [any, method, routed]
  dsimp only
  rw [Made.request, docker_enrollment, csr]
  dsimp only [drawn]
  rw [key]
  rfl

end CompleteDeviceManagement.Guarantees.Bootstrap
