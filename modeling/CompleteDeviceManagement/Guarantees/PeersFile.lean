import CompleteDeviceManagement.Library.JsonPrefix
import CompleteDeviceManagement.Source.PeersFile

/-!
# When the peers database is seen whole

`_save_peers` overwrites the file in place. An address once returned is what the
terminal proxy resolves and `allocate_ip` returns from then on, and a crash
leaves the old or the new mapping, in exactly the runs that resolve no answered
device and stop the API process at no time between the opening of the file and
the end of the write: in between the file holds the text of no mapping.
-/

set_option autoImplicit false

namespace CompleteDeviceManagement.Guarantees.PeersFile
open CompleteDeviceManagement.Library CompleteDeviceManagement.Source
  CompleteDeviceManagement.Source.WireGuard CompleteDeviceManagement.Source.PeersFile

/-! ## What is promised -/

/-- What is seen later of a device that has been given an address. -/
def Upholds (deviceId ip : String) : Event → Prop
  | .returned other ip' => other = deviceId → ip' = ip
  | .resolved other answer => other = deviceId → answer = some ip
  | .raised other error => other ≠ deviceId ∧ error ≠ .jsonDecodeError
  | .crashed _ _ => True

/-- A crash during a save leaves the old or the new mapping. -/
def LeavesWhole : Event → Prop
  | .crashed save left => left = some save.before ∨ left = some save.after
  | _ => True

structure Truthful (log : List Event) : Prop where
  answers : ∀ before deviceId ip after, log = before ++ .returned deviceId ip :: after →
    ∀ event ∈ after, Upholds deviceId ip event
  crashes : ∀ event ∈ log, LeavesWhole event

/-! ## The condition -/

/-- The file is open and its text is not all written. -/
def Torn (s : State) : Prop := ∃ save done, s.api = .saving save (.writing done)

/-- The API process is not stopped, and no device that has an answer is
resolved, while the file is torn. -/
def Spares (s : State) (log : List Event) (action : Action) : Prop :=
  Torn s → (∀ deviceId ip, action = .resolve deviceId → .returned deviceId ip ∉ log) ∧
    action ≠ .crash

/-- Every step of the run spares the file. -/
def Careful (wg : WireGuardConfig) : State × List Event → List Action → Prop
  | _, [] => True
  | (s, log), action :: rest =>
      Spares s log action ∧
        match step wg s action with
        | none => True
        | some (s', events) => Careful wg (s', log ++ events) rest

/-! ## Reading back what was saved -/

theorem textMembers_texts (items : List (String × String)) :
    textMembers (items.map fun item => (item.1, .str item.2)) = some items := by
  induction items with
  | nil => rfl
  | cons item rest ih => simp [textMembers, ih]

theorem regular_texts (items : List (String × String)) :
    JsonText.RegularMembers (items.map fun item => (item.1, .str item.2)) := by
  induction items with
  | nil => trivial
  | cons item rest ih => exact ⟨trivial, ih⟩

theorem regular_peers (peers : Peers) :
    JsonText.Regular (.obj (peers.items.map fun item => (item.1, .str item.2))) := by
  have names : (peers.items.map fun item => (item.1, Json.str item.2)).map Prod.fst =
      peers.items.map Prod.fst := by
    rw [List.map_map]
    rfl
  constructor
  · rw [names]
    exact peers.nodup
  · exact regular_texts peers.items

/-- `json.loads(json.dumps(peers, indent=2))` is `peers`. -/
theorem readPeers_dumpPeers (peers : Peers) : readPeers (dumpPeers peers) = some peers := by
  unfold readPeers dumpPeers
  rw [JsonText.parse_write JsonText.Style.ascii (regular_peers peers)]
  simp [peersOf, textMembers_texts, Dict.foldl_set_self]

/-- A part of the text is the text of no mapping. -/
theorem readPeers_cut {peers : Peers} {part rest : List Char}
    (cut : part ++ rest = (dumpPeers peers).toList) (more : rest ≠ []) :
    readPeers (.ofList part) = none := by
  have regular := regular_peers peers
  have hread := JsonText.reads_write JsonText.Style.ascii _ 0 regular
  rw [dumpPeers, String.toList_ofList] at cut
  rw [readPeers, JsonText.parse_cut hread trivial cut more]
  rfl

theorem content_ne_nil (save : Save) : save.content ≠ [] := by
  intro hnil
  have hread := readPeers_dumpPeers save.after
  have hempty : dumpPeers save.after = "" := String.toList_eq_nil_iff.mp hnil
  rw [hempty] at hread
  cases hread

/-! ## What a call of `allocate_ip` does -/

theorem allocate_cases (wg : WireGuardConfig) {file : Option String} {peers : Peers}
    (loaded : loadPeersFile file = some peers) (deviceId : String) :
    (∃ ip, peers.get? deviceId = some ip ∧
        allocate wg file deviceId = .inl (.returned deviceId ip)) ∨
      (peers.get? deviceId = none ∧
        ((∃ error, allocate wg file deviceId = .inl (.raised deviceId (.raised error))) ∨
          ∃ ip, allocate wg file deviceId =
            .inr ⟨deviceId, ip, peers, peers.set deviceId ip⟩)) := by
  have hload : loadPeers (some peers) = peers := rfl
  unfold allocate
  rw [loaded]
  cases hknown : peers.get? deviceId with
  | some ip =>
    have hcall : allocateIp wg (some peers) deviceId = (.ok ip, some peers) := by
      simp only [allocateIp, hload, hknown]
    refine Or.inl ⟨ip, rfl, ?_⟩
    simp only [hcall, hknown, Option.isSome_some, if_true]
  | none =>
    refine Or.inr ⟨rfl, ?_⟩
    cases hused : usedAddresses peers.values with
    | error error =>
      have hcall : allocateIp wg (some peers) deviceId = (.error error, some peers) := by
        simp only [allocateIp, hload, hknown, hused]
      exact Or.inl ⟨error, by simp only [hcall]⟩
    | ok used =>
      cases hfind : wg.subnet.hosts.find? fun host => decide (host ∉ wg.serverIp :: used) with
      | none =>
        have hcall : allocateIp wg (some peers) deviceId = (.error (exhausted wg), some peers) := by
          simp only [allocateIp, hload, hknown, hused, hfind]
        exact Or.inl ⟨exhausted wg, by simp only [hcall]⟩
      | some host =>
        have hcall : allocateIp wg (some peers) deviceId =
            (.ok host.text, some (peers.set deviceId host.text)) := by
          simp only [allocateIp, hload, hknown, hused, hfind]
        refine Or.inr ⟨host.text, ?_⟩
        simp only [hcall, hknown, Option.isSome_none, Bool.false_eq_true, if_false]
        rfl

/-! ## The invariant -/

/-- The mapping has every address that was returned. -/
def Records (peers : Peers) (log : List Event) : Prop :=
  ∀ deviceId ip, .returned deviceId ip ∈ log → peers.get? deviceId = some ip

/-- Between saves the file records what was returned; during one, `before` does,
and the text to be written is that of `before` with one device more. While it is
torn the file has less than that text. -/
def Inv (s : State) (log : List Event) : Prop :=
  match s.api with
  | .saving save phase =>
      save.after = save.before.set save.deviceId save.ip ∧
        save.before.get? save.deviceId = none ∧ Records save.before log ∧
        match phase with
        | .loaded => loadPeersFile s.file = some save.before
        | .writing _ => ∃ part rest, s.file = some (.ofList part) ∧
            part ++ rest = save.content ∧ rest ≠ []
        | .written => s.file = some (dumpPeers save.after)
  | _ => ∃ peers, loadPeersFile s.file = some peers ∧ Records peers log

/-- An address is added, none is changed. -/
theorem records_set {peers : Peers} {log : List Event} {deviceId : String} (ip : String)
    (records : Records peers log) (absent : peers.get? deviceId = none) :
    Records (peers.set deviceId ip) log := by
  intro other ip' hmem
  have hother := records other ip' hmem
  have hne : other ≠ deviceId := by
    rintro rfl
    rw [absent] at hother
    cases hother
  rw [Dict.get?_set_of_ne peers ip hne]
  exact hother

theorem records_append {peers : Peers} {log : List Event} {event : Event}
    (records : Records peers log)
    (new : ∀ deviceId ip, event = .returned deviceId ip → peers.get? deviceId = some ip) :
    Records peers (log ++ [event]) := by
  intro deviceId ip hmem
  rcases List.mem_append.mp hmem with hmem | hmem
  · exact records deviceId ip hmem
  · rw [List.mem_singleton] at hmem
    exact new deviceId ip hmem.symm

/-- Whoever reads the recorded mapping finds a returned address. -/
theorem resolve_recorded {file : Option String} {peers : Peers} {log : List Event}
    {deviceId ip : String} (loaded : loadPeersFile file = some peers)
    (records : Records peers log) (returned : .returned deviceId ip ∈ log) :
    TerminalUpgrade.resolve (file.bind readPeers) deviceId = some ip := by
  have hget := records deviceId ip returned
  cases file with
  | none =>
    cases loaded
    cases hget
  | some content =>
    have hread : readPeers content = some peers := loaded
    simp [TerminalUpgrade.resolve, hread, hget]

/-! ## One step -/

theorem truthful_append {log : List Event} {event : Event} (truthful : Truthful log)
    (upholds : ∀ deviceId ip, .returned deviceId ip ∈ log → Upholds deviceId ip event)
    (whole : LeavesWhole event) : Truthful (log ++ [event]) where
  answers := by
    intro before deviceId ip after hlog event' hmem
    rcases List.eq_nil_or_concat after with rfl | ⟨after', last, rfl⟩
    · cases hmem
    · have hsplit : log ++ [event] = (before ++ .returned deviceId ip :: after') ++ [last] := by
        rw [hlog]
        simp
      obtain ⟨hlog', hlast⟩ := List.append_inj' hsplit rfl
      rw [List.concat_eq_append, List.mem_append, List.mem_singleton] at hmem
      rcases hmem with hmem | rfl
      · exact truthful.answers before deviceId ip after' hlog' event' hmem
      · cases hlast
        exact upholds deviceId ip (by rw [hlog']; simp)
  crashes := by
    intro event' hmem
    rcases List.mem_append.mp hmem with hmem | hmem
    · exact truthful.crashes event' hmem
    · rw [List.mem_singleton] at hmem
      rw [hmem]
      exact whole

/-- Nothing is seen, and the invariant is kept. -/
theorem unseen {s : State} {log : List Event} (truthful : Truthful log) (inv : Inv s log) :
    Inv s (log ++ []) ∧ Truthful (log ++ []) := by
  rw [List.append_nil]
  exact ⟨inv, truthful⟩

theorem allocate_keeps (wg : WireGuardConfig) {s s' : State} {log events : List Event}
    {deviceId : String} (inv : Inv s log) (truthful : Truthful log)
    (h : step wg s (.allocate deviceId) = some (s', events)) :
    Inv s' (log ++ events) ∧ Truthful (log ++ events) := by
  obtain ⟨file, api⟩ := s
  cases api with
  | down => cases h
  | saving save phase => cases h
  | idle =>
    obtain ⟨peers, loaded, records⟩ := inv
    simp only [step] at h
    rcases allocate_cases wg loaded deviceId with
      ⟨ip, known, hcall⟩ | ⟨absent, ⟨error, hcall⟩ | ⟨ip, hcall⟩⟩
    · rw [hcall] at h
      cases h
      refine ⟨⟨peers, loaded, records_append records ?_⟩, truthful_append truthful ?_ trivial⟩
      · intro other ip' heq
        cases heq
        exact known
      · intro other ip' hmem heq
        subst heq
        have hother := records deviceId ip' hmem
        rw [known] at hother
        exact Option.some.inj hother
    · rw [hcall] at h
      cases h
      refine ⟨⟨peers, loaded, records_append records fun _ _ heq => by cases heq⟩,
        truthful_append truthful ?_ trivial⟩
      intro other ip' hmem
      refine ⟨?_, fun herror => by cases herror⟩
      rintro rfl
      have hother := records deviceId ip' hmem
      rw [absent] at hother
      cases hother
    · rw [hcall] at h
      cases h
      exact unseen truthful ⟨rfl, absent, records, loaded⟩

/-- Outside a save, and before and after its write, the file has what was
returned. -/
theorem inv_recorded {s : State} {log : List Event} (inv : Inv s log) (whole : ¬ Torn s) :
    ∃ peers, loadPeersFile s.file = some peers ∧ Records peers log := by
  obtain ⟨file, api⟩ := s
  cases api with
  | down => exact inv
  | idle => exact inv
  | saving save phase =>
    obtain ⟨hafter, absent, records, hphase⟩ := inv
    cases phase with
    | loaded => exact ⟨save.before, hphase, records⟩
    | writing done => exact absurd ⟨save, done, rfl⟩ whole
    | written =>
      have hfile : file = some (dumpPeers save.after) := hphase
      refine ⟨save.after, ?_, ?_⟩
      · rw [hfile]
        exact readPeers_dumpPeers save.after
      · rw [hafter]
        exact records_set save.ip records absent

/-- Before and after its write a save has the old or the new mapping on file. -/
theorem save_whole {file : Option String} {save : Save} {phase : Phase} {log : List Event}
    (inv : Inv ⟨file, .saving save phase⟩ log) (whole : ¬ Torn ⟨file, .saving save phase⟩) :
    LeavesWhole (.crashed save (loadPeersFile file)) := by
  obtain ⟨-, -, -, hphase⟩ := inv
  cases phase with
  | loaded => exact Or.inl hphase
  | writing done => exact absurd ⟨save, done, rfl⟩ whole
  | written =>
    have hfile : file = some (dumpPeers save.after) := hphase
    refine Or.inr ?_
    rw [hfile]
    exact readPeers_dumpPeers save.after

theorem crash_keeps (wg : WireGuardConfig) {s s' : State} {log events : List Event}
    (inv : Inv s log) (truthful : Truthful log) (whole : ¬ Torn s)
    (h : step wg s .crash = some (s', events)) :
    Inv s' (log ++ events) ∧ Truthful (log ++ events) := by
  obtain ⟨peers, loaded, records⟩ := inv_recorded inv whole
  obtain ⟨file, api⟩ := s
  cases api with
  | down => cases h
  | idle =>
    cases h
    exact unseen truthful inv
  | saving save phase =>
    cases h
    refine ⟨⟨peers, loaded, records_append records fun _ _ heq => by cases heq⟩, ?_⟩
    exact truthful_append truthful (fun _ _ _ => trivial) (save_whole inv whole)

theorem inv_append_resolved {s : State} {log : List Event} {deviceId : String}
    {answer : Option String} (inv : Inv s log) : Inv s (log ++ [.resolved deviceId answer]) := by
  have kept : ∀ peers, Records peers log → Records peers (log ++ [.resolved deviceId answer]) :=
    fun peers records => records_append records fun _ _ heq => by cases heq
  obtain ⟨file, api⟩ := s
  cases api with
  | down =>
    obtain ⟨peers, loaded, records⟩ := inv
    exact ⟨peers, loaded, kept peers records⟩
  | idle =>
    obtain ⟨peers, loaded, records⟩ := inv
    exact ⟨peers, loaded, kept peers records⟩
  | saving save phase =>
    obtain ⟨hafter, absent, records, hphase⟩ := inv
    exact ⟨hafter, absent, kept save.before records, hphase⟩

theorem resolve_keeps {s : State} {log : List Event} {deviceId : String} (inv : Inv s log)
    (truthful : Truthful log)
    (spared : Torn s → ∀ ip, .returned deviceId ip ∉ log) :
    let event := Event.resolved deviceId (TerminalUpgrade.resolve (s.file.bind readPeers) deviceId)
    Inv s (log ++ [event]) ∧ Truthful (log ++ [event]) := by
  refine ⟨inv_append_resolved inv, truthful_append truthful ?_ trivial⟩
  intro other ip hmem heq
  subst heq
  have whole : ¬ Torn s := fun torn => spared torn ip hmem
  obtain ⟨peers, loaded, records⟩ := inv_recorded inv whole
  exact resolve_recorded loaded records hmem

/-- The operations of a save. -/
theorem save_keeps (wg : WireGuardConfig) {s s' : State} {log events : List Event}
    {save : Save} {phase : Phase} {action : Action} (saving : s.api = .saving save phase)
    (inv : Inv s log) (truthful : Truthful log) (calm : action ≠ .crash)
    (quiet : ∀ deviceId, action ≠ .resolve deviceId)
    (h : step wg s action = some (s', events)) :
    Inv s' (log ++ events) ∧ Truthful (log ++ events) := by
  obtain ⟨file, api⟩ := s
  subst saving
  obtain ⟨hafter, absent, records, hphase⟩ := inv
  cases action with
  | allocate deviceId => cases h
  | truncate =>
    cases phase with
    | loaded =>
      cases h
      exact unseen truthful ⟨hafter, absent, records, [], save.content, rfl, rfl,
        content_ne_nil save⟩
    | writing done => cases h
    | written => cases h
  | writePrefix done =>
    cases phase with
    | loaded => cases h
    | written => cases h
    | writing sofar =>
      simp only [step] at h
      split at h
      next within =>
        cases h
        have hrest : save.content.drop done ≠ [] := by
          rw [ne_eq, List.drop_eq_nil_iff]
          omega
        exact unseen truthful ⟨hafter, absent, records, save.content.take done,
          save.content.drop done, rfl, List.take_append_drop done save.content, hrest⟩
      · cases h
  | writeRest =>
    cases phase with
    | loaded => cases h
    | written => cases h
    | writing sofar =>
      cases h
      refine unseen truthful ⟨hafter, absent, records, ?_⟩
      rw [Save.content, String.ofList_toList]
  | close =>
    cases phase with
    | loaded => cases h
    | writing done => cases h
    | written =>
      cases h
      have hfile : file = some (dumpPeers save.after) := hphase
      have hget : save.after.get? save.deviceId = some save.ip := by
        rw [hafter]
        exact Dict.get?_set_self _ _ _
      have recorded : Records save.after log := by
        rw [hafter]
        exact records_set save.ip records absent
      refine ⟨⟨save.after, ?_, records_append recorded ?_⟩, truthful_append truthful ?_ trivial⟩
      · rw [hfile]
        exact readPeers_dumpPeers save.after
      · intro deviceId ip heq
        cases heq
        exact hget
      · intro deviceId ip hmem heq
        subst heq
        have hbefore := records save.deviceId ip hmem
        rw [absent] at hbefore
        cases hbefore
  | crash => exact absurd rfl calm
  | restart => cases h
  | resolve deviceId => exact absurd rfl (quiet deviceId)

theorem step_keeps (wg : WireGuardConfig) {s s' : State} {log events : List Event}
    {action : Action} (inv : Inv s log) (truthful : Truthful log) (spares : Spares s log action)
    (h : step wg s action = some (s', events)) :
    Inv s' (log ++ events) ∧ Truthful (log ++ events) := by
  by_cases hcrash : action = .crash
  · subst hcrash
    exact crash_keeps wg inv truthful (fun torn => (spares torn).2 rfl) h
  · by_cases hresolve : ∃ deviceId, action = .resolve deviceId
    · obtain ⟨deviceId, rfl⟩ := hresolve
      cases h
      exact resolve_keeps inv truthful fun torn ip => (spares torn).1 deviceId ip rfl
    · have quiet : ∀ deviceId, action ≠ .resolve deviceId := fun deviceId heq =>
        hresolve ⟨deviceId, heq⟩
      cases hapi : s.api with
      | saving save phase => exact save_keeps wg hapi inv truthful hcrash quiet h
      | idle =>
        obtain ⟨file, api⟩ := s
        subst hapi
        cases action with
        | allocate deviceId => exact allocate_keeps wg inv truthful h
        | resolve deviceId => exact absurd rfl (quiet deviceId)
        | crash => exact absurd rfl hcrash
        | truncate => cases h
        | writePrefix done => cases h
        | writeRest => cases h
        | close => cases h
        | restart => cases h
      | down =>
        obtain ⟨file, api⟩ := s
        subst hapi
        cases action with
        | restart =>
          cases h
          exact unseen truthful inv
        | resolve deviceId => exact absurd rfl (quiet deviceId)
        | crash => cases h
        | allocate deviceId => cases h
        | truncate => cases h
        | writePrefix done => cases h
        | writeRest => cases h
        | close => cases h

/-! ## Runs -/

theorem run_keeps (wg : WireGuardConfig) (actions : List Action) {s s' : State}
    {log log' : List Event} (inv : Inv s log) (truthful : Truthful log)
    (careful : Careful wg (s, log) actions)
    (h : run wg (s, log) actions = some (s', log')) : Inv s' log' ∧ Truthful log' := by
  induction actions generalizing s log with
  | nil =>
    cases h
    exact ⟨inv, truthful⟩
  | cons action rest ih =>
    obtain ⟨spares, later⟩ := careful
    cases hstep : step wg s action with
    | none => simp [PeersFile.run, hstep] at h
    | some result =>
      obtain ⟨s₁, events⟩ := result
      obtain ⟨inv', truthful'⟩ := step_keeps wg inv truthful spares hstep
      rw [hstep] at later
      simp only [PeersFile.run, hstep] at h
      exact ih inv' truthful' later h

theorem start_inv (peers : Option Peers) : Inv (start peers) [] := by
  cases peers with
  | none => exact ⟨Dict.empty, rfl, fun _ _ h => by cases h⟩
  | some peers => exact ⟨peers, readPeers_dumpPeers peers, fun _ _ h => by cases h⟩

theorem truthful_nil : Truthful [] where
  answers := by
    intro before deviceId ip after h
    cases before <;> cases h
  crashes := by
    intro event h
    cases h

/-! ## The condition is needed -/

theorem truthful_of_append {log more : List Event} (truthful : Truthful (log ++ more)) :
    Truthful log where
  answers := by
    intro before deviceId ip after hlog event hmem
    refine truthful.answers before deviceId ip (after ++ more) ?_ event
      (List.mem_append_left _ hmem)
    rw [hlog]
    simp
  crashes := fun event hmem => truthful.crashes event (List.mem_append_left _ hmem)

theorem run_extends (wg : WireGuardConfig) (actions : List Action) {s s' : State}
    {log log' : List Event} (h : run wg (s, log) actions = some (s', log')) :
    ∃ more, log' = log ++ more := by
  induction actions generalizing s log with
  | nil =>
    cases h
    exact ⟨[], by simp⟩
  | cons action rest ih =>
    cases hstep : step wg s action with
    | none => simp [PeersFile.run, hstep] at h
    | some result =>
      simp only [PeersFile.run, hstep] at h
      obtain ⟨more, hmore⟩ := ih h
      exact ⟨result.2 ++ more, by rw [hmore, List.append_assoc]⟩

/-- While the file is torn nobody can read it. -/
theorem torn_unreadable {s : State} {log : List Event} (inv : Inv s log) (torn : Torn s) :
    s.file.bind readPeers = none ∧ loadPeersFile s.file = none := by
  obtain ⟨save, done, hapi⟩ := torn
  obtain ⟨file, api⟩ := s
  subst hapi
  obtain ⟨-, -, -, part, rest, hfile, hcut, hrest⟩ := inv
  have hnone : readPeers (.ofList part) = none := readPeers_cut hcut hrest
  have hfile' : file = some (.ofList part) := hfile
  subst hfile'
  exact ⟨hnone, hnone⟩

theorem upholds_of_truthful {log : List Event} {event : Event} {deviceId ip : String}
    (truthful : Truthful (log ++ [event])) (returned : .returned deviceId ip ∈ log) :
    Upholds deviceId ip event := by
  obtain ⟨before, after, rfl⟩ := List.append_of_mem returned
  apply truthful.answers before deviceId ip (after ++ [event])
  · simp
  · simp

/-- Whoever does not spare the file sees something untrue. -/
theorem spares_of_truthful (wg : WireGuardConfig) {s s' : State} {log events : List Event}
    {action : Action} (inv : Inv s log) (truthful : Truthful (log ++ events))
    (h : step wg s action = some (s', events)) : Spares s log action := by
  intro torn
  obtain ⟨unread, unloaded⟩ := torn_unreadable inv torn
  constructor
  · intro deviceId ip haction returned
    subst haction
    cases h
    have hanswer := upholds_of_truthful truthful returned rfl
    rw [unread] at hanswer
    cases hanswer
  · intro haction
    subst haction
    obtain ⟨save, done, hapi⟩ := torn
    simp only [step, hapi] at h
    cases h
    have hwhole := truthful.crashes (.crashed save (loadPeersFile s.file)) (by simp)
    rw [unloaded] at hwhole
    rcases hwhole with hwhole | hwhole <;> cases hwhole

theorem careful_of_truthful (wg : WireGuardConfig) (actions : List Action) {s s' : State}
    {log log' : List Event} (inv : Inv s log)
    (h : run wg (s, log) actions = some (s', log')) (truthful : Truthful log') :
    Careful wg (s, log) actions := by
  induction actions generalizing s log with
  | nil => trivial
  | cons action rest ih =>
    cases hstep : step wg s action with
    | none => simp [PeersFile.run, hstep] at h
    | some result =>
      obtain ⟨s₁, events⟩ := result
      simp only [PeersFile.run, hstep] at h
      obtain ⟨more, hmore⟩ := run_extends wg rest h
      have truthful₁ : Truthful (log ++ events) := by
        rw [hmore] at truthful
        exact truthful_of_append truthful
      have spares := spares_of_truthful wg inv truthful₁ hstep
      have inv₁ := (step_keeps wg inv (truthful_of_append truthful₁) spares hstep).1
      refine ⟨spares, ?_⟩
      rw [hstep]
      exact ih inv₁ h

/-- All that is seen in a run is true of it if and only if the run spares the
file while it is torn. -/
theorem seen_whole_iff (wg : WireGuardConfig) (peers : Option Peers) (actions : List Action)
    {s : State} {log : List Event} (reached : run wg (start peers, []) actions = some (s, log)) :
    Truthful log ↔ Careful wg (start peers, []) actions := by
  constructor
  · exact careful_of_truthful wg actions (start_inv peers) reached
  · intro careful
    exact (run_keeps wg actions (start_inv peers) truthful_nil careful reached).2

def cabinetNetwork : WireGuardConfig where
  subnet := .v4 (NetworkRange.containing (0x0A000000#32) 29 (by decide))
  serverIp := .v4 0x0A000001#32

/-- One save, then a look at its device. -/
theorem seen_whole_one_save :
    Truthful [.returned "device-a" "10.0.0.2", .resolved "device-a" (some "10.0.0.2")] ↔
      Careful cabinetNetwork (start none, []) [.restart, .allocate "device-a", .truncate,
        .writePrefix 5, .writeRest, .close, .resolve "device-a"] := by
  have hlog : (run cabinetNetwork (start none, []) [.restart, .allocate "device-a", .truncate,
      .writePrefix 5, .writeRest, .close, .resolve "device-a"]).map Prod.snd =
      some [.returned "device-a" "10.0.0.2", .resolved "device-a" (some "10.0.0.2")] := by
    decide +kernel
  obtain ⟨⟨s, log⟩, hrun, hsnd⟩ := Option.map_eq_some_iff.mp hlog
  subst hsnd
  exact seen_whole_iff cabinetNetwork none _ hrun

def secondSave : Save where
  deviceId := "device-b"
  ip := "10.0.0.3"
  before := Dict.empty.set "device-a" "10.0.0.2"
  after := (Dict.empty.set "device-a" "10.0.0.2").set "device-b" "10.0.0.3"

/-- While a second device is saved the first is not found, and once the process
has stopped there the next call cannot load the file. -/
theorem torn_between_saves :
    ∃ s log, run cabinetNetwork (start none, []) [.restart, .allocate "device-a", .truncate,
        .writeRest, .close, .allocate "device-b", .truncate, .resolve "device-a", .writePrefix 20,
        .crash, .restart, .allocate "device-a"] = some (s, log) ∧
      log = [.returned "device-a" "10.0.0.2", .resolved "device-a" none,
        .crashed secondSave none, .raised "device-a" .jsonDecodeError] ∧ ¬ Truthful log := by
  have hlog : (run cabinetNetwork (start none, []) [.restart, .allocate "device-a", .truncate,
      .writeRest, .close, .allocate "device-b", .truncate, .resolve "device-a", .writePrefix 20,
      .crash, .restart, .allocate "device-a"]).map Prod.snd =
      some [.returned "device-a" "10.0.0.2", .resolved "device-a" none,
        .crashed secondSave none, .raised "device-a" .jsonDecodeError] := by
    decide +kernel
  obtain ⟨⟨s, log⟩, hrun, hsnd⟩ := Option.map_eq_some_iff.mp hlog
  refine ⟨s, log, hrun, hsnd, ?_⟩
  subst hsnd
  intro truthful
  have hupholds := truthful.answers [] "device-a" "10.0.0.2" _ rfl (.resolved "device-a" none)
    (by simp) rfl
  cases hupholds

end CompleteDeviceManagement.Guarantees.PeersFile
