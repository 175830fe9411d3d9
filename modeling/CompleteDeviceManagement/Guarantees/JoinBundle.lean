import CompleteDeviceManagement.Guarantees.JoinContract

/-!
# What an approval and a handshake leave behind

One request with the service to itself, for every sequence of answers of the
services behind it: what is on file afterwards, and what the reply carries. A
`StepCAError` is noted and the pipeline goes on, so an approval is saved without
a certificate; a JOIN key is spent before the pipeline starts.
-/

set_option autoImplicit false

namespace CompleteDeviceManagement.Guarantees.JoinBundle
open CompleteDeviceManagement.Library CompleteDeviceManagement.Source.Models
  CompleteDeviceManagement.Source.Runtime CompleteDeviceManagement.Source.AdminPortal
  CompleteDeviceManagement.Source.JoinStore CompleteDeviceManagement.Source.JoinKeyStore
  CompleteDeviceManagement.Source.JoinRouter CompleteDeviceManagement.Source.Service
  CompleteDeviceManagement.Guarantees.Provisioning CompleteDeviceManagement.Guarantees.JoinContract
open CompleteDeviceManagement.Library.Fallible

abbrev JoinRun := Proc.Run World HttpRequest HttpResult Reply

/-- The complete run of a request; the services give the answers `ans`. -/
def served (env : Env) (ans : Nat → HttpResult) (w : World) (q : Request) : JoinRun :=
  (serve env q).solo ans 0 w

/-- The exchanges of the run. -/
def InRun (run : JoinRun) (request : HttpRequest) (result : HttpResult) : Prop :=
  (request, result) ∈ run.trace

/-! ## What is promised -/

/-- An approval saves a pending request with the certificate that the signer
answered, or with none and the failure noted; else no file changes. -/
def Approval (env : Env) (answered : HttpRequest → HttpResult → Prop) (tenantId : String)
    (w w' : World) (reply : Reply) : Prop :=
  (SameFiles w w' ∧ ∀ body, reply ≠ .approved body) ∨
    ∃ entry approvedAt p, (entries w).get? tenantId = some entry ∧ entry.status = .pending ∧
      reply = .approved
        { tenantId := tenantId, results := p.results, errors := p.errors, bundle := p } ∧
      w'.keys = w.keys ∧
      w'.requests = some ((entries w).set tenantId (approvedEntry entry approvedAt p)) ∧
      ((Certified answered entry.subCaCsr env.settings.stepCaSubCaProvisioner tenantId
          p.signedCert ∧ p.errors.get? "step_ca" = none) ∨
        (p.signedCert = .str "" ∧ p.errors.get? "step_ca" ≠ none))

/-- A handshake with an open, unexpired key spends it, whatever follows; any
other is refused with 401 and spends none. -/
def Handshake (env : Env) (answered : HttpRequest → HttpResult → Prop) (caller : Caller)
    (payload : JoinHandshakePayload) (w w' : World) (reply : Reply) : Prop :=
  w'.requests = w.requests ∧
    ((∃ entry usedAt, Presented env caller w entry ∧
        w'.keys = some ((table w).set (presentedKey env caller) (usedEntry entry usedAt)) ∧
        ∀ body, reply = .joined body →
          HandshakeBundle env answered entry.tenantId payload body) ∨
      ((∀ entry, ¬ Presented env caller w entry) ∧ reply.statusCode = 401 ∧
        (w'.keys = w.keys ∨ ∃ entry, (table w).get? (presentedKey env caller) = some entry ∧
          entry.status = .open ∧ w'.keys = some ((table w).set (presentedKey env caller)
            { entry with status := .expired }))))

/-! ## Solo runs of the handlers -/

section Solo

variable {w w' : World}

/-- The run of a request is the run of its handler. -/
theorem served_eq {env : Env} {ans : Nat → HttpResult} {q : Request} {α : Type} {x : App α}
    {reply : α → Reply} (h : handle env q = reply <$> x)
    {trace : List (HttpRequest × HttpResult)} {result : Except Raised α}
    (hx : x.run.solo ans 0 w = ⟨trace, w', some result⟩) :
    served env ans w q = ⟨trace, w', some (answer (result.map reply))⟩ := by
  have hrun : (reply <$> x).run = x.run.bind fun result => .ret (result.map reply) := by
    rw [map_eq_pure_bind, run_bind]
    congr 1
    funext result
    cases result <;> rfl
  unfold served serve
  rw [h, hrun, Proc.solo_bind, Proc.solo_bind, hx]
  simp [Proc.solo]

/-- A calm part comes back with its files, and with a result that its own
exchanges justify. -/
theorem calm_solo {α : Type} {x : App α} {calls : HttpRequest → Prop}
    {mid : (HttpRequest → HttpResult → Prop) → Except Raised α → Prop}
    (h : ∀ answers, Calm calls answers (mid answers) x) (free : Free w) (ans : Nat → HttpResult)
    (n : Nat) :
    ∃ trace w' result, x.run.solo ans n w = ⟨trace, w', some result⟩ ∧ Held w w' ∧
      mid (fun request answer => (request, answer) ∈ trace) result := by
  have keeps : ∀ v v' : World, Held w v → Undisturbed v v' → Held w v' :=
    fun _ _ held quiet => held.undisturbed quiet
  obtain ⟨held, -, result, hvalue, hmid⟩ := Proc.Quiet.solo ans
    (h fun request answer => (request, answer) ∈ (x.run.solo ans n w).trace) keeps n w
    (Held.refl free) (fun _ exchanged => exchanged)
  refine ⟨(x.run.solo ans n w).trace, (x.run.solo ans n w).state, result, ?_, held, hmid⟩
  rw [← hvalue]

/-- What follows a part that has come back, and exchanges nothing itself. -/
theorem solo_after {α β : Type} {x : App α} {f : α → App β} {ans : Nat → HttpResult} {n : Nat}
    {trace : List (HttpRequest × HttpResult)} {result : Except Raised α}
    {result' : Except Raised β} {w'' : World}
    (hx : x.run.solo ans n w = ⟨trace, w', some result⟩)
    (hf : Proc.RunsTo (onward f result) w' result' w'') :
    (x >>= f).run.solo ans n w = ⟨trace, w'', some result'⟩ := by
  have hrest := Proc.solo_of_runsTo (f := .ret) hf ans (n + trace.length)
  rw [Proc.bind_ret] at hrest
  rw [run_bind, Proc.solo_bind, hx]
  simp [hrest, Proc.solo]

end Solo

/-! ## `approve_join_request` -/

/-- A run that ended at once, before anything happened. -/
theorem approval_refused {env : Env} {tenantId : String} {w : World} (raised : Raised) :
    Approval env (fun request answer => (request, answer) ∈ []) tenantId w w
      (answer (Except.map Reply.approved (.error raised))) := by
  refine Or.inl ⟨.refl w, fun body => ?_⟩
  cases raised <;> exact Reply.noConfusion

theorem approveJoinRequest_solo (env : Env) (ans : Nat → HttpResult) {w : World} (free : Free w)
    (caller : Caller) (tenantId : String) :
    ∃ trace w' result,
      (approveJoinRequest env caller tenantId).run.solo ans 0 w = ⟨trace, w', some result⟩ ∧
      Approval env (fun request answer => (request, answer) ∈ trace) tenantId w w'
        (answer (result.map .approved)) := by
  unfold approveJoinRequest
  rw [solo_of_runs (language_runs _ w)]
  cases getCdmAdmin caller with
  | error error => exact ⟨[], w, _, rfl, approval_refused _⟩
  | ok user =>
    simp only [Except.mapError, onward_ok]
    rw [solo_of_runs (getRequest_runs free)]
    cases begun : (entries w).get? tenantId with
    | none => exact ⟨[], w, _, rfl, approval_refused _⟩
    | some entry =>
      simp only [onward_ok]
      by_cases happroved : entry.status = .approved
      · rw [if_pos happroved]
        exact ⟨[], w, _, rfl, approval_refused _⟩
      · by_cases hrejected : entry.status = .rejected
        · rw [if_neg happroved, if_pos hrejected]
          exact ⟨[], w, _, rfl, approval_refused _⟩
        · rw [if_neg happroved, if_neg hrejected]
          have pending : entry.status = .pending := by
            cases hstatus : entry.status with
            | pending => rfl
            | approved => exact absurd hstatus happroved
            | rejected => exact absurd hstatus hrejected
          obtain ⟨trace, v, result, hsolo, held, bundle⟩ := calm_solo
            (fun answers => provision_calm env answers tenantId entry.subCaCsr
              entry.mqttBridgeCsr entry.keycloakUrl) free ans 0
          cases result with
          | error raised =>
            refine ⟨trace, v, .error raised, solo_after hsolo (Proc.RunsTo.ret _ _), ?_⟩
            refine Or.inl ⟨held.same, fun body => ?_⟩
            cases raised <;> exact Reply.noConfusion
          | ok p =>
            refine ⟨trace,
              { v with
                ticks := v.ticks + 1
                requests := some ((entries v).set tenantId
                  (approvedEntry entry (env.clock v.ticks) p)) },
              .ok { tenantId := tenantId, results := p.results, errors := p.errors, bundle := p },
              solo_after hsolo ?_, Or.inr ⟨entry, env.clock v.ticks, p, begun, pending, rfl,
                held.same.keys, ?_, (bundle p rfl).subCa⟩⟩
            · refine runsTo_bind (loadStore_runs held.free.store) ?_
              rw [held.same.entries, begun]
              refine runsTo_bind (now_runs env v) ?_
              exact runsTo_bind (saveStore_runs _ held.free.store) (Proc.RunsTo.ret _ _)
            · rw [held.same.entries]

/-! ## `join_handshake` -/

/-- A key that does not open the door is refused with 401. -/
theorem handshake_refused {env : Env} {caller : Caller} {payload : JoinHandshakePayload}
    {w w' : World} {reply : Reply} (refused : ∀ entry, ¬ Presented env caller w entry)
    (hreply : reply.statusCode = 401) (requests : w'.requests = w.requests)
    (keys : w'.keys = w.keys ∨ ∃ entry, (table w).get? (presentedKey env caller) = some entry ∧
      entry.status = .open ∧ w'.keys = some ((table w).set (presentedKey env caller)
        { entry with status := .expired })) :
    Handshake env (fun request answer => (request, answer) ∈ []) caller payload w w' reply :=
  ⟨requests, Or.inr ⟨refused, hreply, keys⟩⟩

theorem joinHandshake_solo (env : Env) (ans : Nat → HttpResult) {w : World} (free : Free w)
    (caller : Caller) (payload : JoinHandshakePayload) :
    ∃ trace w' result,
      (joinHandshake env caller payload).run.solo ans 0 w = ⟨trace, w', some result⟩ ∧
      Handshake env (fun request answer => (request, answer) ∈ trace) caller payload w w'
        (answer (result.map .joined)) := by
  dsimp only [joinHandshake]
  by_cases missing : presentedKey env caller = ""
  · rw [if_pos missing]
    exact ⟨[], w, .error _, rfl, handshake_refused
      (fun entry presented => presented.given missing) rfl rfl (Or.inl rfl)⟩
  · rw [if_neg missing]
    rw [solo_of_runs
      (runsTo_attempt _ (validateAndConsume_runs env (presentedKey env caller) free.key))]
    rcases validateEffect_cases env (presentedKey env caller) w with
      ⟨notOpen, error, ⟨text, kind⟩, he⟩ | ⟨entry, stored, isOpen, late, he⟩ |
      ⟨entry, stored, isOpen, inTime, he⟩
    · rw [he]
      have refused : ∀ entry, ¬ Presented env caller w entry :=
        fun entry presented => notOpen entry presented.stored presented.isOpen
      rcases kind with rfl | rfl
      · exact ⟨[], w, .error _, rfl, handshake_refused refused rfl rfl (Or.inl rfl)⟩
      · exact ⟨[], w, .error _, rfl, handshake_refused refused rfl rfl (Or.inl rfl)⟩
    · rw [he]
      have refused : ∀ entry, ¬ Presented env caller w entry := by
        intro entry' presented
        have hstored := presented.stored
        rw [stored] at hstored
        cases hstored
        exact absurd late (Nat.not_lt.mpr presented.inTime)
      exact ⟨[], _, .error _, rfl, handshake_refused refused rfl rfl
        (Or.inr ⟨entry, stored, isOpen, rfl⟩)⟩
    · rw [he]
      have free' : Free (⟨w.requests, some ((table w).set (presentedKey env caller)
          (usedEntry entry (env.clock (w.ticks + 1)))), w.storeLocked, w.keyLocked, w.ticks + 2,
          w.choices⟩ : World) := ⟨free.store, free.key⟩
      obtain ⟨trace, v, result, hsolo, held, bundle⟩ := calm_solo
        (fun answers => runProvisioning_calm env answers entry.tenantId payload) free' ans 0
      refine ⟨trace, v, result, hsolo, held.same.requests, Or.inl ⟨entry, env.clock (w.ticks + 1),
        ⟨missing, stored, isOpen, inTime⟩, held.same.keys, fun body hbody => ?_⟩⟩
      cases result with
      | ok joined =>
        cases hbody
        exact bundle body rfl
      | error raised => exact absurd hbody (answer_error_ne_joined raised body)

/-! ## Results -/

/-- A pending request of the tenant `acme`. -/
def oneRequest : World :=
  (served Env.counting (fun _ => unreachable) World.empty (submission "csr")).state

/-- An open key for the tenant `acme`. -/
def oneKey : World :=
  { World.empty with
    keys := some (Dict.empty.set "K-1" (openEntry "K-1" "acme" "Acme" ⟨63892281600000000⟩)) }

def holder : Caller := ⟨.null, none, some "K-1"⟩

/-- step-ca lists no provisioner, and nothing else can be reached. -/
def noSigner : Nat → HttpResult
  | 0 => noProvisioners
  | _ => unreachable

end CompleteDeviceManagement.Guarantees.JoinBundle
