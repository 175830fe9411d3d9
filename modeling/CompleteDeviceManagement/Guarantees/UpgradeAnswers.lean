import CompleteDeviceManagement.Guarantees.DeviceLookup
import CompleteDeviceManagement.Source.TerminalListener

/-!
# One answer to an upgrade request

Two operations of the listener are partial: reading the request target as a URL,
and opening the connection to what the peers file has for the device. On every
request where neither fails, the listener ends without an exception in exactly
one of its four answers.
-/

set_option autoImplicit false

namespace CompleteDeviceManagement.Guarantees.UpgradeAnswers
open CompleteDeviceManagement.Library CompleteDeviceManagement.Source
  CompleteDeviceManagement.Source.IpResolver CompleteDeviceManagement.Source.TerminalListener
open CompleteDeviceManagement.Source.TerminalUpgrade (Host Url parseDeviceId)

/-! ## The four answers -/

inductive Answer where
  | notFound
  | unauthorized
  | unknownDevice
  | handOver

section Requests

variable {R : Type} (host : Host R) (engine : Engine) (newWebSocket : String → Bool)
  (ttydPort : Nat) (request : R) (settled : Settled)

/-- The device that the path of the target names. -/
def deviceOf : Option String :=
  (host.newUrl (host.rawUrl request)).bind fun parsed => parseDeviceId parsed.pathname

/-- A token that is there and not empty. -/
def tokenOf : Option String :=
  ((host.newUrl (host.rawUrl request)).bind fun parsed => parsed.param "token").filter (· ≠ "")

/-- What the peers file has for a device, if that is truthy. -/
def knownIp (deviceId : String) : Option JsValue :=
  (resolve engine settled.content deviceId).filter (truthy engine)

/-- The answer was given, and for its reason. A request that is handed over is
answered by ws, which connects it if the handshake completes. -/
def Gives (ending : Ending) : Answer → Prop
  | .notFound => ending.effects = [.rejectUpgrade 404 "Not Found"] ∧ deviceOf host request = none
  | .unauthorized => ending.effects = [.rejectUpgrade 401 "Unauthorized"] ∧
      (tokenOf host request = none ∨ ∃ error, settled.verified = .error error)
  | .unknownDevice => ending.effects = [.rejectUpgrade 404 "Device Not Found"] ∧
      ∃ deviceId, deviceOf host request = some deviceId ∧ knownIp engine settled deviceId = none
  | .handOver => ∃ deviceId vpnIp, deviceOf host request = some deviceId ∧
      knownIp engine settled deviceId = some vpnIp ∧
      if completes host request settled then
        ∃ text, textOf engine vpnIp = some text ∧
          ending.effects =
            [.handleUpgrade, .connect ("ws://" ++ text ++ ":" ++ toString ttydPort)]
      else ending.effects = [.handleUpgrade]

/-- Exactly one answer, and nothing escapes the listener. -/
def AnsweredOnce : Prop :=
  (onUpgrade host engine newWebSocket ttydPort request settled).escaped = false ∧
    ∃! answer, Gives host engine ttydPort request settled
      (onUpgrade host engine newWebSocket ttydPort request settled) answer

/-- The value has a text, and the constructor takes the URL made of it. -/
def Opens (vpnIp : JsValue) : Prop :=
  ∃ text, textOf engine vpnIp = some text ∧
    newWebSocket ("ws://" ++ text ++ ":" ++ toString ttydPort) = true

/-- Path, token and file have let the request through. -/
structure Admitted (deviceId token : String) (payload : Json) (vpnIp : JsValue) : Prop where
  device : deviceOf host request = some deviceId
  given : tokenOf host request = some token
  verified : settled.verified = .ok payload
  known : knownIp engine settled deviceId = some vpnIp

/-- The target is a URL; and if the request is let through and its handshake
completes, what the file has for the device opens. -/
def Openable : Prop :=
  (host.newUrl (host.rawUrl request)).isSome = true ∧
    ∀ deviceId token payload vpnIp,
      Admitted host engine request settled deviceId token payload vpnIp →
      completes host request settled = true → Opens engine newWebSocket ttydPort vpnIp

end Requests

/-! ## How the listener ends -/

section Endings

variable {R : Type} {host : Host R} {engine : Engine} {newWebSocket : String → Bool}
  {ttydPort : Nat} {request : R} {settled : Settled}

/-- The answer that a list of effects can only be. -/
def answerBy : List Effect → Option Answer
  | .rejectUpgrade statusCode statusText :: _ =>
      if statusCode = 401 then some .unauthorized
      else if statusText = "Not Found" then some .notFound
      else some .unknownDevice
  | .handleUpgrade :: _ => some .handOver
  | _ => none

theorem answerBy_of_gives {ending : Ending} {answer : Answer}
    (h : Gives host engine ttydPort request settled ending answer) :
    answerBy ending.effects = some answer := by
  cases answer with
  | notFound =>
    rw [h.1]
    rfl
  | unauthorized =>
    rw [h.1]
    rfl
  | unknownDevice =>
    rw [h.1]
    rfl
  | handOver =>
    obtain ⟨_, _, _, _, effects⟩ := h
    split at effects
    · obtain ⟨text, _, effects⟩ := effects
      rw [effects]
      rfl
    · rw [effects]
      rfl

theorem once_of_gives {s : Answer}
    (calm : (onUpgrade host engine newWebSocket ttydPort request settled).escaped = false)
    (h : Gives host engine ttydPort request settled
      (onUpgrade host engine newWebSocket ttydPort request settled) s) :
    AnsweredOnce host engine newWebSocket ttydPort request settled := by
  refine ⟨calm, s, h, ?_⟩
  intro other h'
  have same := (answerBy_of_gives h').symm.trans (answerBy_of_gives h)
  exact Option.some.inj same

theorem openDevice_of_opens {vpnIp : JsValue} (opens : Opens engine newWebSocket ttydPort vpnIp) :
    ∃ text, textOf engine vpnIp = some text ∧ openDevice engine newWebSocket ttydPort vpnIp =
      ⟨[.handleUpgrade, .connect ("ws://" ++ text ++ ":" ++ toString ttydPort)], false⟩ := by
  obtain ⟨text, htext, taken⟩ := opens
  refine ⟨text, htext, ?_⟩
  unfold openDevice
  simp only [htext, taken, if_true]

theorem opens_of_calm {vpnIp : JsValue}
    (calm : (openDevice engine newWebSocket ttydPort vpnIp).escaped = false) :
    Opens engine newWebSocket ttydPort vpnIp := by
  cases htext : textOf engine vpnIp with
  | none =>
    rw [openDevice, htext] at calm
    cases calm
  | some text =>
    refine ⟨text, htext, ?_⟩
    simp only [openDevice, htext] at calm
    split at calm
    next taken => exact taken
    · cases calm

/-- The listener throws at the target, rejects the request, or hands it over. -/
theorem onUpgrade_cases (host : Host R) (engine : Engine) (newWebSocket : String → Bool)
    (ttydPort : Nat) (request : R) (settled : Settled) :
    (host.newUrl (host.rawUrl request) = none ∧
      onUpgrade host engine newWebSocket ttydPort request settled = ⟨[], true⟩) ∨
    ((host.newUrl (host.rawUrl request)).isSome = true ∧
      AnsweredOnce host engine newWebSocket ttydPort request settled ∧
      ∀ deviceId token payload vpnIp,
        ¬ Admitted host engine request settled deviceId token payload vpnIp) ∨
    ((host.newUrl (host.rawUrl request)).isSome = true ∧ ∃ deviceId token payload vpnIp,
      Admitted host engine request settled deviceId token payload vpnIp ∧
      onUpgrade host engine newWebSocket ttydPort request settled =
        if completes host request settled then openDevice engine newWebSocket ttydPort vpnIp
        else ⟨[.handleUpgrade], false⟩) := by
  cases htarget : host.newUrl (host.rawUrl request) with
  | none =>
    left
    exact ⟨rfl, by simp only [onUpgrade, htarget]⟩
  | some parsed =>
    right
    have hdevice : deviceOf host request = parseDeviceId parsed.pathname := by
      rw [deviceOf, htarget, Option.bind_some]
    have htoken : tokenOf host request = (parsed.param "token").filter (· ≠ "") := by
      rw [tokenOf, htarget, Option.bind_some]
    cases hroute : parseDeviceId parsed.pathname with
    | none =>
      have ends : onUpgrade host engine newWebSocket ttydPort request settled =
          ⟨[.rejectUpgrade 404 "Not Found"], false⟩ := by
        simp only [onUpgrade, htarget, hroute]
      rw [hroute] at hdevice
      refine .inl ⟨rfl, ?_, ?_⟩
      · exact once_of_gives (s := .notFound) (by rw [ends]) (by rw [ends]; exact ⟨rfl, hdevice⟩)
      · intro _ _ _ _ admitted
        cases hdevice.symm.trans admitted.device
    | some deviceId =>
      rw [hroute] at hdevice
      cases hquery : (parsed.param "token").filter (· ≠ "") with
      | none =>
        have ends : onUpgrade host engine newWebSocket ttydPort request settled =
            ⟨[.rejectUpgrade 401 "Unauthorized"], false⟩ := by
          simp only [onUpgrade, htarget, hroute, hquery]
        rw [hquery] at htoken
        refine .inl ⟨rfl, ?_, ?_⟩
        · exact once_of_gives (s := .unauthorized) (by rw [ends])
            (by rw [ends]; exact ⟨rfl, .inl htoken⟩)
        · intro _ _ _ _ admitted
          cases htoken.symm.trans admitted.given
      | some token =>
        rw [hquery] at htoken
        cases hverified : settled.verified with
        | error error =>
          have ends : onUpgrade host engine newWebSocket ttydPort request settled =
              ⟨[.rejectUpgrade 401 "Unauthorized"], false⟩ := by
            simp only [onUpgrade, htarget, hroute, hquery, hverified]
          refine .inl ⟨rfl, ?_, ?_⟩
          · exact once_of_gives (s := .unauthorized) (by rw [ends])
              (by rw [ends]; exact ⟨rfl, .inr ⟨error, hverified⟩⟩)
          · intro _ _ _ _ admitted
            cases hverified.symm.trans admitted.verified
        | ok payload =>
          cases hknown : knownIp engine settled deviceId with
          | none =>
            have ends : onUpgrade host engine newWebSocket ttydPort request settled =
                ⟨[.rejectUpgrade 404 "Device Not Found"], false⟩ := by
              unfold knownIp at hknown
              simp only [onUpgrade, htarget, hroute, hquery, hverified, hknown]
            refine .inl ⟨rfl, ?_, ?_⟩
            · exact once_of_gives (s := .unknownDevice) (by rw [ends])
                (by rw [ends]; exact ⟨rfl, deviceId, hdevice, hknown⟩)
            · intro _ _ _ _ admitted
              cases Option.some.inj (hdevice.symm.trans admitted.device)
              cases hknown.symm.trans admitted.known
          | some vpnIp =>
            refine .inr ⟨rfl, deviceId, token, payload, vpnIp,
              ⟨hdevice, htoken, hverified, hknown⟩, ?_⟩
            unfold knownIp at hknown
            simp only [onUpgrade, htarget, hroute, hquery, hverified, hknown]

/-! ## Exactly when there is one answer -/

theorem handed_iff {deviceId : String} {vpnIp : JsValue}
    (hdevice : deviceOf host request = some deviceId)
    (hknown : knownIp engine settled deviceId = some vpnIp)
    (ends : onUpgrade host engine newWebSocket ttydPort request settled =
      if completes host request settled then openDevice engine newWebSocket ttydPort vpnIp
      else ⟨[.handleUpgrade], false⟩) :
    AnsweredOnce host engine newWebSocket ttydPort request settled ↔
      (completes host request settled = true → Opens engine newWebSocket ttydPort vpnIp) := by
  cases hcompletes : completes host request settled with
  | false =>
    rw [hcompletes, if_neg Bool.false_ne_true] at ends
    constructor
    · intro _ completed
      cases completed
    · intro _
      refine once_of_gives (s := .handOver) (by rw [ends]) ?_
      refine ⟨deviceId, vpnIp, hdevice, hknown, ?_⟩
      rw [hcompletes, if_neg Bool.false_ne_true, ends]
  | true =>
    rw [hcompletes, if_pos rfl] at ends
    constructor
    · intro once _
      have calm := once.1
      rw [ends] at calm
      exact opens_of_calm calm
    · intro opens
      obtain ⟨text, htext, opened⟩ := openDevice_of_opens (opens rfl)
      rw [opened] at ends
      refine once_of_gives (s := .handOver) (by rw [ends]) ?_
      refine ⟨deviceId, vpnIp, hdevice, hknown, ?_⟩
      rw [hcompletes, if_pos rfl, ends]
      exact ⟨text, htext, rfl⟩

end Endings

theorem answered_once_iff {R : Type} (host : Host R) (engine : Engine)
    (newWebSocket : String → Bool) (ttydPort : Nat) (request : R) (settled : Settled) :
    AnsweredOnce host engine newWebSocket ttydPort request settled ↔
      Openable host engine newWebSocket ttydPort request settled := by
  rcases onUpgrade_cases host engine newWebSocket ttydPort request settled with
    ⟨htarget, ends⟩ | ⟨htarget, once, none⟩ |
      ⟨htarget, deviceId, token, payload, vpnIp, admitted, ends⟩
  · apply iff_of_false
    · intro once
      have calm := once.1
      rw [ends] at calm
      cases calm
    · intro openable
      have url := openable.1
      rw [htarget] at url
      cases url
  · apply iff_of_true once
    refine ⟨htarget, ?_⟩
    intro _ _ _ _ admitted
    exact absurd admitted (none _ _ _ _)
  · rw [handed_iff admitted.device admitted.known ends]
    constructor
    · intro opens
      refine ⟨htarget, ?_⟩
      intro deviceId' _ _ vpnIp' admitted' completed
      cases Option.some.inj (admitted.device.symm.trans admitted'.device)
      cases Option.some.inj (admitted.known.symm.trans admitted'.known)
      exact opens completed
    · intro openable completed
      exact openable.2 deviceId token payload vpnIp admitted completed

/-! ## A target that is no URL -/

/-- The request target is `//`, where a host would have to follow. -/
def slashes : Host Unit where
  rawUrl := fun _ => "//"
  newUrl := fun text => if text = "//" then none else some ⟨text, []⟩
  refuses := fun _ => none

theorem slashes_escape :
    onUpgrade slashes DeviceLookup.textEngine (fun _ => true) 7681 () ⟨.error "", none, false⟩ =
      ⟨[], true⟩ ∧
    ¬ AnsweredOnce slashes DeviceLookup.textEngine (fun _ => true) 7681 ()
      ⟨.error "", none, false⟩ := by
  have ends : onUpgrade slashes DeviceLookup.textEngine (fun _ => true) 7681 ()
      ⟨.error "", none, false⟩ = ⟨[], true⟩ := by decide
  refine ⟨ends, ?_⟩
  intro once
  have calm := once.1
  rw [ends] at calm
  cases calm

end CompleteDeviceManagement.Guarantees.UpgradeAnswers
