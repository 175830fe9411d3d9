import CompleteDeviceManagement.Guarantees.JoinContract
import CompleteDeviceManagement.Library.JsonText
import CompleteDeviceManagement.Library.Utf8
import CompleteDeviceManagement.Source.Portal

/-!
# The claims behind a Bearer token

Two places decode the payload of a token. `_decode_jwt_payload` uses the
URL-safe alphabet; `_require_cdm_admin` uses the standard one, for which the
characters `-` and `_` of a payload are not there. It decides on the claims of
the token exactly if what is left without them still loads to the same claims.
-/

set_option autoImplicit false

namespace CompleteDeviceManagement.Guarantees.BearerClaims
open CompleteDeviceManagement.Library CompleteDeviceManagement.Source.Runtime
  CompleteDeviceManagement.Source.AdminPortal
open CompleteDeviceManagement.Library.Fallible
open CompleteDeviceManagement.Source.Portal (decodeJwtPayload)

/-! ## Tokens -/

/-- `header.payload.signature`, the payload being bytes in unpadded base64url. -/
structure Token where
  header : List Char
  bytes : List UInt8
  signature : List Char
  headerPlain : '.' ∉ header

def Token.payload (token : Token) : List Char := Base64.encode Base64.urlSymbol token.bytes

def Token.text (token : Token) : String :=
  .ofList (token.header ++ '.' :: (token.payload ++ '.' :: token.signature))

theorem payload_plain (token : Token) : ∀ c ∈ token.payload, c.toNat < 128 ∧ c ≠ '.' := by
  intro c hc
  obtain ⟨v, hv, rfl⟩ := Base64.mem_encode hc
  exact Base64.urlSymbol_plain v hv

theorem second_part (token : Token) : (token.text.toList.splitOn '.')[1]? = some token.payload := by
  have dot : '.' ∉ token.payload := fun h => (payload_plain token _ h).2 rfl
  rw [Token.text, String.toList_ofList,
    List.splitOn_append_cons_self_of_not_mem token.headerPlain,
    List.splitOn_append_cons_self_of_not_mem dot]
  rfl

theorem ascii_padded (token : Token) (pads : Nat) :
    (token.payload ++ List.replicate pads '=').all (fun c => c.toNat < 128) = true := by
  rw [List.all_eq_true]
  intro c hc
  rcases List.mem_append.mp hc with h | h
  · simpa using (payload_plain token c h).1
  · rw [List.eq_of_mem_replicate h]
    decide

/-! ## The two decoders -/

/-- Both decoders add pads enough. -/
theorem missing_le (token : Token) :
    Base64.missing token.bytes ≤ (-(token.payload.length : Int) % 4).toNat ∧
      Base64.missing token.bytes ≤ 4 - token.payload.length % 4 := by
  have hlength := Base64.length_encode Base64.urlSymbol token.bytes
  unfold Base64.missing Token.payload
  split at hlength <;> omega

/-- `_decode_jwt_payload` has the claims of every token. -/
theorem decodeJwtPayload_text (loads : List UInt8 → Option Json) (token : Token) :
    decodeJwtPayload loads token.text = (loads token.bytes).getD (.obj []) := by
  unfold decodeJwtPayload
  rw [second_part]
  dsimp only
  have translated : ∀ pads, (token.payload ++ List.replicate pads '=').map Base64.translate =
      Base64.encode Base64.symbol token.bytes ++ List.replicate pads '=' := by
    intro pads
    have pad : Base64.translate '=' = '=' := by decide
    rw [List.map_append, Token.payload, Base64.map_translate, List.map_replicate, pad]
  unfold Base64.urlsafeB64decode
  rw [String.toList_ofList, ascii_padded, if_pos rfl, translated,
    Base64.scan_encode (missing_le token).1]
  rfl

/-- The payload without the characters that only the URL-safe alphabet has. -/
def Token.stripped (token : Token) : List Char := token.payload.filter fun c => !Base64.urlOnly c

/-- What a decoder of standard base64 makes of the stripped payload, with the
pads that the whole one is given. -/
def Token.leftover (token : Token) : Option (List UInt8) :=
  Base64.scan 0 0 0 (token.stripped ++ List.replicate (4 - token.payload.length % 4) '=')

theorem tokenClaims_text {env : Env} {loads : List UInt8 → Option Json}
    (decodes : ∀ text, env.loadsBase64 text = (Base64.b64decode text).bind loads) (token : Token) :
    tokenClaims env token.text = token.leftover.bind loads := by
  unfold tokenClaims
  rw [second_part]
  dsimp only
  have filtered : (token.payload ++ List.replicate (4 - token.payload.length % 4) '=').filter
      (fun c => !Base64.urlOnly c) =
        token.stripped ++ List.replicate (4 - token.payload.length % 4) '=' := by
    have pad : Base64.urlOnly '=' = false := by decide
    rw [List.filter_append, List.filter_replicate, pad]
    rfl
  rw [decodes]
  unfold Base64.b64decode
  rw [String.toList_ofList, ascii_padded, if_pos rfl, ← Base64.scan_without_urlOnly, filtered]
  rfl

/-- Neither `-` nor `_` occurs. -/
def Token.Plain (token : Token) : Prop := '-' ∉ token.payload ∧ '_' ∉ token.payload

theorem leftover_plain {token : Token} (plain : token.Plain) :
    token.leftover = some token.bytes := by
  have noUrl : ∀ c ∈ token.payload, Base64.urlOnly c = false := by
    intro c hc
    rw [Base64.urlOnly, Bool.or_eq_false_iff, beq_eq_false_iff_ne, beq_eq_false_iff_ne]
    exact ⟨fun h => plain.1 (h ▸ hc), fun h => plain.2 (h ▸ hc)⟩
  have whole : token.stripped = token.payload := by
    apply List.filter_eq_self.mpr
    intro c hc
    rw [noUrl c hc]
    rfl
  have standard : token.payload = Base64.encode Base64.symbol token.bytes := by
    rw [← Base64.translate_id noUrl, Token.payload, Base64.map_translate]
  unfold Token.leftover
  rw [whole]
  nth_rewrite 1 [standard]
  exact Base64.scan_encode (missing_le token).2

/-! ## The verdict -/

/-- The roles that claims carry, as far as they can be read. -/
def rolesIn (claims : Json) : List Json :=
  match claimedRoles claims with
  | .error _ => []
  | .ok roles =>
      match roles.iter with
      | .error _ => []
      | .ok items => items

def Admin (claims : Json) : Prop :=
  (rolesIn claims).any (fun role => adminRoles.any fun name => role.isText name) = true

/-- The roles are where the guard looks for them: in an object if there is a
`realm_access`, and iterable, of items that a set can hold. -/
def Readable (claims : Json) : Prop :=
  ∃ roles items, claimedRoles claims = .ok roles ∧ roles.iter = .ok items ∧
    ∀ item ∈ items, item.hashable = true

def denied : Raised :=
  .httpException 403 "Access denied – cdm-admin or platform-admin role required"

/-- The verdict on the claims, for a caller without a session whose token
Keycloak accepts: a user for an admin and 403 for anyone else. It is reached on
the claims that the portal's decoder has. -/
structure Decided (env : Env) (loads : List UInt8 → Option Json) (token : Token) (claims : Json) :
    Prop where
  same : tokenClaims env token.text = some (decodeJwtPayload loads token.text)
  verdict : ∀ caller r w, caller.user.truthy = false →
    caller.authorization = some ("Bearer " ++ token.text) → r.isSuccess = true →
      ∃ result, ((requireCdmAdmin env caller).run.solo (fun _ => .response r) 0 w).value =
          some result ∧
        (Admin claims → ∃ user, result = .ok user) ∧ (¬ Admin claims → result = .error denied)

theorem guard_value {env : Env} {caller : Caller} {token : String} {r : Response} (w : World)
    (sessionless : caller.user.truthy = false)
    (presented : caller.authorization = some ("Bearer " ++ token)) :
    ((requireCdmAdmin env caller).run.solo (fun _ => .response r) 0 w).value =
      some (bearerUser env token r) := by
  have guard : getCdmAdmin caller = .ok none := by
    simp [getCdmAdmin, sessionless]
  have bearer : bearerToken caller = some token := by
    simp [bearerToken, presented]
  have asks : requireCdmAdmin env caller = (do
      let r ← exchange (.keycloakUserinfo env.settings.keycloakUrl token)
      settled (bearerUser env token r)) := by
    have none : language (.ok none : Except PyError (Option Json)) = pure none := rfl
    unfold requireCdmAdmin
    rw [guard, none, pure_bind, bearer]
  rw [asks]
  rfl

theorem meets_of_hashable {roles : Json} {items : List Json} (iter : roles.iter = .ok items)
    (hashable : ∀ item ∈ items, item.hashable = true) :
    roles.meets adminRoles =
      .ok (items.any fun role => adminRoles.any fun name => role.isText name) := by
  have none : items.find? (fun v => !v.hashable) = none := by
    apply List.find?_eq_none.mpr
    intro item hitem
    simp [hashable item hitem]
  simp [Json.meets, iter, none, bind, Except.bind]

theorem readable_of_meets {roles : Json} {admitted : Bool}
    (h : roles.meets adminRoles = .ok admitted) :
    ∃ items, roles.iter = .ok items ∧ ∀ item ∈ items, item.hashable = true := by
  unfold Json.meets at h
  cases iter : roles.iter with
  | error error => simp [iter, bind, Except.bind] at h
  | ok items =>
    refine ⟨items, rfl, ?_⟩
    cases found : items.find? (fun v => !v.hashable) with
    | some item => simp [iter, found, bind, Except.bind] at h
    | none => simpa using List.find?_eq_none.mp found

theorem verdict_readable {env : Env} {token : String} {r : Response} {claims : Json}
    (success : r.isSuccess = true) (decoded : tokenClaims env token = some claims)
    (readable : Readable claims) :
    (Admin claims → ∃ user, bearerUser env token r = .ok user) ∧
      (¬ Admin claims → bearerUser env token r = .error denied) := by
  obtain ⟨roles, items, hroles, iter, hashable⟩ := readable
  obtain ⟨username, husername⟩ :=
    JoinContract.claims_get hroles "preferred_username" (.str "")
  have meets := meets_of_hashable iter hashable
  have admin : Admin claims ↔
      (items.any fun role => adminRoles.any fun name => role.isText name) = true := by
    simp [Admin, rolesIn, hroles, iter]
  unfold bearerUser
  rw [if_pos success, decoded, admin]
  simp only [hroles, meets, husername, Except.mapError, bind, Except.bind]
  split
  next admitted => exact ⟨fun _ => ⟨_, rfl⟩, fun other => absurd admitted other⟩
  next refused => exact ⟨fun admitted => absurd admitted refused, fun _ => rfl⟩

theorem readable_of_verdict {env : Env} {token : String} {r : Response} {claims : Json}
    (success : r.isSuccess = true) (decoded : tokenClaims env token = some claims)
    (verdict : (∃ user, bearerUser env token r = .ok user) ∨
      bearerUser env token r = .error denied) : Readable claims := by
  unfold bearerUser at verdict
  rw [if_pos success, decoded] at verdict
  cases hroles : claimedRoles claims with
  | error error =>
    simp [hroles, Except.mapError, bind, Except.bind, denied] at verdict
  | ok roles =>
    cases hmeets : roles.meets adminRoles with
    | error error =>
      simp [hroles, hmeets, Except.mapError, bind, Except.bind, denied] at verdict
    | ok admitted =>
      obtain ⟨items, iter, hashable⟩ := readable_of_meets hmeets
      exact ⟨roles, items, hroles, iter, hashable⟩

/-- For every token whose payload encodes a claims object, whatever `json.loads`
makes of bytes: the guard decides it by these claims exactly if the payload has
neither `-` nor `_`, or still loads to the same claims without them, and the
roles can be read. -/
theorem bearer_decided_iff (env : Env) (loads : List UInt8 → Option Json)
    (decodes : ∀ text, env.loadsBase64 text = (Base64.b64decode text).bind loads) (token : Token)
    (fields : List (String × Json)) (object : loads token.bytes = some (.obj fields)) :
    Decided env loads token (.obj fields) ↔
      (token.Plain ∨ token.leftover.bind loads = some (.obj fields)) ∧ Readable (.obj fields) := by
  have portal : decodeJwtPayload loads token.text = .obj fields := by
    rw [decodeJwtPayload_text, object]
    rfl
  constructor
  · intro decided
    have decoded := decided.same
    rw [portal] at decoded
    refine ⟨.inr ?_, ?_⟩
    · rw [← tokenClaims_text decodes]
      exact decoded
    · obtain ⟨result, hvalue, admitted, refused⟩ := decided.verdict
        ⟨.null, some ("Bearer " ++ token.text), none⟩ ⟨200, "", .ok .null, none⟩ World.empty rfl rfl
        rfl
      rw [guard_value World.empty rfl rfl] at hvalue
      cases hvalue
      have success : (⟨200, "", .ok .null, none⟩ : Response).isSuccess = true := rfl
      apply readable_of_verdict success decoded
      by_cases admin : Admin (.obj fields)
      · exact .inl (admitted admin)
      · exact .inr (refused admin)
  · intro condition
    obtain ⟨survives, readable⟩ := condition
    have decoded : tokenClaims env token.text = some (.obj fields) := by
      rw [tokenClaims_text decodes]
      rcases survives with plain | survives
      · rw [leftover_plain plain]
        exact object
      · exact survives
    constructor
    · rw [portal]
      exact decoded
    · intro caller r w sessionless presented success
      exact ⟨_, guard_value w sessionless presented, verdict_readable success decoded readable⟩

/-! ## Two tokens -/

def loadsUtf8 (bytes : List UInt8) : Option Json :=
  (Utf8.decode bytes).bind fun text => JsonText.parse (.ofList text)

def utf8Env : Env :=
  { Env.counting with loadsBase64 := fun text => (Base64.b64decode text).bind loadsUtf8 }

def adminClaims (name : String) : List (String × Json) :=
  [("realm_access", .obj [("roles", .arr [.str "cdm-admin"])]), ("name", .str name)]

theorem dot_not_mem_header : '.' ∉ ['h'] := by
  decide

/-- The token of an admin called `name`. -/
def adminToken (name : String) : Token where
  header := ['h']
  bytes := Utf8.encode (JsonText.Style.ascii.write 0 (.obj (adminClaims name)))
  signature := ['s']
  headerPlain := dot_not_mem_header

theorem admin_readable (name : String) : Readable (.obj (adminClaims name)) :=
  ⟨.arr [.str "cdm-admin"], [.str "cdm-admin"], rfl, rfl, by simp [Json.hashable]⟩

theorem admin_loaded (name : String) :
    loadsUtf8 (adminToken name).bytes = some (.obj (adminClaims name)) := by
  have regular : JsonText.Regular (.obj (adminClaims name)) := by
    simp [adminClaims, JsonText.Regular, JsonText.RegularMembers, JsonText.RegularItems]
  have bytes : (adminToken name).bytes =
      Utf8.encode (JsonText.Style.ascii.write 0 (.obj (adminClaims name))) := rfl
  rw [bytes, loadsUtf8, Utf8.decode_encode, Option.bind_some,
    JsonText.parse_write JsonText.Style.ascii regular]

theorem jane_decided : Decided utf8Env loadsUtf8 (adminToken "jane") (.obj (adminClaims "jane")) :=
  (bearer_decided_iff utf8Env loadsUtf8 (fun _ => rfl) (adminToken "jane") (adminClaims "jane")
    (admin_loaded "jane")).mpr ⟨.inl (by unfold Token.Plain; decide +kernel), admin_readable "jane"⟩

/-- A name can put `_` into the payload, and then the guard finds no claims. -/
theorem question_marks_not_decided :
    loadsUtf8 (adminToken "???").bytes = some (.obj (adminClaims "???")) ∧
      ¬ Decided utf8Env loadsUtf8 (adminToken "???") (.obj (adminClaims "???")) := by
  refine ⟨admin_loaded "???", ?_⟩
  intro decided
  have same := decided.same
  have lost : (adminToken "???").leftover = none := by decide +kernel
  rw [tokenClaims_text (fun _ => rfl), lost] at same
  cases same

end CompleteDeviceManagement.Guarantees.BearerClaims
