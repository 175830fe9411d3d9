import CompleteDeviceManagement.Guarantees.BearerClaims
import CompleteDeviceManagement.Library.JsonBytes

/-!
# The payload of a token

`_decode_jwt_payload` has the claims of every token whose payload is the unpadded
base64url of their JSON text, and an empty object of every other string: one without a
second part, or whose second part does not decode or load.
-/

set_option autoImplicit false

namespace CompleteDeviceManagement.Guarantees.TokenPayload
open CompleteDeviceManagement.Library
open CompleteDeviceManagement.Source.Portal (decodeJwtPayload)
open CompleteDeviceManagement.Guarantees.BearerClaims (Token adminClaims adminToken
  decodeJwtPayload_text)

/-! ## The second part -/

/-- `b` stands behind the first dot, up to the next one if there is one. -/
def SecondPart (s b : List Char) : Prop :=
  ∃ a rest, '.' ∉ a ∧ '.' ∉ b ∧ s = a ++ '.' :: (b ++ rest) ∧ (rest = [] ∨ rest.head? = some '.')

theorem second_of_split {s b : List Char} (h : (s.splitOn '.')[1]? = some b) : SecondPart s b := by
  by_cases dot : '.' ∈ s
  · obtain ⟨a, behind, split, first⟩ := List.eq_append_cons_of_mem dot
    rw [split, List.splitOn_append_cons_self_of_not_mem first] at h
    by_cases more : '.' ∈ behind
    · obtain ⟨part, rest, split', second⟩ := List.eq_append_cons_of_mem more
      rw [split', List.splitOn_append_cons_self_of_not_mem second] at h
      have same : part = b := Option.some.inj h
      subst same
      exact ⟨a, '.' :: rest, first, second, split.trans (by rw [split']), Or.inr rfl⟩
    · rw [List.splitOn_eq_singleton more] at h
      have same : behind = b := Option.some.inj h
      subst same
      exact ⟨a, [], first, more, split.trans (by rw [List.append_nil]), Or.inl rfl⟩
  · rw [List.splitOn_eq_singleton dot] at h
    cases h

/-! ## The payload -/

/-- `b`, padded to whole quads, decodes to the bytes of a JSON text. -/
def Decodes (loads : List UInt8 → Option Json) (b : List Char) (v : Json) : Prop :=
  ∃ bytes, Base64.urlsafeB64decode
      (.ofList (b ++ List.replicate (-(b.length : Int) % 4).toNat '=')) = some bytes ∧
    loads bytes = some v

theorem decodeJwtPayload_other {loads : List UInt8 → Option Json} {s : String}
    (other : ∀ b v, SecondPart s.toList b → ¬ Decodes loads b v) :
    decodeJwtPayload loads s = .obj [] := by
  unfold decodeJwtPayload
  cases part : (s.toList.splitOn '.')[1]? with
  | none => rfl
  | some b =>
    have none : (Base64.urlsafeB64decode
        (.ofList (b ++ List.replicate (-(b.length : Int) % 4).toNat '='))).bind loads = none := by
      rw [Option.eq_none_iff_forall_ne_some]
      intro v read
      obtain ⟨bytes, decoded, loaded⟩ := Option.bind_eq_some_iff.mp read
      exact other b v (second_of_split part) ⟨bytes, decoded, loaded⟩
    dsimp only
    rw [none]
    rfl

theorem decodeJwtPayload_claims {text : String} {claims : List (String × Json)}
    (read : JsonText.parse text = some (.obj claims)) {token : Token}
    (bytes : token.bytes = Utf8.encode text.toList) :
    decodeJwtPayload JsonBytes.loads token.text = .obj claims := by
  rw [decodeJwtPayload_text, bytes, JsonBytes.loads_encode read]
  rfl

/-- The claims of every token, from any JSON text of theirs, and every claims object has
one; the empty object of every other string, whatever `json.loads` makes of bytes. -/
theorem jwt_payload_decoded :
    (∀ (token : Token) (text : String) (claims : List (String × Json)),
      JsonText.parse text = some (.obj claims) → token.bytes = Utf8.encode text.toList →
        decodeJwtPayload JsonBytes.loads token.text = .obj claims) ∧
    (∀ (style : JsonText.Style) (claims : List (String × Json)),
      JsonText.Regular (.obj claims) →
        JsonText.parse (.ofList (style.write 0 (.obj claims))) = some (.obj claims)) ∧
    ∀ (loads : List UInt8 → Option Json) (s : String),
      (∀ b v, SecondPart s.toList b → ¬ Decodes loads b v) →
        decodeJwtPayload loads s = .obj [] := by
  refine ⟨?_, ?_, ?_⟩
  · intro token text claims read bytes
    exact decodeJwtPayload_claims read bytes
  · intro style claims regular
    exact JsonText.parse_write style regular
  · intro loads s other
    exact decodeJwtPayload_other other

theorem jane_payload_decoded :
    decodeJwtPayload JsonBytes.loads (adminToken "jane").text = .obj (adminClaims "jane") ∧
    decodeJwtPayload JsonBytes.loads "jane" = .obj [] := by
  constructor
  · have regular : JsonText.Regular (.obj (adminClaims "jane")) := by
      simp [adminClaims, JsonText.Regular, JsonText.RegularMembers, JsonText.RegularItems]
    have read := jwt_payload_decoded.2.1 JsonText.Style.ascii _ regular
    refine jwt_payload_decoded.1 (adminToken "jane") _ _ read ?_
    rw [String.toList_ofList]
    rfl
  · refine jwt_payload_decoded.2.2 JsonBytes.loads "jane" ?_
    rintro b v ⟨a, rest, -, -, split, -⟩ -
    have dot : '.' ∈ "jane".toList := by
      rw [split]
      simp
    exact absurd dot (by decide)

end CompleteDeviceManagement.Guarantees.TokenPayload
