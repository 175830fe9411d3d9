import CompleteDeviceManagement.Guarantees.JoinContract
import CompleteDeviceManagement.Library.Url
import CompleteDeviceManagement.Source.Urls

/-!
# Which realm a deletion addresses

`delete_tenant` compares the realm id with two names, and `_kc_delete_realm`
writes it into a URL as it is. Keycloak deletes what the URL says: the realm
named by the segment below `/admin/realms`, up to the first `?` or `#`, with
escapes decoded.
-/

set_option autoImplicit false

namespace CompleteDeviceManagement.Guarantees.RealmDeletion
open CompleteDeviceManagement.Library CompleteDeviceManagement.Source.Runtime
  CompleteDeviceManagement.Source.RabbitMq CompleteDeviceManagement.Source.AdminPortal
  CompleteDeviceManagement.Source.Urls CompleteDeviceManagement.Guarantees.Provisioning
  CompleteDeviceManagement.Guarantees.JoinContract
open CompleteDeviceManagement.Library.Fallible

/-! ## What a URL addresses -/

/-- What stands below the root of the admin API. -/
def realmsPath : List Url.Text := ["admin".toList, "realms".toList]

/-- The URL addresses the realm in the Keycloak at `base`. -/
def Addresses (base : Url.Base) (url realm : String) : Prop :=
  ∃ segment, segment ≠ [] ∧
    (Url.read url).segments = base.segments ++ realmsPath ++ [segment] ∧
    Url.Names segment realm

/-- The text that reaches the path. -/
def pathPart (realmId : String) : Url.Text := Url.before '?' (Url.before '#' realmId.toList)

theorem realmsPath_literal : ∀ segment ∈ realmsPath, Url.Literal segment := by
  decide

theorem deleteRealmUrl_segments (base : Url.Base) {realmId : String}
    (whole : '/' ∉ realmId.toList) :
    (Url.read (deleteRealmUrl base.text realmId)).segments =
      Url.resolve (base.segments ++ realmsPath).reverse [pathPart realmId] := by
  have text : deleteRealmUrl base.text realmId =
      base.text ++ .ofList (Url.joined realmsPath ++ '/' :: realmId.toList) := by
    apply String.toList_inj.mp
    simp [deleteRealmUrl, Url.joined, realmsPath]
  have part : '/' ∉ pathPart realmId := by
    intro h
    exact whole ((Url.before_sublist '#' _).mem ((Url.before_sublist '?' _).mem h))
  rw [text, Url.read_below base realmsPath_literal]
  have single : (pathPart realmId).splitOn '/' = [pathPart realmId] :=
    List.splitOn_eq_singleton part
  exact congrArg (Url.resolve _) single

/-- Not a dot segment, and something. -/
def Segment (part : Url.Text) : Prop := part ≠ [] ∧ part ≠ ['.'] ∧ part ≠ ['.', '.']

theorem addresses_iff (base : Url.Base) {realmId : String} (whole : '/' ∉ realmId.toList)
    (realm : String) :
    Addresses base (deleteRealmUrl base.text realmId) realm ↔
      Segment (pathPart realmId) ∧ Url.Names (pathPart realmId) realm := by
  have segments := deleteRealmUrl_segments base whole
  constructor
  · intro addresses
    obtain ⟨segment, something, hsegments, names⟩ := addresses
    rw [segments] at hsegments
    have hlength := congrArg List.length hsegments
    by_cases dot : pathPart realmId = ['.']
    · simp [dot, Url.resolve] at hlength
    · by_cases dots : pathPart realmId = ['.', '.']
      · simp [dots, Url.resolve] at hlength
        omega
      · rw [Url.resolve, if_neg dot, if_neg dots, Url.resolve, List.reverse_cons,
          List.reverse_reverse] at hsegments
        have heq : pathPart realmId = segment := by
          simpa using List.append_cancel_left hsegments
        rw [← heq] at something names
        exact ⟨⟨something, dot, dots⟩, names⟩
  · intro both
    obtain ⟨⟨something, dot, dots⟩, names⟩ := both
    refine ⟨pathPart realmId, something, ?_, names⟩
    rw [segments, Url.resolve, if_neg dot, if_neg dots, Url.resolve, List.reverse_cons,
      List.reverse_reverse]

/-! ## What a deletion sends -/

/-- Whatever realm a deletion under this id addresses, whoever asks and whatever
is answered, it is the one called so and not a protected one. -/
def Spares (env : Env) (base : Url.Base) (realmId : String) : Prop :=
  ∀ (caller : Caller) (answers : Nat → HttpResult) (w : World),
    ∀ exchange ∈ ((deleteTenant env caller realmId).run.solo answers 0 w).trace,
      ∀ keycloakUrl token target, exchange.1 = .keycloakDeleteRealm keycloakUrl token target →
        ∀ realm, Addresses base (deleteRealmUrl keycloakUrl target) realm →
          realm = realmId ∧ realm ∉ protectedRealms

/-- The one DELETE of a realm: at the configured place, under the id as it is,
past the guard. -/
def Deletes (env : Env) (realmId : String) : HttpRequest → Prop
  | .keycloakDeleteRealm keycloakUrl _ target =>
      keycloakUrl = env.settings.keycloakUrl ∧ target = realmId ∧ realmId ∉ protectedRealms
  | _ => True

theorem offboardTenant_deletes (env : Env) {realmId : String}
    (unprotected : realmId ∉ protectedRealms) :
    Calm (Deletes env realmId) (fun _ _ => True) anyResult (offboardTenant env realmId) := by
  have keycloak : Calm (Deletes env realmId) (fun _ _ => True) anyResult
      (deleteKeycloakRealm env realmId) := by
    apply (kcAdminToken_calm fun _ _ _ => trivial).andThen
    intro token
    refine Calm.ask ⟨rfl, rfl, unprotected⟩ ?_
    intro resp
    split
    · exact calm_pure trivial
    · exact calm_fail trivial
  have broker : Calm (Deletes env realmId) (fun _ _ => True) anyResult
      ((rabbitmq env.settings).deprovisionTenant realmId) := by
    refine Calm.andThen (request_calm trivial) ?_
    intro _
    exact request_calm trivial
  apply (calm_attempt_any _ keycloak).andThen
  intro keycloak
  apply (calm_attempt_any _ broker).andThen
  intro broker
  exact calm_pure trivial

theorem deleteTenant_deletes (env : Env) (caller : Caller) (realmId : String) :
    Calm (Deletes env realmId) (fun _ _ => True) anyResult (deleteTenant env caller realmId) := by
  apply (calm_language_any _).andThen
  intro user
  cases user with
  | none => exact calm_pure trivial
  | some user =>
    by_cases isProtected : realmId ∈ protectedRealms
    · simp only [isProtected, if_true]
      exact calm_pure trivial
    · simp only [isProtected, if_false]
      apply (offboardTenant_deletes env isProtected).andThen
      intro deleted
      exact calm_pure trivial

theorem deletion_sent (env : Env) (realmId : String) (caller : Caller) (answers : Nat → HttpResult)
    (w : World) {exchange : HttpRequest × HttpResult}
    (sent : exchange ∈ ((deleteTenant env caller realmId).run.solo answers 0 w).trace) :
    Deletes env realmId exchange.1 := by
  have keeps : ∀ before after : World, True → Undisturbed before after → True :=
    fun _ _ _ _ => trivial
  obtain ⟨_, sends, _⟩ := Proc.Quiet.solo answers (deleteTenant_deletes env caller realmId) keeps
    0 w trivial fun _ _ => trivial
  exact sends exchange sent

/-- Keycloak answers with a token. -/
def tokenAnswer : HttpResult :=
  .response ⟨200, "", .ok (.obj [("access_token", .str "token")]), none⟩

theorem deletion_reaches (env : Env) {realmId : String} (unprotected : realmId ∉ protectedRealms)
    (w : World) :
    (HttpRequest.keycloakDeleteRealm env.settings.keycloakUrl "token" realmId, tokenAnswer) ∈
      ((deleteTenant env cdmAdmin realmId).run.solo (fun _ => tokenAnswer) 0 w).trace := by
  have guarded : deleteTenant env cdmAdmin realmId = (do
      let deleted ← offboardTenant env realmId
      pure (.ok deleted)) := by
    have guard : language (getCdmAdmin cdmAdmin) = pure (some cdmAdmin.user) := rfl
    unfold deleteTenant
    rw [guard, pure_bind]
    simp only [unprotected, if_false]
  rw [guarded]
  exact List.mem_cons_of_mem _ List.mem_cons_self

/-! ## The condition -/

/-- Nothing in the text has a meaning in a URL. -/
def Plain (realmId : String) : Prop :=
  '?' ∉ realmId.toList ∧ '#' ∉ realmId.toList ∧ Url.escaped realmId.toList = false

theorem pathPart_eq_iff (realmId : String) :
    pathPart realmId = realmId.toList ↔ '?' ∉ realmId.toList ∧ '#' ∉ realmId.toList := by
  constructor
  · intro whole
    constructor
    · rw [← whole]
      exact Url.not_mem_before '?' _
    · intro hash
      rw [← whole] at hash
      exact Url.not_mem_before '#' _ ((Url.before_sublist '?' _).mem hash)
  · intro both
    obtain ⟨question, hash⟩ := both
    rw [pathPart, Url.before_of_not_mem hash, Url.before_of_not_mem question]

/-- A deletion under an id addresses no protected realm, and no other than the
one called so, exactly if the id is one of the protected names themselves, or
what the URL keeps of it names no realm at all, or nothing in it has a meaning
in a URL. -/
theorem deletion_spares_iff (env : Env) (base : Url.Base)
    (configured : env.settings.keycloakUrl = base.text) (realmId : String)
    (whole : '/' ∉ realmId.toList) :
    Spares env base realmId ↔
      realmId ∈ protectedRealms ∨ ¬ Segment (pathPart realmId) ∨
        (∀ name, ¬ Url.Names (pathPart realmId) name) ∨ Plain realmId := by
  constructor
  · intro spares
    by_cases guarded : realmId ∈ protectedRealms
    · exact .inl guarded
    · refine .inr ?_
      by_cases segment : Segment (pathPart realmId)
      · refine .inr ?_
        by_cases named : ∃ name, Url.Names (pathPart realmId) name
        · obtain ⟨name, names⟩ := named
          have reached := deletion_reaches env guarded World.empty
          rw [configured] at reached
          obtain ⟨own, _⟩ := spares cdmAdmin _ _ _ reached _ _ _ rfl name
            ((addresses_iff base whole name).mpr ⟨segment, names⟩)
          rw [own] at names
          obtain ⟨same, unescaped⟩ := Url.names_part names
            ((Url.before_sublist '?' _).trans (Url.before_sublist '#' _))
          obtain ⟨question, hash⟩ := (pathPart_eq_iff realmId).mp same
          rw [same] at unescaped
          exact .inr ⟨question, hash, unescaped⟩
        · exact .inl fun name names => named ⟨name, names⟩
      · exact .inl segment
  · intro condition caller answers w sent hsent keycloakUrl token target hrequest realm addresses
    have deletes := deletion_sent env realmId caller answers w hsent
    rw [hrequest] at deletes
    obtain ⟨place, same, unprotected⟩ := deletes
    rw [place, configured, same] at addresses
    obtain ⟨segment, names⟩ := (addresses_iff base whole realm).mp addresses
    rcases condition with guarded | noSegment | unnamed | plain
    · exact absurd guarded unprotected
    · exact absurd segment noSegment
    · exact absurd names (unnamed realm)
    · obtain ⟨question, hash, unescaped⟩ := plain
      have kept := (pathPart_eq_iff realmId).mpr ⟨question, hash⟩
      rw [kept] at names
      have own := Url.names_plain unescaped
      rw [String.ofList_toList] at own
      have realmSame := Url.names_unique names own
      rw [realmSame]
      exact ⟨rfl, unprotected⟩

/-- http://keycloak:8080/auth -/
def keycloakBase : Url.Base where
  scheme := "http".toList
  authority := "keycloak:8080".toList
  segments := ["auth".toList]
  schemePlain := Url.http_plain
  authorityPlain := by decide
  literal := by decide

theorem acme_spares : Spares Env.counting keycloakBase "acme" :=
  (deletion_spares_iff Env.counting keycloakBase (by decide +kernel) "acme" (by decide)).mpr
    (.inr (.inr (.inr (by unfold Plain; decide))))

/-- The id `cdm?` passes the guard and deletes the realm cdm. -/
theorem cdm_query_not_spared :
    "cdm?" ≠ "" ∧ '/' ∉ "cdm?".toList ∧ ¬ Spares Env.counting keycloakBase "cdm?" := by
  refine ⟨by decide, by decide, ?_⟩
  intro spares
  have unprotected : "cdm?" ∉ protectedRealms := by decide
  have addressed : Addresses keycloakBase (deleteRealmUrl keycloakBase.text "cdm?") "cdm" :=
    (addresses_iff keycloakBase (by decide) "cdm").mpr
      ⟨by unfold Segment; decide, by decide +kernel⟩
  have reached := deletion_reaches Env.counting unprotected World.empty
  have configured : Env.counting.settings.keycloakUrl = keycloakBase.text := by decide +kernel
  rw [configured] at reached
  exact (spares cdmAdmin _ _ _ reached _ _ _ rfl "cdm" addressed).2 (by decide)

end CompleteDeviceManagement.Guarantees.RealmDeletion
