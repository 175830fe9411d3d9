import CompleteDeviceManagement.Guarantees.PortalSessions
import CompleteDeviceManagement.Guarantees.RealmDeletion

/-!
# The login redirect

`portal_login` writes what was typed into two URLs as it is: the one it asks
Keycloak for, and the one it sends the browser to. Keycloak looks at the path of
the first alone, so a text with a `?`, a `#`, a further segment or an escape can
be accepted and leave the second without its path or its query.
-/

set_option autoImplicit false

namespace CompleteDeviceManagement.Guarantees.LoginRedirects
open CompleteDeviceManagement.Library CompleteDeviceManagement.Source.Runtime
  CompleteDeviceManagement.Source.Portal
open CompleteDeviceManagement.Guarantees.BearerClaims (loadsUtf8)
open CompleteDeviceManagement.Guarantees.RealmDeletion (keycloakBase)

/-! ## Keycloak and the browser -/

/-- The path is that of a realm of the Keycloak at `base`, or of something below it. -/
def NamesRealm (base : Url.Base) (realms : List String) (url : String) : Prop :=
  ∃ segment more realm,
    (Url.read url).segments = base.segments ++ "realms".toList :: segment :: more ∧
    Url.Names segment realm ∧ realm ∈ realms

def authPath (segment : Url.Text) : List Url.Text :=
  ["auth".toList, "realms".toList, segment, "protocol".toList, "openid-connect".toList,
    "auth".toList]

/-- What a client reads in the query of the redirect. -/
def authParameters (callback state nonce : String) : List (String × String) :=
  [("client_id", "portal"), ("response_type", "code"), ("scope", "openid profile email roles"),
    ("redirect_uri", callback), ("state", state), ("nonce", nonce)]

def inBytes (field : String × String) : List UInt8 × List UInt8 :=
  (Utf8.encode field.1.toList, Utf8.encode field.2.toList)

/-- The URL leads to the login of the tenant, with these parameters and no others. -/
structure LeadsToLogin (url tenantId callback state nonce : String) : Prop where
  path : ∃ segment, (Url.read url).segments = authPath segment ∧ Url.Names segment tenantId
  query : ∃ query, (Url.read url).query = some query ∧
    Url.pairs query = (authParameters callback state nonce).map inBytes

/-- The alphabet of `secrets.token_urlsafe`. -/
def UrlSafe (token : String) : Prop :=
  ∀ c ∈ token.toList, c.isAlphanum = true ∨ c = '-' ∨ c = '_'

section Login

variable (env : PortalEnv) (realms : List String) (realmStatus : String → Option Nat)

/-- A login that is let through leads to the login of a realm there is, with the
state and the nonce of the session. -/
def RedirectsToLogin (session : Session) (tenantField state nonce : String) : Prop :=
  ∀ after url, portalLogin env session tenantField realmStatus state nonce =
      .ok (after, .redirect url) →
    ∃ tenantId state nonce, after.oauthTenant = some tenantId ∧ after.oauthState = some state ∧
      after.oauthNonce = some nonce ∧ tenantId ∈ realms ∧
      LeadsToLogin url tenantId (callbackUri env) state nonce

/-- One segment of a path, as it is. -/
structure OneSegment (text : String) : Prop where
  notDot : text.toList ≠ ['.']
  notDots : text.toList ≠ ['.', '.']
  slash : '/' ∉ text.toList
  question : '?' ∉ text.toList
  hash : '#' ∉ text.toList
  unescaped : Url.escaped text.toList = false

/-- The tenant that the static map has for the input is one segment and a realm;
an input that it has none for is one segment, if Keycloak is asked and says 200. -/
def WritesOneSegment (tenantInput : String) : Prop :=
  ∀ members matched, membersOf (parseTenants env) = .ok members →
    matchTenant env tenantInput members = .ok matched →
    (∀ tenantId, matched = some tenantId → tenantId ≠ "" →
      OneSegment tenantId ∧ tenantId ∈ realms) ∧
    (matched.getD "" = "" → tenantInput ≠ "" →
      realmStatus (env.settings.keycloakUrl ++ "/realms/" ++ tenantInput) = some 200 →
      OneSegment tenantInput)

end Login

/-! ## What is let through -/

theorem findTenant_some_iff {env : PortalEnv} {tenantInput tenantId : String}
    {realmStatus : String → Option Nat} :
    findTenant env tenantInput realmStatus = .ok (some tenantId) ↔
      tenantId ≠ "" ∧ ∃ members matched, membersOf (parseTenants env) = .ok members ∧
        matchTenant env tenantInput members = .ok matched ∧
        (matched = some tenantId ∨ matched.getD "" = "" ∧ tenantId = tenantInput ∧
          realmStatus (env.settings.keycloakUrl ++ "/realms/" ++ tenantInput) = some 200) := by
  unfold findTenant
  cases hmembers : membersOf (parseTenants env) with
  | error error => simp [bind, Except.bind]
  | ok members =>
    cases hmatched : matchTenant env tenantInput members with
    | error error => simp [bind, Except.bind, hmatched]
    | ok matched =>
      have text : ∀ text : String, matched = some text → text ≠ "" → matched.getD "" ≠ "" := by
        intro text h nonempty
        rw [h]
        exact nonempty
      simp only [bind, Except.bind, hmatched, Except.ok.injEq, Option.filter_eq_some_iff,
        decide_eq_true_eq]
      constructor
      · intro h
        obtain ⟨found, nonempty⟩ := h
        refine ⟨nonempty, members, matched, rfl, hmatched, ?_⟩
        split at found
        · exact .inl found
        next absent =>
          split at found
          next exists_ =>
            exact .inr ⟨by simpa using absent, (Option.some.inj found).symm, exists_⟩
          · exact .inl found
      · intro h
        obtain ⟨nonempty, _, other, rfl, hother, source⟩ := h
        cases Except.ok.inj (hmatched.symm.trans hother)
        refine ⟨?_, nonempty⟩
        rcases source with found | ⟨absent, same, exists_⟩
        · rw [if_pos (text _ found nonempty)]
          exact found
        · rw [if_neg (by simpa using absent), if_pos exists_, same]

theorem portalLogin_redirect_iff {env : PortalEnv} {session after : Session}
    {tenantField url state nonce : String} {realmStatus : String → Option Nat} :
    portalLogin env session tenantField realmStatus state nonce = .ok (after, .redirect url) ↔
      ∃ tenantId, findTenant env (env.py.lower (env.py.strip tenantField)) realmStatus =
          .ok (some tenantId) ∧
        after = ⟨some state, some nonce, some tenantId, none⟩ ∧
        url = authUrl env tenantId state nonce := by
  unfold portalLogin
  cases hfound : findTenant env (env.py.lower (env.py.strip tenantField)) realmStatus with
  | error error => simp [bind, Except.bind, Except.mapError, hfound]
  | ok found =>
    cases found with
    | none => simp [bind, Except.bind, Except.mapError, hfound]
    | some tenantId =>
      simp only [bind, Except.bind, Except.mapError, hfound, Except.ok.injEq, Prod.mk.injEq,
        PortalReply.redirect.injEq, Option.some.injEq]
      constructor
      · intro h
        exact ⟨tenantId, rfl, h.1.symm, h.2.symm⟩
      · intro h
        obtain ⟨_, rfl, session, url⟩ := h
        exact ⟨session.symm, url.symm⟩

/-! ## How the redirect is read -/

theorem replaceFirst_front (old new rest : List Char) :
    replaceFirst old new (old ++ rest) = new ++ rest := by
  cases old with
  | nil =>
    cases rest with
    | nil => simp [replaceFirst]
    | cons c rest => simp [replaceFirst]
  | cons c old =>
    have front : (c :: old).isPrefixOf (c :: (old ++ rest)) = true := by
      rw [← List.cons_append, List.isPrefixOf_iff_prefix]
      exact List.prefix_append _ _
    rw [List.cons_append, replaceFirst, if_pos front, ← List.cons_append, List.drop_left]

/-- The query as it is written. -/
def authFields (callback state nonce : Url.Text) : List (Url.Text × Url.Text) :=
  [("client_id".toList, "portal".toList), ("response_type".toList, "code".toList),
    ("scope".toList, "openid+profile+email+roles".toList), ("redirect_uri".toList, callback),
    ("state".toList, state), ("nonce".toList, nonce)]

def belowTenant : Url.Text := "protocol/openid-connect/auth".toList

/-- What the redirect has behind `/auth/realms/`. -/
def written (tenantId callback state nonce : Url.Text) : Url.Text :=
  tenantId ++ '/' :: (belowTenant ++ '?' :: Url.queryOf (authFields callback state nonce))

theorem written_text (tenantId callback state nonce : Url.Text) :
    written tenantId callback state nonce =
      tenantId ++ ("/protocol/openid-connect/auth".toList ++ ("?client_id=portal".toList ++
        ("&response_type=code".toList ++ ("&scope=openid+profile+email+roles".toList ++
          ("&redirect_uri=".toList ++ (callback ++ ("&state=".toList ++ (state ++
            ("&nonce=".toList ++ nonce))))))))) := by
  unfold written belowTenant authFields
  simp [Url.queryOf]

theorem authUrl_text {env : PortalEnv} {origin : Url.Origin}
    (external : env.settings.externalUrl = origin.base.text) (tenantId state nonce : String) :
    authUrl env tenantId state nonce = origin.base.text ++
      .ofList (Url.joined ["auth".toList, "realms".toList] ++
        '/' :: written tenantId.toList (callbackUri env).toList state.toList nonce.toList) := by
  have joined : ∀ text, Url.joined ["auth".toList, "realms".toList] ++ '/' :: text =
      "/auth".toList ++ ("/realms/".toList ++ text) := by
    intro text
    simp [Url.joined]
  apply String.toList_inj.mp
  rw [authUrl, joined, written_text]
  simp only [String.toList_ofList, String.toList_append, List.append_assoc, replaceFirst_front,
    external]

theorem realmsPath_literal :
    ∀ segment ∈ ["auth".toList, "realms".toList], Url.Literal segment := by
  decide

theorem belowTenant_split :
    belowTenant.splitOn '/' = ["protocol".toList, "openid-connect".toList, "auth".toList] := by
  decide +kernel

theorem belowTenant_literal : ∀ segment ∈ belowTenant.splitOn '/', Url.Literal segment := by
  rw [belowTenant_split]
  decide

/-- The path of the redirect, without `/auth/realms/`. -/
def pathOf (tenantId callback state nonce : Url.Text) : Url.Text :=
  Url.before '?' (Url.before '#' (written tenantId callback state nonce))

theorem authUrl_segments {env : PortalEnv} {origin : Url.Origin}
    (external : env.settings.externalUrl = origin.base.text) (tenantId state nonce : String) :
    (Url.read (authUrl env tenantId state nonce)).segments =
      Url.resolve ["realms".toList, "auth".toList]
        ((pathOf tenantId.toList (callbackUri env).toList state.toList nonce.toList).splitOn
          '/') := by
  rw [authUrl_text external, Url.read_below origin.base realmsPath_literal]
  rfl

theorem authUrl_query {env : PortalEnv} {origin : Url.Origin}
    (external : env.settings.externalUrl = origin.base.text) (tenantId state nonce : String) :
    (Url.read (authUrl env tenantId state nonce)).query =
      Url.behind '?' (Url.before '#'
        (written tenantId.toList (callbackUri env).toList state.toList nonce.toList)) := by
  rw [authUrl_text external, Url.read_below origin.base realmsPath_literal]

section Written

variable {tenantId callback state nonce : Url.Text}

variable (callback state nonce) in
/-- A text with a `?` or a `#` ends the path. -/
theorem pathOf_cut (cut : '#' ∈ tenantId ∨ '?' ∈ tenantId) :
    (pathOf tenantId callback state nonce).Sublist tenantId := by
  unfold pathOf written
  by_cases hash : '#' ∈ tenantId
  · rw [Url.before_of_mem hash]
    exact (Url.before_sublist '?' _).trans (Url.before_sublist '#' _)
  · have question : '?' ∈ tenantId := cut.resolve_left hash
    rw [Url.before_append hash, Url.before_of_mem question]
    exact Url.before_sublist '?' _

theorem pathOf_whole (hash : '#' ∉ tenantId) (question : '?' ∉ tenantId) :
    pathOf tenantId callback state nonce = tenantId ++ '/' :: belowTenant := by
  have noHash : '#' ∉ tenantId ++ '/' :: (belowTenant ++ ['?']) := by
    simp only [List.mem_append, not_or]
    exact ⟨hash, by decide⟩
  have noQuestion : '?' ∉ tenantId ++ '/' :: belowTenant := by
    simp only [List.mem_append, not_or]
    exact ⟨question, by decide⟩
  have chars : written tenantId callback state nonce = tenantId ++ '/' :: (belowTenant ++ ['?']) ++
      Url.queryOf (authFields callback state nonce) := by
    simp [written]
  have split : ∀ rest : Url.Text, tenantId ++ '/' :: (belowTenant ++ ['?']) ++ rest =
      tenantId ++ '/' :: belowTenant ++ '?' :: rest := by
    simp
  rw [pathOf, chars, Url.before_append noHash, split, Url.before_front_mark noQuestion]

theorem authFields_no_hash (hcallback : Url.Value callback) (hstate : Url.Value state)
    (hnonce : Url.Value nonce) :
    '#' ∉ Url.queryOf (authFields callback state nonce) := by
  intro h
  have fixed : ∀ text ∈ ["client_id".toList, "portal".toList, "response_type".toList,
      "code".toList, "scope".toList, "openid+profile+email+roles".toList, "redirect_uri".toList,
      "state".toList, "nonce".toList], '#' ∉ text := by
    decide +kernel
  rcases Url.mem_queryOf h with h | h | ⟨field, hfield, h⟩
  · exact absurd h (by decide)
  · exact absurd h (by decide)
  · have values : '#' ∉ callback ∧ '#' ∉ state ∧ '#' ∉ nonce :=
      ⟨fun h => (hcallback _ h).2.2.2 rfl, fun h => (hstate _ h).2.2.2 rfl,
        fun h => (hnonce _ h).2.2.2 rfl⟩
    simp only [authFields, List.mem_cons, List.not_mem_nil, or_false] at hfield
    simp only [List.forall_mem_cons] at fixed
    rcases hfield with rfl | rfl | rfl | rfl | rfl | rfl <;> simp_all

theorem written_query (hash : '#' ∉ tenantId) (question : '?' ∉ tenantId)
    (hcallback : Url.Value callback) (hstate : Url.Value state) (hnonce : Url.Value nonce) :
    Url.behind '?' (Url.before '#' (written tenantId callback state nonce)) =
      some (Url.queryOf (authFields callback state nonce)) := by
  have noHash : '#' ∉ written tenantId callback state nonce := by
    have front : '#' ∉ '/' :: belowTenant ++ ['?'] := by decide
    have fields := authFields_no_hash hcallback hstate hnonce
    have chars : written tenantId callback state nonce = tenantId ++
        (('/' :: belowTenant ++ ['?']) ++ Url.queryOf (authFields callback state nonce)) := by
      simp [written]
    rw [chars]
    intro h
    rcases List.mem_append.mp h with h | h
    · exact hash h
    · rcases List.mem_append.mp h with h | h
      · exact front h
      · exact fields h
  have noQuestion : '?' ∉ tenantId ++ '/' :: belowTenant := by
    simp only [List.mem_append, not_or]
    exact ⟨question, by decide⟩
  have chars : written tenantId callback state nonce =
      tenantId ++ '/' :: belowTenant ++ '?' :: Url.queryOf (authFields callback state nonce) := by
    simp [written]
  rw [Url.before_of_not_mem noHash, chars, Url.behind_front_mark noQuestion]

theorem authFields_pairs (hcallback : Url.Value callback) (hstate : Url.Value state)
    (hnonce : Url.Value nonce) :
    Url.pairs (Url.queryOf (authFields callback state nonce)) =
      (authParameters (.ofList callback) (.ofList state) (.ofList nonce)).map inBytes := by
  have noMark : ∀ {text : Url.Text}, Url.Value text → '&' ∉ text :=
    fun value h => (value _ h).1 rfl
  have plain : ∀ field ∈ authFields callback state nonce,
      '=' ∉ field.1 ∧ '&' ∉ field.1 ∧ '&' ∉ field.2 := by
    simp only [authFields, List.forall_mem_cons]
    refine ⟨by decide, by decide, by decide, ?_, ?_, ?_, fun _ h => absurd h List.not_mem_nil⟩
    · exact ⟨by decide, by decide, noMark hcallback⟩
    · exact ⟨by decide, by decide, noMark hstate⟩
    · exact ⟨by decide, by decide, noMark hnonce⟩
  have read := Url.pairs_queryOf plain
  have word : ∀ text ∈ ["client_id".toList, "portal".toList, "response_type".toList,
      "code".toList, "scope".toList, "redirect_uri".toList, "state".toList, "nonce".toList],
      Url.decoded (Url.spaced text) = Utf8.encode text := by
    decide +kernel
  have scope : Url.decoded (Url.spaced "openid+profile+email+roles".toList) =
      Utf8.encode "openid profile email roles".toList := by
    decide +kernel
  simp only [List.forall_mem_cons] at word
  rw [authFields, read]
  simp only [List.map_cons, List.map_nil, hcallback.decoded, hstate.decoded, hnonce.decoded,
    authParameters, inBytes, String.toList_ofList, word, scope]

end Written

/-! ## One segment -/

theorem urlSafe_value {token : String} (safe : UrlSafe token) : Url.Value token.toList := by
  intro c h
  have ne : ∀ mark : Char, mark.isAlphanum = false → mark ≠ '-' → mark ≠ '_' → c ≠ mark := by
    intro mark hmark minus underscore heq
    rcases safe c h with alnum | hc | hc
    · rw [heq, hmark] at alnum
      cases alnum
    · exact minus (heq.symm.trans hc)
    · exact underscore (heq.symm.trans hc)
  exact ⟨ne _ (by decide) (by decide) (by decide), ne _ (by decide) (by decide) (by decide),
    ne _ (by decide) (by decide) (by decide), ne _ (by decide) (by decide) (by decide)⟩

theorem callback_value {env : PortalEnv} {origin : Url.Origin}
    (external : env.settings.externalUrl = origin.base.text) :
    Url.Value (callbackUri env).toList := by
  rw [callbackUri, external, String.toList_append]
  apply origin.value.append
  unfold Url.Value
  decide

theorem leads_of_segment {env : PortalEnv} {origin : Url.Origin}
    (external : env.settings.externalUrl = origin.base.text) {tenantId state nonce : String}
    (hstate : UrlSafe state) (hnonce : UrlSafe nonce) (one : OneSegment tenantId) :
    LeadsToLogin (authUrl env tenantId state nonce) tenantId (callbackUri env) state nonce := by
  have values : Url.Value (callbackUri env).toList ∧ Url.Value state.toList ∧
      Url.Value nonce.toList :=
    ⟨callback_value external, urlSafe_value hstate, urlSafe_value hnonce⟩
  constructor
  · refine ⟨tenantId.toList, ?_, ?_⟩
    · rw [authUrl_segments external, pathOf_whole one.hash one.question,
        List.splitOn_append_cons_self_of_not_mem one.slash, belowTenant_split, Url.resolve,
        if_neg one.notDot, if_neg one.notDots]
      rfl
    · have own := Url.names_plain one.unescaped
      rwa [String.ofList_toList] at own
  · refine ⟨_, (authUrl_query external tenantId state nonce).trans
      (written_query one.hash one.question values.1 values.2.1 values.2.2), ?_⟩
    have pairs := authFields_pairs values.1 values.2.1 values.2.2
    simpa only [String.ofList_toList] using pairs

/-- The segment that names the tenant is a piece of its ID, or has no meaning in a URL. -/
theorem segment_of_leads {env : PortalEnv} {origin : Url.Origin}
    (external : env.settings.externalUrl = origin.base.text) {tenantId state nonce : String}
    (leads : LeadsToLogin (authUrl env tenantId state nonce) tenantId (callbackUri env) state
      nonce) : OneSegment tenantId := by
  obtain ⟨segment, hsegments, names⟩ := leads.path
  rw [authUrl_segments external] at hsegments
  have hlength : _ = 6 := congrArg List.length hsegments
  have hmem : segment ∈ authPath segment := by simp [authPath]
  rw [← hsegments] at hmem
  have above : segment ∈ ["realms".toList, "auth".toList] → Url.Literal segment :=
    fun h => realmsPath_literal segment (by simpa [or_comm] using h)
  by_cases cut : '#' ∈ tenantId.toList ∨ '?' ∈ tenantId.toList
  · exfalso
    have part := pathOf_cut (callbackUri env).toList state.toList nonce.toList cut
    have source : Url.Literal segment ∨ segment.Sublist tenantId.toList ∧ '/' ∉ segment := by
      rcases Url.mem_resolve hmem with h | piece
      · exact .inl (above h)
      · obtain ⟨inside, noSlash⟩ := Url.mem_splitOn piece
        exact .inr ⟨inside.trans part, noSlash⟩
    obtain ⟨_, slash, _⟩ := Url.segment_of_names names source
    rw [List.splitOn_eq_singleton fun h => slash (part.mem h)] at hlength
    have short := Url.length_resolve_le ["realms".toList, "auth".toList]
      [pathOf tenantId.toList (callbackUri env).toList state.toList nonce.toList]
    simp only [hlength, List.length_cons, List.length_nil] at short
    omega
  · have hash : '#' ∉ tenantId.toList := fun h => cut (.inl h)
    have question : '?' ∉ tenantId.toList := fun h => cut (.inr h)
    rw [pathOf_whole hash question, List.splitOn_append_cons_self] at hmem hlength
    have source : Url.Literal segment ∨ segment.Sublist tenantId.toList ∧ '/' ∉ segment := by
      rcases Url.mem_resolve hmem with h | piece
      · exact .inl (above h)
      · rcases List.mem_append.mp piece with own | below
        · exact .inr (Url.mem_splitOn own)
        · exact .inl (belowTenant_literal segment below)
    obtain ⟨same, slash, unescaped⟩ := Url.segment_of_names names source
    rw [List.splitOn_eq_singleton slash, belowTenant_split] at hlength
    refine ⟨?_, ?_, slash, question, hash, unescaped⟩
    · intro dot
      rw [dot] at hlength
      exact absurd hlength (by decide)
    · intro dots
      rw [dots] at hlength
      exact absurd hlength (by decide)

/-- A text that is one segment names the realm that Keycloak was asked for. -/
theorem realm_of_segment {base : Url.Base} {realms : List String} {text : String}
    (one : OneSegment text) (named : NamesRealm base realms (base.text ++ "/realms/" ++ text)) :
    text ∈ realms := by
  obtain ⟨segment, more, realm, hsegments, names, exists_⟩ := named
  have chars : base.text ++ "/realms/" ++ text =
      base.text ++ .ofList (Url.joined ["realms".toList] ++ '/' :: text.toList) := by
    apply String.toList_inj.mp
    simp [Url.joined]
  have literal : ∀ segment ∈ ["realms".toList], Url.Literal segment := by decide
  rw [chars, Url.read_below base literal] at hsegments
  simp only [Url.before_of_not_mem one.hash, Url.before_of_not_mem one.question,
    List.splitOn_eq_singleton one.slash, Url.resolve, if_neg one.notDot, if_neg one.notDots,
    List.reverse_cons, List.reverse_reverse, List.append_assoc] at hsegments
  have same : text.toList = segment := by
    have tail := List.append_cancel_left hsegments
    simp only [List.cons_append, List.nil_append, List.cons.injEq, true_and] at tail
    exact tail.1
  have own := Url.names_plain one.unescaped
  rw [same] at own
  rw [← String.ofList_toList (s := text), same, ← Url.names_unique names own]
  exact exists_

/-! ## Exactly when the redirect is well formed -/

/-- For what a user types, the login sends the browser to the login of a realm
there is exactly if every text it writes into the redirect is one segment. -/
theorem redirects_iff (env : PortalEnv) (origin : Url.Origin) (base : Url.Base)
    (external : env.settings.externalUrl = origin.base.text)
    (configured : env.settings.keycloakUrl = base.text) (realms : List String)
    (realmStatus : String → Option Nat)
    (answers : ∀ url, realmStatus url = some 200 → NamesRealm base realms url)
    (session : Session) (tenantField state nonce : String) (hstate : UrlSafe state)
    (hnonce : UrlSafe nonce) :
    RedirectsToLogin env realms realmStatus session tenantField state nonce ↔
      WritesOneSegment env realms realmStatus (env.py.lower (env.py.strip tenantField)) := by
  constructor
  · intro redirects members matched hmembers hmatched
    have login : ∀ tenantId, findTenant env (env.py.lower (env.py.strip tenantField)) realmStatus =
        .ok (some tenantId) → OneSegment tenantId ∧ tenantId ∈ realms := by
      intro tenantId found
      obtain ⟨tenantId', state', nonce', htenant, hstate', hnonce', exists_, leads⟩ :=
        redirects _ _ (portalLogin_redirect_iff.mpr ⟨tenantId, found, rfl, rfl⟩)
      cases htenant
      cases hstate'
      cases hnonce'
      exact ⟨segment_of_leads external leads, exists_⟩
    constructor
    · intro tenantId found nonempty
      exact login tenantId
        (findTenant_some_iff.mpr ⟨nonempty, members, matched, hmembers, hmatched, .inl found⟩)
    · intro absent nonempty found
      exact (login _ (findTenant_some_iff.mpr
        ⟨nonempty, members, matched, hmembers, hmatched, .inr ⟨absent, rfl, found⟩⟩)).1
  · intro writes after url redirected
    obtain ⟨tenantId, found, rfl, rfl⟩ := portalLogin_redirect_iff.mp redirected
    obtain ⟨nonempty, members, matched, hmembers, hmatched, source⟩ :=
      findTenant_some_iff.mp found
    obtain ⟨static, typed⟩ := writes members matched hmembers hmatched
    have one : OneSegment tenantId ∧ tenantId ∈ realms := by
      rcases source with own | ⟨absent, same, exists_⟩
      · exact static tenantId own nonempty
      · rw [same] at nonempty ⊢
        have one := typed absent nonempty exists_
        have named := answers _ exists_
        rw [configured] at named
        exact ⟨one, realm_of_segment one named⟩
    exact ⟨tenantId, state, nonce, rfl, rfl, rfl, one.2,
      leads_of_segment external hstate hnonce one.1⟩

/-- The one realm cdm below http://keycloak:8080/auth, and no tenant in the static map. -/
def cdmEnv : PortalEnv where
  settings := {}
  portalTenantsJson := "\x7b\x7d"
  py := .ascii
  loadsText := JsonText.parse
  loads := loadsUtf8

/-- http://localhost:8888 -/
def localOrigin : Url.Origin where
  scheme := "http".toList
  host := "localhost:8888".toList
  schemePlain := by decide
  hostPlain := by decide

def cdmStatus (url : String) : Option Nat :=
  if (Url.read url).segments = ["auth".toList, "realms".toList, "cdm".toList] then some 200
  else some 404

theorem cdmStatus_answers (url : String) (h : cdmStatus url = some 200) :
    NamesRealm keycloakBase ["cdm"] url := by
  unfold cdmStatus at h
  split at h
  next segments => exact ⟨"cdm".toList, [], "cdm", segments, by decide +kernel, by decide⟩
  · exact absurd h (by decide)

theorem cdm_tenants : parseTenants cdmEnv = .obj [] := by
  have text : cdmEnv.portalTenantsJson = .ofList (JsonText.Style.ascii.write 0 (.obj [])) := by
    decide +kernel
  have loads : cdmEnv.loadsText = JsonText.parse := rfl
  have regular : JsonText.Regular (.obj []) := by simp [JsonText.Regular, JsonText.RegularMembers]
  rw [parseTenants, text, loads, JsonText.parse_write JsonText.Style.ascii regular]
  rfl

theorem cdm_found {tenantField : String} (nonempty : tenantField ≠ "")
    (plain : cdmEnv.py.lower (cdmEnv.py.strip tenantField) = tenantField)
    (asked : cdmStatus ("http://keycloak:8080/auth" ++ "/realms/" ++ tenantField) = some 200) :
    findTenant cdmEnv (cdmEnv.py.lower (cdmEnv.py.strip tenantField)) cdmStatus =
      .ok (some tenantField) := by
  rw [plain]
  exact findTenant_some_iff.mpr
    ⟨nonempty, [], none, by rw [cdm_tenants]; rfl, rfl, .inr ⟨rfl, rfl, asked⟩⟩

theorem cdm_redirects : RedirectsToLogin cdmEnv ["cdm"] cdmStatus .empty "cdm" "s" "n" :=
  (redirects_iff cdmEnv localOrigin keycloakBase (by decide +kernel) (by decide +kernel) ["cdm"]
    cdmStatus cdmStatus_answers .empty "cdm" "s" "n" (by unfold UrlSafe; decide)
    (by unfold UrlSafe; decide)).mpr (by
      have plain : cdmEnv.py.lower (cdmEnv.py.strip "cdm") = "cdm" := by decide +kernel
      rw [plain]
      intro members matched hmembers hmatched
      rw [cdm_tenants] at hmembers
      cases hmembers
      cases hmatched
      constructor
      · intro tenantId h
        cases h
      · intro _ _ _
        constructor <;> decide)

/-- The input `cdm?x` is let through, and its redirect ends at the realm. -/
theorem cdm_query_redirected :
    cdmStatus ("http://keycloak:8080/auth" ++ "/realms/" ++ "cdm?x") = some 200 ∧
    (Url.read (authUrl cdmEnv "cdm?x" "s" "n")).segments =
      ["auth".toList, "realms".toList, "cdm".toList] ∧
    ¬ RedirectsToLogin cdmEnv ["cdm"] cdmStatus .empty "cdm?x" "s" "n" := by
  have asked : cdmStatus ("http://keycloak:8080/auth" ++ "/realms/" ++ "cdm?x") = some 200 := by
    decide +kernel
  refine ⟨asked, by decide +kernel, ?_⟩
  intro redirects
  have plain : cdmEnv.py.lower (cdmEnv.py.strip "cdm?x") = "cdm?x" := by decide +kernel
  obtain ⟨tenantId, _, _, htenant, _, _, exists_, _⟩ := redirects _ _
    (portalLogin_redirect_iff.mpr ⟨"cdm?x", cdm_found (by decide) plain asked, rfl, rfl⟩)
  cases htenant
  exact absurd exists_ (by decide)

end CompleteDeviceManagement.Guarantees.LoginRedirects
