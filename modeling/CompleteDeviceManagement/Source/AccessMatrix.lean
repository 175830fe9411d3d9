import CompleteDeviceManagement.Library.Datetime

/-!
# The access matrix

Source: provider-stack/keycloak/generate-access-matrix.py. The requests are kept with what
comes back for them; what is printed to stderr is left out.
-/

set_option autoImplicit false

namespace CompleteDeviceManagement.Source.AccessMatrix
open CompleteDeviceManagement.Library

/-! ## Static access-level mapping -/

def endpointAccess : List (String × List (String × String)) :=
  [("grafana",
    [("cdm-admin", "✅ Admin"), ("cdm-operator", "🔵 Editor"), ("cdm-viewer", "👁 Viewer"),
      ("platform-admin", "✅ Admin (via broker)"),
      ("platform-operator", "🔵 Editor (via broker)")]),
    ("iot-bridge-api",
    [("cdm-admin", "✅ Full"), ("cdm-operator", "🔵 Read + deploy"),
      ("cdm-viewer", "👁 Read-only"), ("platform-admin", "✅ Full (via broker)"),
      ("platform-operator", "👁 Read-only (via broker)")]),
    ("tenant-portal",
    [("cdm-admin", "✅ Admin view"), ("cdm-operator", "🔵 Operator view"),
      ("cdm-viewer", "👁 Viewer view"), ("platform-admin", "✅ Admin view (via broker)"),
      ("platform-operator", "🔵 Operator view (via broker)")]),
    ("pgadmin",
    [("cdm-admin", "⚠️ DB Superuser [^1]"), ("cdm-operator", "⚠️ DB Superuser [^1]"),
      ("cdm-viewer", "⚠️ DB Superuser [^1]")]),
    ("rabbitmq",
    [("platform-admin", "✅ Administrator"), ("platform-operator", "👁 Monitoring [^5]")]),
    ("kc-cdm-admin", [("platform-admin", "✅ Full [^4]")]),
    ("kc-provider-admin", [("platform-admin", "✅ Full [^4]")])]

def endpointLabels : List (String × String) :=
  [("grafana", "Grafana"), ("iot-bridge-api", "IoT Bridge API"),
    ("tenant-portal", "Tenant Portal"), ("pgadmin", "pgAdmin"), ("rabbitmq", "RabbitMQ Mgmt"),
    ("kc-cdm-admin", "KC CDM Admin"), ("kc-provider-admin", "KC Provider Admin")]

/-- `ENDPOINT_ACCESS.get(endpoint, {})` -/
def mappingOf (endpoint : String) : List (String × String) :=
  (endpointAccess.lookup endpoint).getD []

def accessFor (roles : List String) (endpoint : String) : String :=
  match roles with
  | [] => "✗"
  | role :: roles =>
      match (mappingOf endpoint).lookup role with
      | some access => access
      | none => accessFor roles endpoint

/-! ## Keycloak REST helpers -/

/-- How a request can fail: with a status, without an answer, or with an exception that
`_request` does not catch. -/
inductive Failure where
  | httpError (code : Nat) (reason body : String)
  | urlError (reason : String)
  | other

inductive Stop where
  | systemExit (text : String)
  | raised

/-- `_request`, with what comes back for the URL. -/
def request {α : Type} (url : String) : Except Failure α → Except Stop α
  | .ok value => .ok value
  | .error (.httpError code reason body) =>
      .error (.systemExit ("HTTP " ++ toString code ++ " " ++ reason ++ " for " ++ url ++ "\n" ++
        body))
  | .error (.urlError reason) =>
      .error (.systemExit ("Cannot reach " ++ url ++ ": " ++ reason))
  | .error .other => .error .raised

/-- The members of a user that are read; one that is not there is `none`. -/
structure KcUser where
  id : String
  username : Option String
  email : Option String
  enabled : Option Bool

/-- What Keycloak answers: to the request for a token, for the users of a realm and for
the names of a user's realm roles. -/
structure Keycloak where
  token : Except Failure String
  users : String → Except Failure (List KcUser)
  roles : String → String → Except Failure (List String)

def getAdminToken (base : String) (kc : Keycloak) : Except Stop String :=
  request (base ++ "/auth/realms/master/protocol/openid-connect/token") kc.token

/-- `kc_get`; none of the paths begins with a slash. -/
def kcGet {α : Type} (base path : String) (answer : Except Failure α) : Except Stop α :=
  request (base ++ "/" ++ path) answer

/-- An element of `result`. -/
structure User where
  username : String
  email : String
  enabled : Bool
  roles : List String

/-- Neither a default role nor one of UMA. -/
def isShown (role : String) : Bool :=
  !("default-roles-".toList.isPrefixOf role.toList) && !("uma_".toList.isPrefixOf role.toList)

/-- The roles of one user; `SystemExit` is caught. -/
def userRoles (base : String) (kc : Keycloak) (realm uid : String) :
    Except Stop (List String) :=
  match kcGet base ("auth/admin/realms/" ++ realm ++ "/users/" ++ uid ++ "/role-mappings/realm")
      (kc.roles realm uid) with
  | .ok roles => .ok roles
  | .error (.systemExit _) => .ok []
  | .error .raised => .error .raised

def userWithRoles (base : String) (kc : Keycloak) (realm : String) (user : KcUser) :
    Except Stop User := do
  let roles ← userRoles base kc realm user.id
  .ok
    { username := user.username.getD ""
      email := user.email.getD "—"
      enabled := user.enabled.getD false
      roles := roles.filter isShown }

def sortedByName (users : List User) : List User :=
  users.mergeSort fun u u' => decide (u.username ≤ u'.username)

def getUsersWithRoles (base : String) (kc : Keycloak) (realm : String) :
    Except Stop (List User) := do
  let users ← kcGet base
    ("auth/admin/realms/" ++ realm ++ "/users?max=200&briefRepresentation=false") (kc.users realm)
  let result ← users.mapM (userWithRoles base kc realm)
  .ok (sortedByName result)

/-! ## Markdown output -/

def enabledBadge (enabled : Bool) : String := if enabled then "" else " *(disabled)*"

def rolesText (roles : List String) : String :=
  if roles = [] then "*(none)*"
  else ", ".intercalate (roles.map fun role => "`" ++ role ++ "`")

/-- `user["email"] or "—"` -/
def emailText (email : String) : String := if email = "" then "—" else email

def rowOf (realm : String) (user : User) : List String :=
  [realm, user.username ++ enabledBadge user.enabled, emailText user.email,
    rolesText user.roles] ++ endpointLabels.map fun label => accessFor user.roles label.1

def rowLine (row : List String) : String := "| " ++ " | ".intercalate row ++ " |"

def anomaliesOf (realm : String) (user : User) : List String :=
  (if user.enabled then []
    else ["⚠️ `" ++ realm ++ "/" ++ user.username ++ "` is **disabled** but still exists."]) ++
  (if user.roles = [] then
      ["ℹ️ `" ++ realm ++ "/" ++ user.username ++ "` has **no realm roles** assigned."]
    else []) ++
  (if realm = "cdm" ∧ user.roles.any (fun r => r == "cdm-operator" || r == "cdm-viewer") then
      ["⚠️ `cdm/" ++ user.username ++ "` (`" ++ rolesText user.roles ++
        "`) gets **postgres superuser** access " ++
        "via pgAdmin — restrict to `cdm-admin` only in production."]
    else [])

/-- `strftime("%Y-%m-%d %H:%M UTC")` -/
def snapshotTime (now : Datetime) : String :=
  let (year, month, day) := Datetime.ymd (now.micros / Datetime.microsPerDay)
  let seconds := now.micros % Datetime.microsPerDay / 1000000
  Datetime.pad 4 year ++ "-" ++ Datetime.pad 2 month ++ "-" ++ Datetime.pad 2 day ++ " " ++
    Datetime.pad 2 (seconds / 3600) ++ ":" ++ Datetime.pad 2 (seconds / 60 % 60) ++ " UTC"

def headerCols : List String :=
  ["Realm", "Username", "Email", "Roles"] ++ endpointLabels.map Prod.snd

def delimiterLine : String := "|" ++ "|".intercalate (headerCols.map fun _ => "---") ++ "|"

def headLines (now : Datetime) : List String :=
  ["<!-- Generated by generate-access-matrix.py on " ++ snapshotTime now ++ " -->", "",
    "> **Snapshot generated:** " ++ snapshotTime now ++ "  ",
    "> Re-run `python3 keycloak/generate-access-matrix.py` to refresh.", "",
    rowLine headerCols]

def anomalyLines (anomalies : List String) : List String :=
  if anomalies = [] then []
  else ["", "### Anomalies & Security Notes", ""] ++ anomalies.map fun note => "- " ++ note

/-- The lines that `render_matrix` joins. -/
def renderMatrix (now : Datetime) (usersByRealm : List (String × List User)) : List String :=
  headLines now ++ delimiterLine ::
    ((usersByRealm.flatMap fun users => users.2.map fun user => rowLine (rowOf users.1 user)) ++
      anomalyLines (usersByRealm.flatMap fun users => users.2.flatMap (anomaliesOf users.1)))

/-- The lines of the page before the matrix. -/
def pageHead : List String :=
  ["# Access Matrix — Live Snapshot", "",
    "This file is **auto-generated** by `provider-stack/keycloak/generate-access-matrix.py`.",
    "For the canonical reference (including footnotes, endpoint descriptions, and role",
    "explanations) see [access-matrix.md](access-matrix.md).", "", "---", "",
    "## Live User Access Matrix", ""]

/-- The lines behind it. -/
def pageTail : List String :=
  ["", "---", "", "## Legend", "", "| Symbol | Meaning |", "|---|---|",
    "| ✅ | Full / Admin access |", "| 🔵 | Editor / Write access |",
    "| 👁 | Read-only / Viewer access |", "| ⚠️ | Access granted but requires attention |",
    "| ✗ | No access |", "",
    "[^1]: pgAdmin grants all authenticated cdm realm users the shared `postgres` superuser",
    "      connection via `pg_service.conf`.  Restrict to `cdm-admin` only in production.",
    "[^4]: `platform-admin` = KC master-realm superadmin; `init-tenants.sh` grants realm-admin.",
    "[^5]: `rabbitmq.tag:monitoring` is registered but not a default scope — assign explicitly.",
    ""]

def renderFullPage (now : Datetime) (usersByRealm : List (String × List User)) : String :=
  "\n".intercalate (pageHead ++ renderMatrix now usersByRealm ++ pageTail)

/-! ## Entry point -/

/-- The users of a realm; `SystemExit` is caught here, too. -/
def realmUsers (base : String) (kc : Keycloak) (realm : String) : Except Stop (List User) :=
  match getUsersWithRoles base kc realm with
  | .ok users => .ok users
  | .error (.systemExit _) => .ok []
  | .error .raised => .error .raised

/-- `main`: the page that is printed, for the one realm that is asked for. -/
def main (base : String) (kc : Keycloak) (now : Datetime) : Except Stop String := do
  let _ ← getAdminToken base kc
  let users ← realmUsers base kc "cdm"
  .ok (renderFullPage now [("cdm", users)])

end CompleteDeviceManagement.Source.AccessMatrix
