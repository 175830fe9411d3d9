import CompleteDeviceManagement.Library.Dict
import CompleteDeviceManagement.Library.JsonLine
import CompleteDeviceManagement.Library.Utf8
import Mathlib.Data.List.DropRight

/-!
# pgAdmin: the discovery proxy and the repair of its database

Source: provider-stack/pgadmin/oidc-proxy.py, and the Python program in
provider-stack/pgadmin/docker-entrypoint.sh. A pass over the database is one
transaction: where anything raises it is not committed. Of the rows only the
columns are kept that the program reads or writes.
-/

set_option autoImplicit false

namespace CompleteDeviceManagement.Source.PgAdmin
open CompleteDeviceManagement.Library

/-! ## oidc-proxy.py -/

structure ProxyEnv where
  keycloakInternalUrl : Option String
  keycloakRealm : Option String

namespace ProxyEnv

variable (env : ProxyEnv)

def keycloakInternal : String := env.keycloakInternalUrl.getD "http://keycloak:8080"

def realm : String := env.keycloakRealm.getD "provider"

def discoveryPath : String := "/auth/realms/" ++ env.realm ++ "/.well-known/openid-configuration"

def jwksPath : String := "/auth/realms/" ++ env.realm ++ "/protocol/openid-connect/certs"

end ProxyEnv

/-- What `json.loads` makes of the answer; `urlError` is caught, `raised` is not. -/
inductive Fetched where
  | urlError
  | raised
  | document (doc : Json)

structure Response where
  status : Nat
  headers : List (String × String)
  body : List UInt8

/-- `path.rstrip("/")` -/
def rstripSlash (path : String) : String := .ofList (path.toList.rdropWhile (· == '/'))

/-- `json.dumps(doc).encode()` -/
def dumped (doc : Json) : List UInt8 := Utf8.encode (JsonLine.line JsonText.Style.ascii [' '] doc)

/-- `none` where the handler raises: then nothing is answered. -/
def doGet (env : ProxyEnv) (fetch : String → Fetched) (path : String) : Option Response :=
  if rstripSlash path ∉ ["", "/openid-configuration"] then some ⟨404, [], []⟩
  else
    match fetch (env.keycloakInternal ++ env.discoveryPath) with
    | .urlError => some ⟨502, [], []⟩
    | .raised => none
    | .document (.obj doc) =>
        let body := dumped
          (.obj (Dict.store "jwks_uri" (.str (env.keycloakInternal ++ env.jwksPath)) doc))
        some ⟨200, [("Content-Type", "application/json"),
          ("Content-Length", toString body.length)], body⟩
    -- `doc["jwks_uri"] = …` raises a TypeError
    | .document _ => none

/-! ## docker-entrypoint.sh -/

structure ServerRow where
  id : Int
  host : Option String
  port : Option Int
  username : Option String
  savePassword : Int
  password : Option String
  service : Option String
  passexecCmd : Option String
  passexecExpiration : Option Int
  connectionParams : Option String
  shared : Option Int
  sharedUsername : Option String
  deriving DecidableEq

structure SharedServerRow where
  id : Int
  host : Option String
  port : Option Int
  username : Option String
  savePassword : Int
  password : Option String
  service : Option String
  connectionParams : Option String
  deriving DecidableEq

structure Database where
  server : List ServerRow
  sharedserver : List SharedServerRow
  deriving DecidableEq

/-- `host='timescaledb' AND port=5432` -/
def isTimescale (host : Option String) (port : Option Int) : Bool :=
  host == some "timescaledb" && port == some 5432

def ServerRow.found (row : ServerRow) : Bool := isTimescale row.host row.port

def SharedServerRow.found (row : SharedServerRow) : Bool := isTimescale row.host row.port

/-- The address of the admin, and whether the table has the column `shared`. -/
structure Settings where
  email : String
  sharedColumn : Bool

variable (settings : Settings)

def ServerRow.configured (row : ServerRow) : ServerRow :=
  { row with
    savePassword := 0, password := none, username := some "postgres"
    service := some "cdm_admin"
    passexecCmd := none, passexecExpiration := none
    connectionParams := some "\x7b\x7d"
    shared := if settings.sharedColumn then some 1 else row.shared
    sharedUsername := if settings.sharedColumn then some settings.email else row.sharedUsername }

/-- `SELECT id FROM server WHERE … ORDER BY id` -/
def foundIds (rows : List ServerRow) : List Int :=
  ((rows.filter ServerRow.found).map ServerRow.id).mergeSort

def dropDuplicates (rows : List ServerRow) : List ServerRow :=
  if 1 < (foundIds rows).length then rows.filter fun row => row.id ∉ (foundIds rows).tail else rows

/-- An id of 0 is falsy. -/
def repairServer (rows : List ServerRow) : List ServerRow :=
  match (foundIds rows).head? with
  | none => dropDuplicates rows
  | some sid =>
      if sid = 0 then dropDuplicates rows
      else (dropDuplicates rows).map fun row =>
        if row.id = sid then row.configured settings else row

def SharedServerRow.needFix (row : SharedServerRow) : Bool :=
  row.username != some "postgres" || row.savePassword != 0 || row.password != none ||
    row.service != some "cdm_admin"

def SharedServerRow.configured (row : SharedServerRow) : SharedServerRow :=
  { row with
    username := some "postgres", savePassword := 0, password := none
    service := some "cdm_admin", connectionParams := some "\x7b\x7d" }

def repairShared (rows : List SharedServerRow) (ssId : Int) : List SharedServerRow :=
  match rows.find? fun row => row.id == ssId with
  | none => rows
  | some existing =>
      if existing.needFix then
        rows.map fun row => if row.id = ssId then row.configured else row
      else rows

/-- One round of the loop. -/
def onePass (db : Database) : Database where
  server := repairServer settings db.server
  sharedserver :=
    ((db.sharedserver.filter SharedServerRow.found).map SharedServerRow.id).foldl repairShared
      db.sharedserver

/-- What happens to the database: a round that is committed, one that raises, and
whatever pgAdmin makes of it. -/
inductive Event where
  | passed
  | raised
  | pgAdmin (db : Database)

def step (db : Database) : Event → Database
  | .passed => onePass settings db
  | .raised => db
  | .pgAdmin db' => db'

def run (events : List Event) (db : Database) : Database := events.foldl (step settings) db

end CompleteDeviceManagement.Source.PgAdmin
