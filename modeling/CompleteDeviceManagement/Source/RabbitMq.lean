import CompleteDeviceManagement.Source.Runtime

/-!
# The RabbitMQ client, and the broker behind it

Source: glue-services/iot-bridge-api/app/clients/rabbitmq.py and
provider-stack/rabbitmq/definitions.json.tpl. The broker is what the Management
API does to users, vhosts and permissions: PUT on an existing user replaces its
password and tags, on an existing vhost its description; DELETE removes the
entity with its permissions, and a permission needs both its user and its vhost.
-/

set_option autoImplicit false

namespace CompleteDeviceManagement.Source.RabbitMq
open CompleteDeviceManagement.Library CompleteDeviceManagement.Source.Runtime
open CompleteDeviceManagement.Library.Fallible

/-! ## `RabbitMQClient` -/

structure RabbitMQClient where
  mgmtUrl : String
  adminUser : String
  adminPassword : String

def raiseForStatus (resp : Response) (action : String) : App Unit :=
  if resp.isSuccess then pure ()
  else fail (.rabbitMqError ("RabbitMQ API: " ++ action ++ " failed with HTTP " ++
    toString resp.status ++ ": " ++ prefixOf resp.text 200))

namespace RabbitMQClient

variable (self : RabbitMQClient)

/-- One call; the statuses in `expected` pass without a look at the rest. -/
def request (call : RabbitCall) (expected : List Nat) (action : String) : App Unit := do
  let resp ← exchange (.rabbitmq self.mgmtUrl self.adminUser self.adminPassword call)
  if resp.status ∈ expected then pure () else raiseForStatus resp action

def createVhost (name : String) : App Unit :=
  self.request (.putVhost name ("Tenant vHost: " ++ name)) [201, 204]
    ("create vhost '" ++ name ++ "'")

def deleteVhost (name : String) : App Unit :=
  self.request (.deleteVhost name) [204, 404] ("delete vhost '" ++ name ++ "'")

def createUser (username password tags : String) : App Unit :=
  self.request (.putUser username password tags) [201, 204] ("create user '" ++ username ++ "'")

def deleteUser (username : String) : App Unit :=
  self.request (.deleteUser username) [204, 404] ("delete user '" ++ username ++ "'")

def setPermissions (username vhost : String) : App Unit :=
  self.request (.putPermissions username vhost ".*" ".*" ".*") [201, 204]
    ("set permissions for '" ++ username ++ "' on '" ++ vhost ++ "'")

def provisionTenant (tenantId password : String) : App Unit := do
  self.createVhost tenantId
  self.createUser tenantId password "none"
  self.setPermissions tenantId tenantId

def deprovisionTenant (tenantId : String) : App Unit := do
  self.deleteVhost tenantId
  self.deleteUser tenantId

end RabbitMQClient

/-! ## The broker -/

/-- A user that `definitions.json` gives an empty `password_hash` has no password. -/
structure BrokerUser where
  password : Option String
  tags : String
  deriving DecidableEq

structure Permission where
  configure : String
  write : String
  read : String
  deriving DecidableEq

structure Broker where
  users : Dict String BrokerUser
  /-- by name, with the description -/
  vhosts : Dict String String
  /-- by user and vhost -/
  permissions : Dict (String × String) Permission

/-- The state after one call of the Management API. -/
def Broker.apply (broker : Broker) : RabbitCall → Broker
  | .putVhost name description =>
      { broker with vhosts := broker.vhosts.set name description }
  | .deleteVhost name =>
      { broker with
        vhosts := broker.vhosts.erase name
        permissions := broker.permissions.filterKeys (·.2 ≠ name) }
  | .putUser name password tags =>
      { broker with users := broker.users.set name ⟨some password, tags⟩ }
  | .deleteUser name =>
      { broker with
        users := broker.users.erase name
        permissions := broker.permissions.filterKeys (·.1 ≠ name) }
  | .putPermissions user vhost configure write read =>
      if vhost ∈ broker.vhosts.keys ∧ user ∈ broker.users.keys then
        { broker with
          permissions := broker.permissions.set (user, vhost) ⟨configure, write, read⟩ }
      else broker

/-! ## definitions.json.tpl -/

def platformUsers (adminUser : String) : List String := [adminUser, "system-monitor", "telegraf"]

def platformVhosts : List String := ["/", "cdm-metrics"]

def everything : Permission := ⟨".*", ".*", ".*"⟩

/-- The broker that has imported the rendered template. -/
def Broker.platform (adminUser adminPassword : String) : Broker where
  users := ((Dict.empty.set adminUser ⟨some adminPassword, "administrator"⟩).set
    "system-monitor" ⟨none, ""⟩).set "telegraf" ⟨none, ""⟩
  vhosts := (Dict.empty.set "/" "").set "cdm-metrics" ""
  permissions := (((Dict.empty.set (adminUser, "/") everything).set
    (adminUser, "cdm-metrics") everything).set
    ("system-monitor", "cdm-metrics") ⟨"", ".*", ""⟩).set ("telegraf", "cdm-metrics") everything

end CompleteDeviceManagement.Source.RabbitMq
