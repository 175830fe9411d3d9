import CompleteDeviceManagement.Guarantees.DeviceCalls
import CompleteDeviceManagement.Library.Session
import CompleteDeviceManagement.Source.AdminPortal

/-!
# Keycloak, RabbitMQ and step-ca in front of the portal

The three services as the portal is promised them, with what it reads or
changes of their state. Keycloak answers 409 to a POST of a realm, a user or a
client that exists and 404 for what is absent; a user conflicts with one of the
same name or the same email. It lists `account-console` among the clients of a
realm until an administrator removes it. An exchange may go wrong before or
after the service has carried the request out.
-/

set_option autoImplicit false

namespace CompleteDeviceManagement.Guarantees.PlatformServices
open CompleteDeviceManagement.Library CompleteDeviceManagement.Source.Runtime
  CompleteDeviceManagement.Source.RabbitMq CompleteDeviceManagement.Source.AdminPortal
open CompleteDeviceManagement.Guarantees.DeviceCalls (Fate Failed)

/-! ## Reading a payload -/

def member (key : String) : Json → Json
  | .obj fields => (Json.field? key fields).getD .null
  | _ => .null

def textOf : Json → String
  | .str text => text
  | _ => ""

def itemsOf : Json → List Json
  | .arr items => items
  | _ => []

def namesOf (items : List Json) : List String := items.map fun item => textOf (member "name" item)

/-! ## Keycloak -/

structure KeycloakUser where
  id : String
  email : String
  password : Option String
  roles : List String

structure Mapper where
  name : String
  audience : Option String

structure Realm where
  roles : List String
  users : Dict String KeycloakUser
  /-- the id of the client `account-console` -/
  accountConsole : Option String
  /-- the protocol mappers of that client -/
  mappers : List Mapper

/-- `clients` are the client ids of the realm cdm that the portal has asked for;
ids are made from `issued`, which counts the requests that may need one. -/
structure Keycloak where
  realms : Dict String Realm
  clients : List String
  issued : Nat

def bare (status : Nat) : Response := ⟨status, "", .error "no body", none⟩

def carrying (body : Json) : Response := ⟨200, "", .ok body, none⟩

def Mapper.json (mapper : Mapper) : Json := .obj
  [("name", .str mapper.name), ("config", .obj (match mapper.audience with
    | none => []
    | some audience => [("included.client.audience", .str audience)]))]

def mapperOf (payload : Json) : Mapper where
  name := textOf (member "name" payload)
  audience := match member "included.client.audience" (member "config" payload) with
    | .str audience => some audience
    | _ => none

def roleJson (role : String) : Json := .obj [("id", .str role), ("name", .str role)]

def newRealm (payload : Json) (id : String) : Realm where
  roles := namesOf (itemsOf (member "realm" (member "roles" payload)))
  users := .empty
  accountConsole := some id
  mappers := []

def newUser (payload : Json) (id : String) : KeycloakUser where
  id := id
  email := textOf (member "email" payload)
  password := (itemsOf (member "credentials" payload)).head?.map fun credential =>
    textOf (member "value" credential)
  roles := []

/-- Of the same name, or of the same email. -/
def Realm.conflicts (realm : Realm) (username email : String) : Bool :=
  (realm.users.get? username).isSome ||
    (email ≠ "" && realm.users.values.any fun user => user.email = email)

def Realm.grant (realm : Realm) (userId : String) (roles : List String) : Realm :=
  { realm with
    users := realm.users.mapValues fun user =>
      if user.id = userId then { user with roles := user.roles ++ roles } else user }

namespace Keycloak

/-- On one realm; 404 if there is none. -/
def inRealm (kc : Keycloak) (realm : String) (act : Realm → Response × Realm) :
    Response × Keycloak :=
  match kc.realms.get? realm with
  | none => (bare 404, kc)
  | some found => ((act found).1, { kc with realms := kc.realms.set realm (act found).2 })

def serve (kc : Keycloak) : HttpRequest → Response × Keycloak
  | .keycloakAdminToken _ _ _ => (carrying (.obj [("access_token", .str "admin-token")]), kc)
  | .keycloakCreateRealm _ _ payload =>
      let name := textOf (member "realm" payload)
      match kc.realms.get? name with
      | some _ => (bare 409, kc)
      | none =>
          (bare 201,
            { kc with
              realms := kc.realms.set name (newRealm payload (toString kc.issued))
              issued := kc.issued + 1 })
  | .keycloakDeleteRealm _ _ realm =>
      match kc.realms.get? realm with
      | none => (bare 404, kc)
      | some _ => (bare 204, { kc with realms := kc.realms.erase realm })
  | .keycloakClients _ _ realm client => kc.inRealm realm fun found =>
      (carrying (.arr (match found.accountConsole with
        | none => []
        | some id =>
            if client = "account-console" then
              [.obj [("id", .str id), ("clientId", .str client)]]
            else [])), found)
  | .keycloakMappers _ _ realm client => kc.inRealm realm fun found =>
      if found.accountConsole = some client then
        (carrying (.arr (found.mappers.map Mapper.json)), found)
      else (bare 404, found)
  | .keycloakAddMapper _ _ realm client payload => kc.inRealm realm fun found =>
      if found.accountConsole = some client then
        if (mapperOf payload).name ∈ found.mappers.map Mapper.name then (bare 409, found)
        else (bare 201, { found with mappers := found.mappers ++ [mapperOf payload] })
      else (bare 404, found)
  | .keycloakCreateUser base _ realm payload =>
      let id := toString kc.issued
      let (resp, kc) := kc.inRealm realm fun found =>
        if found.conflicts (textOf (member "username" payload)) (textOf (member "email" payload))
        then (bare 409, found)
        else
          (⟨201, "", .error "no body",
              some (base ++ "/admin/realms/" ++ realm ++ "/users/" ++ id)⟩,
            { found with
              users := found.users.set (textOf (member "username" payload))
                (newUser payload id) })
      (resp, { kc with issued := kc.issued + 1 })
  | .keycloakRoles _ _ realm => kc.inRealm realm fun found =>
      (carrying (.arr (found.roles.map roleJson)), found)
  | .keycloakAssignRoles _ _ realm userId roles => kc.inRealm realm fun found =>
      if (∃ user ∈ found.users.values, user.id = userId) ∧
          ∀ role ∈ namesOf (itemsOf roles), role ∈ found.roles then
        (bare 204, found.grant userId (namesOf (itemsOf roles)))
      else (bare 404, found)
  | .keycloakCreateClient _ _ payload =>
      let clientId := textOf (member "clientId" payload)
      if clientId ∈ kc.clients then (bare 409, kc)
      else (bare 201, { kc with clients := kc.clients ++ [clientId] })
  | _ => (bare 404, kc)

end Keycloak

/-! ## RabbitMQ -/

/-- What the Management API answers. -/
def status (broker : Broker) : RabbitCall → Nat
  | .putVhost name _ => if name ∈ broker.vhosts.keys then 204 else 201
  | .deleteVhost name => if name ∈ broker.vhosts.keys then 204 else 404
  | .putUser name _ _ => if name ∈ broker.users.keys then 204 else 201
  | .deleteUser name => if name ∈ broker.users.keys then 204 else 404
  | .putPermissions user vhost _ _ _ =>
      if vhost ∈ broker.vhosts.keys ∧ user ∈ broker.users.keys then 204 else 404

/-! ## All of them -/

/-- `provisioners` are the names of those that were added over the Admin API. -/
structure Services where
  keycloak : Keycloak
  broker : Broker
  provisioners : List String

def Services.serve (s : Services) : HttpRequest → Response × Services
  | .rabbitmq _ _ _ call =>
      (bare (status s.broker call), { s with broker := s.broker.apply call })
  | .stepCaAddProvisioner _ _ payload =>
      let name := textOf (member "name" payload)
      if name ∈ s.provisioners then (bare 409, s)
      else (carrying payload, { s with provisioners := s.provisioners ++ [name] })
  | request =>
      ((s.keycloak.serve request).1, { s with keycloak := (s.keycloak.serve request).2 })

/-- One exchange with its fate. -/
def exchanged (request : HttpRequest) (fate : Fate) (s : Services) : HttpResult × Services :=
  match fate with
  | .served => (.response (s.serve request).1, (s.serve request).2)
  | .instead reached result => (result, if reached then (s.serve request).2 else s)

end CompleteDeviceManagement.Guarantees.PlatformServices
