import CompleteDeviceManagement.Source.JoinRouter

/-!
# The service: one handler for each request

Source: glue-services/iot-bridge-api/app/main.py, which mounts the two routers.
An `HTTPException` becomes a reply with its status; any other exception that
escapes a handler is answered with 500.
-/

set_option autoImplicit false

namespace CompleteDeviceManagement.Source.Service
open CompleteDeviceManagement.Library CompleteDeviceManagement.Source.Models
  CompleteDeviceManagement.Source.Runtime CompleteDeviceManagement.Source.AdminPortal
  CompleteDeviceManagement.Source.JoinRouter

inductive Endpoint where
  | prepareTenant (body : TenantPrepareRequest)
  | joinHandshake (payload : JoinHandshakePayload)
  | submitJoinRequest (tenantId : String) (payload : JoinRequestPayload)
  | listJoinRequests
  | approveJoinRequest (tenantId : String)
  | rejectJoinRequest (tenantId reason : String)
  | getJoinStatus (tenantId : String)
  | createTenant (body : Except String Json)
  | deleteTenant (realmId : String)

structure Request where
  caller : Caller
  endpoint : Endpoint

inductive Reply where
  | prepared (body : TenantPrepareResponse)
  | joined (body : JoinHandshakeResponse)
  | submitted (body : SubmitResponse)
  | joinRequests (entries : List JoinEntry)
  | approved (body : ApproveResponse)
  | rejected (body : RejectResponse)
  | joinStatus (body : JoinStatusResponse)
  | tenantCreated (body : TenantCreated)
  | tenantDeleted (body : TenantDeleted)
  | refused (refusal : Refusal)
  | httpError (status : Nat) (detail : String)
  | serverError (raised : Raised)

def Reply.statusCode : Reply → Nat
  | .submitted _ => 202
  | .refused refusal => refusal.statusCode
  | .httpError status _ => status
  | .serverError _ => 500
  | _ => 200

def orRefused {α : Type} (reply : α → Reply) : Except Refusal α → Reply
  | .ok body => reply body
  | .error refusal => .refused refusal

def handle (env : Env) (q : Request) : App Reply :=
  match q.endpoint with
  | .prepareTenant body => .prepared <$> prepareTenant env q.caller body
  | .joinHandshake payload => .joined <$> joinHandshake env q.caller payload
  | .submitJoinRequest tenantId payload => .submitted <$> submitJoinRequest env tenantId payload
  | .listJoinRequests => .joinRequests <$> listJoinRequests q.caller
  | .approveJoinRequest tenantId => .approved <$> approveJoinRequest env q.caller tenantId
  | .rejectJoinRequest tenantId reason =>
      .rejected <$> rejectJoinRequest env q.caller tenantId reason
  | .getJoinStatus tenantId => .joinStatus <$> getJoinStatus tenantId
  | .createTenant body => orRefused .tenantCreated <$> createTenant env q.caller body
  | .deleteTenant realmId => orRefused .tenantDeleted <$> deleteTenant env q.caller realmId

def answer : Except Raised Reply → Reply
  | .ok reply => reply
  | .error (.httpException status detail) => .httpError status detail
  | .error raised => .serverError raised

def serve (env : Env) (q : Request) : Proc World HttpRequest HttpResult Reply :=
  (handle env q).run.bind fun result => .ret (answer result)

end CompleteDeviceManagement.Source.Service
