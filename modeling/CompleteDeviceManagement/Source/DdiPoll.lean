import CompleteDeviceManagement.Library.PosixPath
import CompleteDeviceManagement.Library.Url
import CompleteDeviceManagement.Source.EnrollClients

/-!
# The DDI poll loop of the updater, and hawkBit behind it

Source: device-stack/docker-based/updater/ddi-poll.sh, from the helpers on. The
loop is given as the command it runs next and where it goes on with the reply;
what the three reads of the deployment give is only logged. curl and jq answer
from outside: curl fails, jq cannot read the document (with `set -e` the script
ends and the container starts it again), or jq prints something.
-/

set_option autoImplicit false

namespace CompleteDeviceManagement.Source.DdiPoll
open CompleteDeviceManagement.Library
open CompleteDeviceManagement.Source.InitSubCa (captured)
open CompleteDeviceManagement.Source.EnrollClients (orDefault)

/-! ## The script -/

/-- The settings are parts of the path of a URL. -/
structure Env where
  hawkbitUrl : Option String
  hawkbitTenant : Option String
  deviceId : Option String
  path : ∀ setting ∈ [hawkbitUrl, hawkbitTenant, deviceId], ∀ value ∈ setting,
    '?' ∉ value.toList ∧ '#' ∉ value.toList

def ddiBase (env : Env) : String :=
  orDefault env.hawkbitUrl "http://host.docker.internal:8070" ++ "/" ++
    orDefault env.hawkbitTenant "DEFAULT" ++ "/controller/v1/" ++
    orDefault env.deviceId "sim-device-001"

def basename (path : String) : String :=
  captured (.ofList (PosixPath.basename path.toList ++ ['\n']))

/-- What the loop waits for, with the variables it still uses. -/
inductive Point where
  | poll
  | details (deployLink actionId : String)
  | acknowledge (actionId : String)
  | install (actionId : String)
  | report (actionId : String)
  | exited

inductive Command where
  /-- `curl -sf url`, and the filters that jq applies to the answer -/
  | get (url : String) (filters : List String)
  /-- `curl -sf -X POST url -d body` -/
  | post (url body : String)
  /-- the simulated download, slot write and reboot -/
  | install

inductive Reply where
  | failed
  | unreadable
  | read (printed : String)
  deriving DecidableEq

def feedbackBody (actionId execution finished : String) : String :=
  "\x7b\"id\":\"" ++ actionId ++ "\",\"status\":\x7b\"execution\":\"" ++ execution ++
    "\",\"result\":\x7b\"finished\":\"" ++ finished ++ "\"\x7d\x7d\x7d"

section Loop

variable (env : Env)

def postFeedback (actionId execution finished : String) : Command :=
  .post (ddiBase env ++ "/deploymentBase/" ++ actionId ++ "/feedback")
    (feedbackBody actionId execution finished)

def command : Point → Option Command
  | .poll => some (.get (ddiBase env) ["._links.deploymentBase.href // empty"])
  | .details deployLink _ => some (.get deployLink
      [".deployment.chunks[0].artifacts[0]._links.download.href // empty",
        ".deployment.chunks[0].name // \"unknown\"",
        ".deployment.chunks[0].version // \"unknown\""])
  | .acknowledge actionId => some (postFeedback env actionId "proceeding" "none")
  | .install _ => some .install
  | .report actionId => some (postFeedback env actionId "closed" "success")
  | .exited => none

def resume : Point → Reply → Point
  | .poll, .failed => .poll
  | .poll, .unreadable => .exited
  | .poll, .read printed =>
      let deployLink := captured printed
      if deployLink = "" then .poll else .details deployLink (basename deployLink)
  | .details _ _, .failed => .poll
  | .details _ _, .unreadable => .exited
  | .details _ actionId, .read _ => .acknowledge actionId
  -- `|| true`
  | .acknowledge actionId, _ => .install actionId
  | .install actionId, _ => .report actionId
  -- a failed report is tried again by polling again
  | .report _, _ => .poll
  | .exited, _ => .exited

end Loop

/-! ## hawkBit -/

/-- The part of a URL that says where a request goes. -/
def resource (url : String) : Url.Text := Url.before '?' (Url.before '#' url.toList)

def feedbackResource (env : Env) (action : String) : Url.Text :=
  (ddiBase env ++ "/deploymentBase/" ++ action ++ "/feedback").toList

def member (key : String) : Json → Option Json
  | .obj fields => Json.field? key fields
  | _ => none

/-- The feedback says closed and success. -/
def closes (body : String) : Bool :=
  let status := (JsonText.parse body).bind (member "status")
  (status.bind (member "execution")).any (Json.isText "closed") &&
    ((status.bind (member "result")).bind (member "finished")).any (Json.isText "success")

def isIdChar (c : Char) : Bool := Ascii.isAlnum c || c == '-' || c == '_'

def IsActionId (action : String) : Prop :=
  action ≠ "" ∧ ∀ c ∈ action.toList, isIdChar c = true

/-- What the query of a URL is made of. -/
def isQueryChar (c : Char) : Bool := Ascii.isAlnum c || c ∈ "-._~%!$&'()*+,;=:@/?".toList

/-- A link whose last path segment is the action. -/
structure ActionLink where
  front : String
  action : String
  query : Option String
  path : '?' ∉ front.toList ∧ '#' ∉ front.toList
  named : IsActionId action
  asked : ∀ q ∈ query, ∀ c ∈ q.toList, isQueryChar c = true

def ActionLink.text (link : ActionLink) : String :=
  link.front ++ "/" ++ link.action ++ (match link.query with
    | none => ""
    | some q => "?" ++ q)

/-! ## Both together -/

structure Post where
  action : String
  url : String
  body : String

/-- hawkBit's actions, the loop, and what was seen of it: `reading` is the action
of the link it read last, and a post or an install is recorded with that action. -/
structure System where
  actions : List String
  opened : List String
  point : Point
  reading : String
  posts : List Post
  installs : List String

def start : System := ⟨[], [], .poll, "", [], []⟩

/-- The open actions after a POST; one that fails closes nothing. -/
def openAfter (env : Env) (opened : List String) (url body : String) (reply : Reply) :
    List String :=
  if reply = .failed then opened
  else opened.filter fun action =>
    !(decide (resource url = feedbackResource env action) && closes body)

/-- A step of hawkBit or of the loop. The links offered are of open actions and
`allowed`; what reaches the feedback resource of an action succeeds. -/
inductive Step (env : Env) (allowed : ActionLink → Prop) : System → System → Prop
  | deploys {s : System} (action : String) (named : IsActionId action)
      (fresh : action ∉ s.actions) :
      Step env allowed s { s with actions := action :: s.actions, opened := action :: s.opened }
  | offers {s : System} (link : ActionLink) (may : allowed link) (polls : s.point = .poll)
      (isOpen : link.action ∈ s.opened) :
      Step env allowed s { s with
        point := resume s.point (.read (link.text ++ "\n"))
        reading := link.action }
  | idles {s : System} (reply : Reply) (polls : s.point = .poll)
      (nothing : ∀ printed, reply = .read printed → captured printed = "") :
      Step env allowed s { s with point := resume s.point reply }
  | fetches {s : System} (deployLink actionId : String) (reply : Reply)
      (reads : s.point = .details deployLink actionId) :
      Step env allowed s { s with point := resume s.point reply }
  | posts {s : System} (url body : String) (reply : Reply)
      (sent : command env s.point = some (.post url body))
      (reached : ∀ action ∈ s.actions, resource url = feedbackResource env action →
        reply ≠ .failed) :
      Step env allowed s { s with
        opened := openAfter env s.opened url body reply
        point := resume s.point reply
        posts := s.posts ++ [⟨s.reading, url, body⟩] }
  | installs {s : System} (reply : Reply) (next : command env s.point = some .install) :
      Step env allowed s { s with
        point := resume s.point reply
        installs := s.installs ++ [s.reading] }
  | restarts {s : System} (ended : s.point = .exited) :
      Step env allowed s { s with point := .poll }

def Reaches (env : Env) (allowed : ActionLink → Prop) : System → System → Prop :=
  Relation.ReflTransGen (Step env allowed)

end CompleteDeviceManagement.Source.DdiPoll
