import CompleteDeviceManagement.Guarantees.FeedbackUrl
import CompleteDeviceManagement.Library.WorkBoard

/-!
# An update is installed once

The loop keeps nothing between two polls: what it has installed, hawkBit must
know. Seen from the actions it is a worker at a board (`board`), as long as the
component it takes from the link is the action. So over every run an action is
installed at most once, and every feedback goes to the action it was read for,
if and only if no offered link hides its action behind a query (`kept_iff`).
-/

set_option autoImplicit false

namespace CompleteDeviceManagement.Guarantees.UpdateOnce
open CompleteDeviceManagement.Library CompleteDeviceManagement.Source.DdiPoll
  CompleteDeviceManagement.Guarantees.FeedbackUrl
open WorkBoard (Board Hands)

/-! ## The loop as a worker -/

def hands : Point → Hands String
  | .details _ actionId => .holding actionId
  | .acknowledge actionId => .holding actionId
  | .install actionId => .holding actionId
  | .report actionId => .finished actionId
  | .poll => .empty
  | .exited => .empty

def board (s : System) : Board String := ⟨s.actions, s.opened, s.installs, hands s.point⟩

def held : Point → Option String
  | .details _ actionId => some actionId
  | .acknowledge actionId => some actionId
  | .install actionId => some actionId
  | .report actionId => some actionId
  | .poll => none
  | .exited => none

/-- Only a poll gives the loop an action. -/
theorem held_resume {point : Point} {reply : Reply} (busy : point ≠ .poll) {actionId : String}
    (member : actionId ∈ held (resume point reply)) : actionId ∈ held point := by
  cases point with
  | poll => exact absurd rfl busy
  | details deployLink other =>
    cases reply with
    | failed => cases member
    | unreadable => cases member
    | read printed => exact member
  | acknowledge other => exact member
  | install other => exact member
  | report other => cases member
  | exited => cases member

/-- The loop's variable is the action it read, and its posts went where they should. -/
structure Tracks (env : Env) (s : System) : Prop where
  named : ∀ action ∈ s.actions, IsActionId action
  known : s.opened ⊆ s.actions
  current : ∀ actionId ∈ held s.point, actionId = s.reading ∧ actionId ∈ s.actions
  posted : ∀ p ∈ s.posts, resource p.url = feedbackResource env p.action

theorem start_tracks (env : Env) : Tracks env start where
  named := fun _ member => by cases member
  known := List.Subset.refl _
  current := fun _ member => by cases member
  posted := fun _ member => by cases member

/-! ## A POST -/

theorem own_resource (env : Env) {action : String} (named : IsActionId action) :
    resource (ddiBase env ++ "/deploymentBase/" ++ action ++ "/feedback") =
      feedbackResource env action :=
  (resource_iff env named (id_without named (by decide)) (id_without named (by decide))).mpr rfl

theorem post_cases {env : Env} {point : Point} {url body : String}
    (sent : command env point = some (.post url body)) :
    ∃ actionId, url = ddiBase env ++ "/deploymentBase/" ++ actionId ++ "/feedback" ∧
      (point = .acknowledge actionId ∧ body = feedbackBody actionId "proceeding" "none" ∨
        point = .report actionId ∧ body = feedbackBody actionId "closed" "success") := by
  cases point with
  | poll => cases sent
  | details deployLink actionId => cases sent
  | acknowledge actionId =>
    cases sent
    exact ⟨actionId, rfl, .inl ⟨rfl, rfl⟩⟩
  | install actionId => cases sent
  | report actionId =>
    cases sent
    exact ⟨actionId, rfl, .inr ⟨rfl, rfl⟩⟩
  | exited => cases sent

theorem install_point {env : Env} {point : Point} (next : command env point = some .install) :
    ∃ actionId, point = .install actionId := by
  cases point with
  | install actionId => exact ⟨actionId, rfl⟩
  | poll => cases next
  | details deployLink actionId => cases next
  | acknowledge actionId => cases next
  | report actionId => cases next
  | exited => cases next

theorem openAfter_subset (env : Env) (opened : List String) (url body : String) (reply : Reply) :
    openAfter env opened url body reply ⊆ opened := by
  unfold openAfter
  split
  · exact List.Subset.refl _
  · exact List.filter_subset_self _

/-- A feedback that closes nothing leaves the actions as they are. -/
theorem openAfter_unclosed (env : Env) (opened : List String) (url : String) {body : String}
    (reply : Reply) (open_ : closes body = false) :
    openAfter env opened url body reply = opened := by
  unfold openAfter
  split
  · rfl
  · simp [open_]

theorem closed_by {env : Env} {opened : List String} {url body action : String} {reply : Reply}
    (isOpen : action ∈ opened) (shut : action ∉ openAfter env opened url body reply) :
    resource url = feedbackResource env action := by
  by_contra other
  apply shut
  unfold openAfter
  split
  · exact isOpen
  · simp [isOpen, other]

theorem fixed_plain : ∀ text ∈ ["proceeding", "none", "closed", "success"], Plain text := by
  unfold Plain
  decide +kernel

theorem acknowledged_open (env : Env) {action : String} (named : IsActionId action)
    (opened : List String) (url : String) (reply : Reply) :
    openAfter env opened url (feedbackBody action "proceeding" "none") reply = opened := by
  apply openAfter_unclosed
  rw [closes_feedbackBody (plain_id named) (fixed_plain _ (by simp)) (fixed_plain _ (by simp))]
  decide

theorem reported_closed (env : Env) {action : String} (named : IsActionId action)
    (opened : List String) {reply : Reply} (answered : reply ≠ .failed) :
    action ∉ openAfter env opened
      (ddiBase env ++ "/deploymentBase/" ++ action ++ "/feedback")
      (feedbackBody action "closed" "success") reply := by
  unfold openAfter
  rw [if_neg answered, List.mem_filter]
  rintro ⟨-, kept⟩
  rw [own_resource env named, closes_feedbackBody (plain_id named) (fixed_plain _ (by simp))
    (fixed_plain _ (by simp))] at kept
  simp at kept

/-! ## One step -/

section Step

variable {env : Env} {allowed : ActionLink → Prop} {s s' : System}

/-- What every step keeps, if no allowed link hides its action. -/
theorem step_tracks (ends : ∀ link, allowed link → EndsInAction link) (h : Tracks env s)
    (step : Step env allowed s s') : Tracks env s' := by
  cases step with
  | deploys action named fresh =>
    refine ⟨?_, List.cons_subset_cons action h.known, ?_, h.posted⟩
    · intro other member
      rcases List.mem_cons.mp member with rfl | member
      · exact named
      · exact h.named other member
    · intro actionId member
      have current := h.current actionId member
      exact ⟨current.1, List.mem_cons_of_mem action current.2⟩
  | offers link may polls isOpen =>
    have point : resume s.point (.read (link.text ++ "\n")) = .details link.text link.action := by
      rw [polls, resume_offered, (actionId_iff link).mpr (ends link may)]
    rw [point]
    refine ⟨h.named, h.known, ?_, h.posted⟩
    intro actionId member
    cases member
    exact ⟨rfl, h.known isOpen⟩
  | idles reply polls nothing =>
    refine ⟨h.named, h.known, ?_, h.posted⟩
    intro actionId member
    rw [polls] at member
    cases reply with
    | failed => cases member
    | unreadable => cases member
    | read printed =>
      simp only [resume, nothing printed rfl, if_true] at member
      cases member
  | fetches deployLink actionId reply reads =>
    have busy : s.point ≠ .poll := by simp [reads]
    exact ⟨h.named, h.known, fun _ member => h.current _ (held_resume busy member), h.posted⟩
  | posts url body reply sent reached =>
    obtain ⟨actionId, isUrl, holds⟩ := post_cases sent
    have holding : held s.point = some actionId := by
      rcases holds with ⟨atPoint, -⟩ | ⟨atPoint, -⟩
      all_goals rw [atPoint, held]
    have busy : s.point ≠ .poll := by
      intro polls
      rw [polls] at holding
      cases holding
    obtain ⟨reading, known⟩ := h.current actionId holding
    refine ⟨h.named, List.Subset.trans (openAfter_subset env s.opened url body reply) h.known,
      fun _ member => h.current _ (held_resume busy member), ?_⟩
    intro p member
    rcases List.mem_append.mp member with member | member
    · exact h.posted p member
    · rw [List.mem_singleton] at member
      subst member
      rw [isUrl, ← reading]
      exact own_resource env (h.named actionId known)
  | installs reply next =>
    have busy : s.point ≠ .poll := by
      intro polls
      rw [polls] at next
      cases next
    exact ⟨h.named, h.known, fun _ member => h.current _ (held_resume busy member), h.posted⟩
  | restarts ended =>
    exact ⟨h.named, h.known, fun _ member => (by cases member), h.posted⟩

/-- Seen from the actions, every step is one of the worker's, or none. -/
theorem step_board (ends : ∀ link, allowed link → EndsInAction link) (h : Tracks env s)
    (step : Step env allowed s s') :
    board s' = board s ∨ WorkBoard.Step (board s) (board s') := by
  cases step with
  | deploys action named fresh => exact .inr (.putUp action fresh)
  | offers link may polls isOpen =>
    have point : resume s.point (.read (link.text ++ "\n")) = .details link.text link.action := by
      rw [polls, resume_offered, (actionId_iff link).mpr (ends link may)]
    have free : hands s.point = .empty := by rw [polls, hands]
    rw [point]
    exact .inr (.take link.action free isOpen)
  | idles reply polls nothing =>
    have free : hands (resume s.point reply) = hands s.point := by
      rw [polls]
      cases reply with
      | failed => rfl
      | unreadable => rfl
      | read printed => simp only [resume, nothing printed rfl, if_true]
    left
    simp only [board, free]
  | fetches deployLink actionId reply reads =>
    have holding : hands s.point = .holding actionId := by rw [reads, hands]
    cases reply with
    | read printed =>
      left
      simp only [board, reads, resume, hands]
    | failed =>
      right
      rw [reads]
      exact .putBack actionId holding
    | unreadable =>
      right
      rw [reads]
      exact .putBack actionId holding
  | posts url body reply sent reached =>
    obtain ⟨actionId, isUrl, ⟨atPoint, isBody⟩ | ⟨atPoint, isBody⟩⟩ := post_cases sent
    · have current := h.current actionId (by rw [atPoint, held]; rfl)
      left
      simp only [board, atPoint, resume, hands, isBody,
        acknowledged_open env (h.named actionId current.2)]
    · have current := h.current actionId (by rw [atPoint, held]; rfl)
      have named := h.named actionId current.2
      have answered : reply ≠ .failed := by
        apply reached actionId current.2
        rw [isUrl, own_resource env named]
      have finished : hands s.point = .finished actionId := by rw [atPoint, hands]
      right
      rw [atPoint, isUrl, isBody]
      exact .strike actionId _ finished (openAfter_subset env s.opened _ _ reply)
        (reported_closed env named s.opened answered)
  | installs reply next =>
    obtain ⟨actionId, atPoint⟩ := install_point next
    have current := h.current actionId (by rw [atPoint, held]; rfl)
    have holding : hands s.point = .holding actionId := by rw [atPoint, hands]
    right
    rw [← current.1, atPoint]
    exact .work actionId holding
  | restarts ended =>
    left
    simp only [board, ended, hands]

end Step

/-! ## Every run -/

theorem reaches_tracks {env : Env} {allowed : ActionLink → Prop} {s : System}
    (ends : ∀ link, allowed link → EndsInAction link) (reached : Reaches env allowed start s) :
    Tracks env s ∧ WorkBoard.Reaches WorkBoard.blank (board s) := by
  induction reached with
  | refl => exact ⟨start_tracks env, .refl⟩
  | tail _ step ih =>
    refine ⟨step_tracks ends ih.1 step, ?_⟩
    rcases step_board ends ih.1 step with same | worked
    · rw [same]
      exact ih.2
    · exact ih.2.tail worked

/-- Every feedback went to the action it was read for, and no action was
installed twice. -/
def Kept (env : Env) (s : System) : Prop :=
  (∀ p ∈ s.posts, resource p.url = feedbackResource env p.action) ∧ s.installs.Nodup

theorem reaches_kept {env : Env} {allowed : ActionLink → Prop} {s : System}
    (ends : ∀ link, allowed link → EndsInAction link) (reached : Reaches env allowed start s) :
    Kept env s := by
  obtain ⟨tracks, worked⟩ := reaches_tracks ends reached
  exact ⟨tracks.posted, worked.done_once⟩

/-! ## A link that hides its action -/

section Iteration

variable (env : Env) {allowed : ActionLink → Prop}

def feedbackUrl (actionId : String) : String :=
  ddiBase env ++ "/deploymentBase/" ++ actionId ++ "/feedback"

def acknowledgement (link : ActionLink) : Post where
  action := link.action
  url := feedbackUrl env (basename link.text)
  body := feedbackBody (basename link.text) "proceeding" "none"

def report (link : ActionLink) : Post where
  action := link.action
  url := feedbackUrl env (basename link.text)
  body := feedbackBody (basename link.text) "closed" "success"

/-- The actions that are open when a whole iteration with the link is over. -/
def leftOpen (opened : List String) (link : ActionLink) : List String :=
  openAfter env (openAfter env opened (acknowledgement env link).url
    (acknowledgement env link).body (.read "")) (report env link).url (report env link).body
    (.read "")

/-- An iteration in which every request is answered. -/
def iterated (s : System) (link : ActionLink) : System where
  actions := s.actions
  opened := leftOpen env s.opened link
  point := .poll
  reading := link.action
  posts := s.posts ++ [acknowledgement env link] ++ [report env link]
  installs := s.installs ++ [link.action]

theorem reaches_iterated {s : System} {link : ActionLink} (may : allowed link)
    (polls : s.point = .poll) (isOpen : link.action ∈ s.opened) :
    Reaches env allowed s (iterated env s link) := by
  have offered : Step env allowed s
      { s with point := .details link.text (basename link.text), reading := link.action } := by
    have step : Step env allowed s _ := .offers link may polls isOpen
    rwa [polls, resume_offered] at step
  have fetched : Step env allowed
      { s with point := .details link.text (basename link.text), reading := link.action }
      { s with point := .acknowledge (basename link.text), reading := link.action } :=
    .fetches link.text (basename link.text) (.read "") rfl
  have acknowledged : Step env allowed
      { s with point := .acknowledge (basename link.text), reading := link.action }
      { s with
        point := .install (basename link.text)
        reading := link.action
        opened := openAfter env s.opened (acknowledgement env link).url
          (acknowledgement env link).body (.read "")
        posts := s.posts ++ [acknowledgement env link] } :=
    .posts _ _ (.read "") rfl (fun _ _ _ => by simp)
  have installed : Step env allowed
      { s with
        point := .install (basename link.text)
        reading := link.action
        opened := openAfter env s.opened (acknowledgement env link).url
          (acknowledgement env link).body (.read "")
        posts := s.posts ++ [acknowledgement env link] }
      { s with
        point := .report (basename link.text)
        reading := link.action
        opened := openAfter env s.opened (acknowledgement env link).url
          (acknowledgement env link).body (.read "")
        posts := s.posts ++ [acknowledgement env link]
        installs := s.installs ++ [link.action] } :=
    .installs (.read "") rfl
  have reported : Step env allowed
      { s with
        point := .report (basename link.text)
        reading := link.action
        opened := openAfter env s.opened (acknowledgement env link).url
          (acknowledgement env link).body (.read "")
        posts := s.posts ++ [acknowledgement env link]
        installs := s.installs ++ [link.action] }
      (iterated env s link) :=
    .posts _ _ (.read "") rfl (fun _ _ _ => by simp)
  exact ((((Relation.ReflTransGen.single offered).tail fetched).tail acknowledged).tail
    installed).tail reported

/-- What is left open are the actions that the loop's variable does not name. -/
theorem leftOpen_keeps {opened : List String} {link : ActionLink} {action : String}
    (named : IsActionId action) (other : basename link.text ≠ action) (isOpen : action ∈ opened) :
    action ∈ leftOpen env opened link := by
  have astray : resource (feedbackUrl env (basename link.text)) ≠ feedbackResource env action :=
    fun same => other ((link_resource_iff env link named).mp same)
  simp [leftOpen, openAfter, acknowledgement, report, astray, isOpen]

/-- hawkBit after it has opened the actions, none of them twice. -/
def deployed (actions : List String) : System :=
  { start with actions := actions, opened := actions }

theorem reaches_deployed {actions : List String} (named : ∀ action ∈ actions, IsActionId action)
    (nodup : actions.Nodup) : Reaches env allowed start (deployed actions) := by
  induction actions with
  | nil => exact .refl
  | cons action actions ih =>
    obtain ⟨fresh, rest⟩ := List.nodup_cons.mp nodup
    have before := ih (fun other member => named other (List.mem_cons_of_mem action member)) rest
    exact before.tail (.deploys action (named action List.mem_cons_self) fresh)

/-- A hidden action is installed as often as the loop comes round, and no feedback
on it arrives. -/
theorem reinstalled {link : ActionLink} (may : allowed link) (hidden : ¬ EndsInAction link)
    (n : Nat) :
    ∃ s, Reaches env allowed start s ∧ s.point = .poll ∧ link.action ∈ s.opened ∧
      s.installs = List.replicate n link.action ∧ s.posts.length = 2 * n ∧
      ∀ p ∈ s.posts, p.action = link.action ∧
        resource p.url ≠ feedbackResource env link.action := by
  have other : basename link.text ≠ link.action := fun same => hidden ((actionId_iff link).mp same)
  have astray : resource (feedbackUrl env (basename link.text)) ≠
      feedbackResource env link.action :=
    fun same => other ((link_resource_iff env link link.named).mp same)
  induction n with
  | zero =>
    have first : Reaches env allowed start (deployed [link.action]) :=
      reaches_deployed env (by simpa using link.named) (List.nodup_singleton _)
    exact ⟨_, first, rfl, List.mem_cons_self, rfl, rfl, fun _ member => by cases member⟩
  | succ n ih =>
    obtain ⟨s, reached, polls, isOpen, installs, posts, lost⟩ := ih
    refine ⟨iterated env s link, reached.trans (reaches_iterated env may polls isOpen), rfl,
      leftOpen_keeps env link.named other isOpen, ?_, ?_, ?_⟩
    · rw [iterated, installs, List.replicate_succ']
    · simp only [iterated, List.length_append, List.length_singleton, posts]
      omega
    · intro p member
      rcases List.mem_append.mp member with member | last
      · rcases List.mem_append.mp member with member | first
        · exact lost p member
        · rw [List.mem_singleton.mp first]
          exact ⟨rfl, astray⟩
      · rw [List.mem_singleton.mp last]
        exact ⟨rfl, astray⟩

end Iteration

/-- What the loop carries is a component of a link, and if it is an action at all,
the one that was read; a report comes behind an install. -/
structure Honest (s : System) : Prop where
  named : ∀ action ∈ s.actions, IsActionId action
  plain : ∀ actionId ∈ held s.point,
    '/' ∉ actionId.toList ∧ '#' ∉ actionId.toList ∧ Plain actionId
  own : ∀ actionId ∈ held s.point, IsActionId actionId → actionId = s.reading
  reported : ∀ actionId, s.point = .report actionId → s.reading ∈ s.installs
  closed : ∀ action ∈ s.actions, action ∉ s.opened → action ∈ s.installs

theorem start_honest : Honest start where
  named := fun _ member => by cases member
  plain := fun _ member => by cases member
  own := fun _ member => by cases member
  reported := fun _ atPoint => by cases atPoint
  closed := fun _ member => by cases member

section Honesty

variable {env : Env} {allowed : ActionLink → Prop} {s s' : System}

/-- Only an installed action is at the report. -/
theorem report_resume {point : Point} {reply : Reply} {actionId : String}
    (atPoint : resume point reply = .report actionId) : point = .install actionId := by
  cases point with
  | poll =>
    cases reply with
    | failed => cases atPoint
    | unreadable => cases atPoint
    | read printed =>
      simp only [resume] at atPoint
      split at atPoint
      · cases atPoint
      · cases atPoint
  | details deployLink other => cases reply <;> cases atPoint
  | acknowledge other => cases atPoint
  | install other =>
    cases atPoint
    rfl
  | report other => cases atPoint
  | exited => cases atPoint

/-- What is held and read is as before, and no report begins. -/
theorem Honest.of_resume (h : Honest s) {reply : Reply} (busy : s.point ≠ .poll)
    (early : ∀ actionId, s.point ≠ .install actionId) :
    Honest { s with point := resume s.point reply } where
  named := h.named
  plain := fun _ member => h.plain _ (held_resume busy member)
  own := fun _ member => h.own _ (held_resume busy member)
  reported := fun actionId atPoint => absurd (report_resume atPoint) (early actionId)
  closed := h.closed

theorem step_honest
    (own : ∀ link, allowed link → IsActionId (basename link.text) →
      basename link.text = link.action)
    (h : Honest s) (step : Step env allowed s s') : Honest s' := by
  cases step with
  | deploys action named fresh =>
    refine ⟨?_, h.plain, h.own, h.reported, ?_⟩
    · intro other member
      rcases List.mem_cons.mp member with rfl | member
      · exact named
      · exact h.named other member
    · intro other member shut
      rcases List.mem_cons.mp member with rfl | member
      · exact absurd List.mem_cons_self shut
      · exact h.closed other member fun isOpen => shut (List.mem_cons_of_mem action isOpen)
  | offers link may polls isOpen =>
    rw [polls, resume_offered]
    refine ⟨h.named, ?_, ?_, fun _ atPoint => (by cases atPoint), h.closed⟩
    · intro actionId member
      have same : basename link.text = actionId := Option.some.inj member
      rw [← same]
      exact ⟨(actionId_without link).1, (actionId_without link).2, plain_actionId link⟩
    · intro actionId member
      have same : basename link.text = actionId := Option.some.inj member
      rw [← same]
      exact own link may
  | idles reply polls nothing =>
    have still : held (resume s.point reply) = none ∧
        ∀ actionId, resume s.point reply ≠ .report actionId := by
      rw [polls]
      cases reply with
      | failed => exact ⟨rfl, fun _ same => by cases same⟩
      | unreadable => exact ⟨rfl, fun _ same => by cases same⟩
      | read printed =>
        simp only [resume, nothing printed rfl, if_true]
        exact ⟨rfl, fun _ same => by cases same⟩
    refine ⟨h.named, ?_, ?_, fun actionId atPoint => absurd atPoint (still.2 actionId), h.closed⟩
    all_goals
      intro actionId member
      have empty : actionId ∈ held (resume s.point reply) := member
      rw [still.1] at empty
      cases empty
  | fetches deployLink actionId reply reads =>
    exact h.of_resume (by simp [reads]) (by simp [reads])
  | posts url body reply sent reached =>
    obtain ⟨actionId, isUrl, ⟨atPoint, isBody⟩ | ⟨atPoint, isBody⟩⟩ := post_cases sent
    · have plain := (h.plain actionId (by rw [atPoint, held]; rfl)).2.2
      have shut : closes body = false := by
        rw [isBody, closes_feedbackBody plain (fixed_plain _ (by simp)) (fixed_plain _ (by simp))]
        decide
      have later : Honest { s with point := resume s.point reply } :=
        h.of_resume (by simp [atPoint]) (by simp [atPoint])
      rw [openAfter_unclosed env s.opened url reply shut]
      exact ⟨later.named, later.plain, later.own, later.reported, later.closed⟩
    · have holding : actionId ∈ held s.point := by
        rw [atPoint, held]
        rfl
      obtain ⟨slash, hash, -⟩ := h.plain actionId holding
      rw [atPoint]
      refine ⟨h.named, fun _ member => (by cases member), fun _ member => (by cases member),
        fun _ same => (by cases same), ?_⟩
      intro action member shut
      by_cases isOpen : action ∈ s.opened
      · have reaches := closed_by isOpen shut
        rw [isUrl, resource_iff env (h.named action member) slash hash] at reaches
        have reading := h.own actionId holding (reaches ▸ h.named action member)
        rw [← reaches, reading]
        exact h.reported actionId atPoint
      · exact h.closed action member isOpen
  | installs reply next =>
    obtain ⟨actionId, atPoint⟩ := install_point next
    refine ⟨h.named, fun _ member => h.plain _ (held_resume (by simp [atPoint]) member),
      fun _ member => h.own _ (held_resume (by simp [atPoint]) member),
      fun _ _ => List.mem_append_right _ (List.mem_singleton.mpr rfl), ?_⟩
    intro action member shut
    exact List.mem_append_left _ (h.closed action member shut)
  | restarts ended =>
    exact ⟨h.named, fun _ member => (by cases member), fun _ member => (by cases member),
      fun _ atPoint => (by cases atPoint), h.closed⟩

theorem reaches_honest
    (own : ∀ link, allowed link → IsActionId (basename link.text) →
      basename link.text = link.action)
    (reached : Reaches env allowed start s) : Honest s := by
  induction reached with
  | refl => exact start_honest
  | tail _ step ih => exact step_honest own ih step

end Honesty

end CompleteDeviceManagement.Guarantees.UpdateOnce
