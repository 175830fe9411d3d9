import CompleteDeviceManagement.Source.DdiPoll
import CompleteDeviceManagement.Library.Utf8

/-!
# Where a feedback goes

The loop takes the last component of the link for the action id and puts it into
the URL of the feedback. hawkBit finds the action there if and only if the
component is the id, and it is exactly if the link has no query, or a query that
ends like a path to the action itself (`actionId_iff`).
-/

set_option autoImplicit false

namespace CompleteDeviceManagement.Guarantees.FeedbackUrl
open CompleteDeviceManagement.Library CompleteDeviceManagement.Library.JsonText
  CompleteDeviceManagement.Source.DdiPoll
open CompleteDeviceManagement.Source.InitSubCa (captured captured_newline captured_eq_iff)
open CompleteDeviceManagement.Source.EnrollClients (orDefault)
open PosixPath (slashes)
open JsonText.Style (space_nil)

/-! ## What ids and queries are made of -/

theorem idChar_ne {c mark : Char} (h : isIdChar c = true) (other : isIdChar mark = false) :
    c ≠ mark := by
  intro same
  rw [same, other] at h
  cases h

theorem idChar_printable {c : Char} (h : isIdChar c = true) : 32 ≤ c.toNat := by
  simp only [isIdChar, Ascii.isAlnum, Ascii.isUpper, Ascii.isLower, Ascii.isDigit,
    Bool.or_eq_true, Bool.and_eq_true, decide_eq_true_eq, beq_iff_eq] at h
  have upper : 'A'.toNat = 65 := rfl
  have lower : 'a'.toNat = 97 := rfl
  have digit : '0'.toNat = 48 := rfl
  rcases h with ((((⟨h, -⟩ | ⟨h, -⟩) | ⟨h, -⟩) | rfl) | rfl)
  · have code : 'A'.toNat ≤ c.toNat := h
    omega
  · have code : 'a'.toNat ≤ c.toNat := h
    omega
  · have code : '0'.toNat ≤ c.toNat := h
    omega
  · decide
  · decide

theorem id_without {action : String} (named : IsActionId action) {mark : Char}
    (other : isIdChar mark = false) : mark ∉ action.toList :=
  fun member => idChar_ne (named.2 mark member) other rfl

theorem id_ne_nil {action : String} (named : IsActionId action) : action.toList ≠ [] := by
  intro none
  exact named.1 (String.toList_inj.mp none)

/-! ## The link -/

/-- What stands behind the action in the text of the link. -/
def asks (link : ActionLink) : List Char :=
  match link.query with
  | none => []
  | some q => '?' :: q.toList

theorem link_toList (link : ActionLink) :
    link.text.toList = link.front.toList ++ '/' :: (link.action.toList ++ asks link) := by
  unfold ActionLink.text asks
  cases link.query <;> simp

theorem idChar_queryChar {c : Char} (h : isIdChar c = true) : isQueryChar c = true := by
  have marks : isQueryChar '-' = true ∧ isQueryChar '_' = true := by decide
  simp only [isIdChar, Bool.or_eq_true, beq_iff_eq] at h
  rcases h with (alnum | rfl) | rfl
  · simp [isQueryChar, alnum]
  · exact marks.1
  · exact marks.2

/-- Behind the front of a link stand only characters of a query. -/
theorem tail_queryChar (link : ActionLink) :
    ∀ c ∈ link.action.toList ++ asks link, isQueryChar c = true := by
  intro c member
  rcases List.mem_append.mp member with member | member
  · exact idChar_queryChar (link.named.2 c member)
  · unfold asks at member
    cases hq : link.query with
    | none =>
      rw [hq] at member
      cases member
    | some q =>
      rw [hq] at member
      rcases List.mem_cons.mp member with rfl | member
      · decide
      · exact link.asked q hq c member

theorem tail_without (link : ActionLink) {mark : Char} (other : isQueryChar mark = false) :
    mark ∉ link.action.toList ++ asks link := by
  intro member
  rw [tail_queryChar link mark member] at other
  cases other

/-- The query is absent, or it ends in a slash and the action itself. -/
def EndsInAction (link : ActionLink) : Prop :=
  ∀ q ∈ link.query, ∃ front n, q.toList = front ++ '/' :: (link.action.toList ++ slashes n)

theorem tail_component (link : ActionLink) :
    ∃ c ∈ link.action.toList ++ asks link, c ≠ '/' := by
  obtain ⟨c, rest, letters⟩ := List.exists_cons_of_ne_nil (id_ne_nil link.named)
  have first : c ∈ link.action.toList := by
    rw [letters]
    exact List.mem_cons_self
  exact ⟨c, List.mem_append_left _ first, idChar_ne (link.named.2 c first) (by decide)⟩

/-- The last component is the action exactly if the query leaves it the last. -/
theorem component_iff (link : ActionLink) :
    PosixPath.basename (link.action.toList ++ asks link) = link.action.toList ↔
      EndsInAction link := by
  have plain : '/' ∉ link.action.toList := id_without link.named (by decide)
  rw [PosixPath.basename_eq_iff (id_ne_nil link.named) plain]
  unfold EndsInAction asks
  cases link.query with
  | none =>
    constructor
    · intro _ q member
      cases member
    · intro _
      exact ⟨0, .inl rfl⟩
  | some q =>
    constructor
    · rintro ⟨n, whole | ⟨front, split⟩⟩ q' member
      · have slashed : '?' ∈ slashes n := by
          rw [← List.append_cancel_left whole]
          exact List.mem_cons_self
        have slash := (List.mem_replicate.mp slashed).2
        exact absurd slash (by decide)
      · cases member
        rcases List.append_eq_append_iff.mp split with ⟨middle, -, behind⟩ | ⟨middle, ends, behind⟩
        · cases middle with
          | nil => exact absurd (List.cons.inj behind).1 (by decide)
          | cons c middle => exact ⟨middle, n, (List.cons.inj behind).2⟩
        · cases middle with
          | nil => exact absurd (List.cons.inj behind).1 (by decide)
          | cons c middle =>
            have slash := (List.cons.inj behind).1
            exact absurd (by simp [ends, ← slash]) plain
    · intro ending
      obtain ⟨front, n, split⟩ := ending q rfl
      refine ⟨n, .inr ⟨link.action.toList ++ '?' :: front, ?_⟩⟩
      simp [split]

/-! ## What the loop makes of it -/

theorem link_captured (link : ActionLink) : captured (link.text ++ "\n") = link.text := by
  rw [captured_newline, captured_eq_iff, link_toList]
  intro newline
  have inside : '\n' ∈ link.action.toList ++ asks link := by
    have nonempty : link.action.toList ++ asks link ≠ [] := by simp [id_ne_nil link.named]
    rw [List.getLast?_append_of_ne_nil _ (by simp), List.getLast?_cons_of_ne_nil nonempty]
      at newline
    exact List.mem_of_getLast? newline
  exact tail_without link (by decide) inside

/-- What `basename` prints of the link, in characters. -/
theorem actionId_toList (link : ActionLink) :
    (basename link.text).toList = PosixPath.basename (link.action.toList ++ asks link) := by
  have some := tail_component link
  have printed : PosixPath.basename link.text.toList =
      PosixPath.basename (link.action.toList ++ asks link) := by
    rw [link_toList, PosixPath.basename_behind some]
  have noNewline : '\n' ∉ PosixPath.basename (link.action.toList ++ asks link) :=
    fun member => tail_without link (by decide)
      (PosixPath.mem_of_mem_basename some member)
  have line : String.ofList (PosixPath.basename (link.action.toList ++ asks link) ++ ['\n']) =
      String.ofList (PosixPath.basename (link.action.toList ++ asks link)) ++ "\n" := by
    apply String.toList_injective
    simp
  have kept : captured (.ofList (PosixPath.basename (link.action.toList ++ asks link))) =
      .ofList (PosixPath.basename (link.action.toList ++ asks link)) := by
    rw [captured_eq_iff, String.toList_ofList]
    exact fun newline => noNewline (List.mem_of_getLast? newline)
  unfold basename
  rw [printed, line, captured_newline, kept, String.toList_ofList]

theorem actionId_iff (link : ActionLink) :
    basename link.text = link.action ↔ EndsInAction link := by
  rw [← component_iff, ← actionId_toList, String.toList_inj]

/-- An offered link takes the loop to the deployment. -/
theorem resume_offered (link : ActionLink) :
    resume .poll (.read (link.text ++ "\n")) = .details link.text (basename link.text) := by
  have nonempty : link.text ≠ "" := by
    intro none
    have letters := link_toList link
    rw [none] at letters
    simp at letters
  simp only [resume, link_captured, if_neg nonempty]

/-! ## The URL of the feedback -/

theorem mark_not_mem_orDefault {setting : Option String} {default : String} {mark : Char}
    (given : ∀ value ∈ setting, mark ∉ value.toList) (fixed : mark ∉ default.toList) :
    mark ∉ (orDefault setting default).toList := by
  unfold orDefault
  split
  · exact fixed
  next value =>
    split
    · exact fixed
    · exact given value rfl

theorem base_without (env : Env) {mark : Char} (marks : mark = '?' ∨ mark = '#') :
    mark ∉ (ddiBase env).toList := by
  have given : ∀ setting ∈ [env.hawkbitUrl, env.hawkbitTenant, env.deviceId],
      ∀ value ∈ setting, mark ∉ value.toList := by
    intro setting member value isValue
    rcases marks with rfl | rfl
    · exact (env.path setting member value isValue).1
    · exact (env.path setting member value isValue).2
  have fixed : ∀ part ∈ ["http://host.docker.internal:8070", "/", "DEFAULT", "/controller/v1/",
      "sim-device-001"], mark ∉ part.toList := by
    rcases marks with rfl | rfl
    · decide +kernel
    · decide +kernel
  have url := mark_not_mem_orDefault (given env.hawkbitUrl (by simp))
    (fixed "http://host.docker.internal:8070" (by simp))
  have tenant := mark_not_mem_orDefault (given env.hawkbitTenant (by simp))
    (fixed "DEFAULT" (by simp))
  have device := mark_not_mem_orDefault (given env.deviceId (by simp))
    (fixed "sim-device-001" (by simp))
  have slash := fixed "/" (by simp)
  have controller := fixed "/controller/v1/" (by simp)
  unfold ddiBase
  simp only [String.toList_append, List.mem_append, not_or]
  exact ⟨⟨⟨⟨url, slash⟩, tenant⟩, controller⟩, device⟩

/-- The text in front of the action id in the URL of its feedback. -/
def feedbackFront (env : Env) : List Char := (ddiBase env ++ "/deploymentBase/").toList

theorem front_without (env : Env) {mark : Char} (marks : mark = '?' ∨ mark = '#') :
    mark ∉ feedbackFront env := by
  have fixed : mark ∉ "/deploymentBase/".toList := by
    rcases marks with rfl | rfl
    · decide
    · decide
  unfold feedbackFront
  rw [String.toList_append, List.mem_append, not_or]
  exact ⟨base_without env marks, fixed⟩

theorem feedbackUrl_toList (env : Env) (actionId : String) :
    (ddiBase env ++ "/deploymentBase/" ++ actionId ++ "/feedback").toList =
      feedbackFront env ++ (actionId.toList ++ "/feedback".toList) := by
  simp [feedbackFront]

/-- A component with a query of its own loses its end with the query. -/
theorem resource_iff (env : Env) {actionId action : String} (named : IsActionId action)
    (slash : '/' ∉ actionId.toList) (hash : '#' ∉ actionId.toList) :
    resource (ddiBase env ++ "/deploymentBase/" ++ actionId ++ "/feedback") =
      feedbackResource env action ↔ actionId = action := by
  have noHash : '#' ∉ feedbackFront env ++ (actionId.toList ++ "/feedback".toList) := by
    have fixed : '#' ∉ "/feedback".toList := by decide
    simp only [List.mem_append, not_or]
    exact ⟨front_without env (.inr rfl), hash, fixed⟩
  unfold resource feedbackResource
  rw [feedbackUrl_toList, feedbackUrl_toList, Url.before_of_not_mem noHash]
  by_cases asked : '?' ∈ actionId.toList
  · obtain ⟨start, rest, split, first⟩ := List.eq_append_cons_of_mem asked
    have plain : '?' ∉ feedbackFront env ++ start := by
      rw [List.mem_append, not_or]
      exact ⟨front_without env (.inl rfl), first⟩
    have cut : feedbackFront env ++ (actionId.toList ++ "/feedback".toList) =
        (feedbackFront env ++ start) ++ '?' :: (rest ++ "/feedback".toList) := by
      simp [split]
    rw [cut, Url.before_front_mark plain, List.append_cancel_left_eq]
    constructor
    · intro same
      have inside : '/' ∈ start := by
        rw [same]
        exact List.mem_append_right _ (by decide)
      exact absurd (split ▸ List.mem_append_left _ inside) slash
    · intro same
      exact absurd (same ▸ asked) (id_without named (by decide))
  · have plain : '?' ∉ feedbackFront env ++ (actionId.toList ++ "/feedback".toList) := by
      have fixed : '?' ∉ "/feedback".toList := by decide
      simp only [List.mem_append, not_or]
      exact ⟨front_without env (.inl rfl), asked, fixed⟩
    rw [Url.before_of_not_mem plain, List.append_cancel_left_eq, List.append_cancel_right_eq,
      String.toList_inj]

/-- What the loop takes for the action id has no slash and no fragment. -/
theorem actionId_without (link : ActionLink) :
    '/' ∉ (basename link.text).toList ∧ '#' ∉ (basename link.text).toList := by
  have some := tail_component link
  rw [actionId_toList]
  refine ⟨(PosixPath.basename_component some).2, fun member => ?_⟩
  exact tail_without link (by decide)
    (PosixPath.mem_of_mem_basename some member)

/-- A feedback on a link reaches the action `action` only under its own id. -/
theorem link_resource_iff (env : Env) (link : ActionLink) {action : String}
    (named : IsActionId action) :
    resource (ddiBase env ++ "/deploymentBase/" ++ basename link.text ++ "/feedback") =
      feedbackResource env action ↔ basename link.text = action :=
  resource_iff env named (actionId_without link).1 (actionId_without link).2

/-! ## The body of the feedback -/

def Plain (text : String) : Prop :=
  ∀ c ∈ text.toList, 32 ≤ c.toNat ∧ c ≠ '"' ∧ c ≠ '\\'

theorem plain_id {action : String} (named : IsActionId action) : Plain action := by
  intro c member
  have letter := named.2 c member
  exact ⟨idChar_printable letter, idChar_ne letter (by decide), idChar_ne letter (by decide)⟩

theorem queryChar_plain {c : Char} (h : isQueryChar c = true) :
    32 ≤ c.toNat ∧ c ≠ '"' ∧ c ≠ '\\' := by
  have marks : ∀ d ∈ "-._~%!$&'()*+,;=:@/?".toList, 32 ≤ d.toNat ∧ d ≠ '"' ∧ d ≠ '\\' := by
    decide +kernel
  simp only [isQueryChar, Bool.or_eq_true, decide_eq_true_eq] at h
  rcases h with alnum | mark
  · have letter : isIdChar c = true := by simp [isIdChar, alnum]
    exact ⟨idChar_printable letter, idChar_ne letter (by decide), idChar_ne letter (by decide)⟩
  · exact marks c mark

/-- Whatever the loop takes for the action id can stand in a JSON string. -/
theorem plain_actionId (link : ActionLink) : Plain (basename link.text) := by
  intro c member
  rw [actionId_toList] at member
  have inside := PosixPath.mem_of_mem_basename (tail_component link) member
  exact queryChar_plain (tail_queryChar link c inside)

theorem parse_feedbackBody {actionId execution finished : String} (id : Plain actionId)
    (ex : Plain execution) (fin : Plain finished) :
    JsonText.parse (feedbackBody actionId execution finished) = some (.obj
      [("id", .str actionId), ("status", .obj
        [("execution", .str execution), ("result", .obj [("finished", .str finished)])])]) := by
  have keys : ∀ key ∈ ["id", "status", "execution", "result", "finished"], Plain key := by
    unfold Plain
    decide +kernel
  have key : ∀ name ∈ ["id", "status", "execution", "result", "finished"],
      Spells name.toList name.toList := fun name member => spells_plain (keys name member)
  have result := reads_obj space_nil (readsMembers_one (key "finished" (by simp))
    (reads_str (spells_plain fin)) space_nil space_nil space_nil)
  have status := reads_obj space_nil (readsMembers_cons (key "execution" (by simp))
    (reads_str (spells_plain ex)) space_nil space_nil space_nil space_nil
    (readsMembers_one (key "result" (by simp)) result space_nil space_nil space_nil))
  have body := reads_obj space_nil (readsMembers_cons (key "id" (by simp))
    (reads_str (spells_plain id)) space_nil space_nil space_nil space_nil
    (readsMembers_one (key "status" (by simp)) status space_nil space_nil space_nil))
  have parsed := parse_of_reads body space_nil space_nil
  refine Eq.trans (congrArg JsonText.parse ?_) (parsed.trans (congrArg some ?_))
  · apply String.toList_injective
    simp [feedbackBody]
  · simp only [String.ofList_toList]
    rfl

theorem closes_feedbackBody {actionId execution finished : String} (id : Plain actionId)
    (ex : Plain execution) (fin : Plain finished) :
    closes (feedbackBody actionId execution finished) =
      (execution == "closed" && finished == "success") := by
  unfold closes
  rw [parse_feedbackBody id ex fin]
  rfl

end CompleteDeviceManagement.Guarantees.FeedbackUrl
