import CompleteDeviceManagement.Guarantees.AccessPage
import Mathlib.Data.List.Forall2

/-!
# The access report

The table of the printed page has one row for each user of the first page of Keycloak's
list. A user whose roles cannot be read is reported like one without any, and a pipe in a
name, an address or a role is not escaped. So the report is complete and honest exactly
if nothing is printed, or all users fit on the page, their roles can be read and nothing
that is shown has a pipe.
-/

set_option autoImplicit false

namespace CompleteDeviceManagement.Guarantees.AccessReport
open CompleteDeviceManagement.Library CompleteDeviceManagement.Library.MarkdownTable
  CompleteDeviceManagement.Source.AccessMatrix CompleteDeviceManagement.Guarantees.AccessLevels
  CompleteDeviceManagement.Guarantees.AccessPage

/-! ## Keycloak -/

def OneLine (s : String) : Prop := '\n' ∉ s.toList ∧ '\r' ∉ s.toList

/-- The `cdm` realm. Of its users Keycloak lists at most 200, and all if there are not
more; no text has a line break. -/
structure Realm where
  users : List KcUser
  /-- the names of a user's realm roles -/
  roles : String → List String
  page : List KcUser
  rest : List KcUser
  listed : (page ++ rest).Perm users
  full : page.length = min 200 users.length
  names : ∀ user ∈ users, ∀ text ∈ user.username, OneLine text
  emails : ∀ user ∈ users, ∀ text ∈ user.email, OneLine text
  roleNames : ∀ uid, ∀ role ∈ roles uid, OneLine role

/-- One run of the script: the realm, and how its requests fail if they do. -/
structure Run where
  realm : Realm
  token : Except Failure String
  listing : Option Failure
  /-- of the role mappings of a user -/
  failing : String → Option Failure

/-- A failure that the script does not catch. -/
def raises : Option Failure → Bool
  | some .other => true
  | _ => false

def answerOf {α : Type} (value : α) : Option Failure → Except Failure α
  | none => .ok value
  | some failure => .error failure

namespace Run

variable (run : Run)

def keycloak : Keycloak where
  token := run.token
  users := fun _ => answerOf run.realm.page run.listing
  roles := fun _ uid => answerOf (run.realm.roles uid) (run.failing uid)

/-- The roles that the script has of a user. -/
def readRoles (uid : String) : List String :=
  if (run.failing uid).isNone then run.realm.roles uid else []

/-- A user as the script keeps it. -/
def kept (user : KcUser) : User where
  username := user.username.getD ""
  email := user.email.getD "—"
  enabled := user.enabled.getD false
  roles := (run.readRoles user.id).filter isShown

/-- The users of the page, one after the other, do not end the script. -/
def raisesFor (users : List KcUser) : Bool := users.any fun user => raises (run.failing user.id)

/-- The script ends without a page. -/
def Aborts : Prop :=
  (∃ failure, run.token = .error failure) ∨ raises run.listing = true ∨
    run.listing = none ∧ run.raisesFor run.realm.page = true

/-- The users that the page is made for. -/
def listedUsers : List User :=
  if run.listing.isNone then sortedByName (run.realm.page.map run.kept) else []

end Run

section Requests

variable (run : Run) (base : String)

theorem userRoles_eq (uid : String) : userRoles base run.keycloak "cdm" uid =
    if raises (run.failing uid) = true then Except.error Stop.raised
    else Except.ok (run.readRoles uid) := by
  unfold userRoles kcGet Run.keycloak Run.readRoles
  dsimp only
  cases run.failing uid with
  | none => simp [answerOf, request, raises]
  | some failure =>
    cases failure with
    | httpError code reason body => simp [answerOf, request, raises]
    | urlError reason => simp [answerOf, request, raises]
    | other => simp [answerOf, request, raises]

theorem userWithRoles_eq (user : KcUser) : userWithRoles base run.keycloak "cdm" user =
    if raises (run.failing user.id) = true then Except.error Stop.raised
    else Except.ok (run.kept user) := by
  rw [userWithRoles, userRoles_eq]
  cases raises (run.failing user.id) with
  | true => rfl
  | false => rfl

/-- The users are read one after the other, up to the first that raises. -/
theorem mapM_users (users : List KcUser) : users.mapM (userWithRoles base run.keycloak "cdm") =
    if run.raisesFor users = true then Except.error Stop.raised
    else Except.ok (users.map run.kept) := by
  induction users with
  | nil => rfl
  | cons user users ih =>
    have first : run.raisesFor (user :: users) =
        (raises (run.failing user.id) || run.raisesFor users) := rfl
    rw [List.mapM_cons, userWithRoles_eq, ih, first]
    cases raises (run.failing user.id) with
    | true => rfl
    | false =>
      cases run.raisesFor users with
      | true => rfl
      | false => rfl

theorem realmUsers_eq : realmUsers base run.keycloak "cdm" =
    if raises run.listing = true ∨ run.listing = none ∧ run.raisesFor run.realm.page = true then
      Except.error Stop.raised
    else Except.ok run.listedUsers := by
  have users : run.keycloak.users "cdm" = answerOf run.realm.page run.listing := rfl
  rw [realmUsers, getUsersWithRoles, kcGet, users]
  unfold Run.listedUsers
  cases run.listing with
  | none =>
    have answer : request (base ++ "/" ++ ("auth/admin/realms/" ++ "cdm" ++
        "/users?max=200&briefRepresentation=false")) (answerOf run.realm.page none) =
          Except.ok run.realm.page := rfl
    have read := mapM_users run base run.realm.page
    rw [answer]
    simp only [bind, Except.bind, read]
    cases run.raisesFor run.realm.page with
    | true => rfl
    | false => rfl
  | some failure =>
    cases failure with
    | httpError code reason body => simp [answerOf, request, raises, bind, Except.bind]
    | urlError reason => simp [answerOf, request, raises, bind, Except.bind]
    | other => simp [answerOf, request, raises, bind, Except.bind]

/-- A page is printed unless the script aborts. -/
theorem main_prints (now : Datetime) (page : String) :
    main base run.keycloak now = .ok page ↔
      ¬ run.Aborts ∧ page = renderFullPage now [("cdm", run.listedUsers)] := by
  have token : getAdminToken base run.keycloak =
      request (base ++ "/auth/realms/master/protocol/openid-connect/token") run.token := rfl
  unfold main Run.Aborts
  rw [token]
  cases run.token with
  | error failure =>
    constructor
    · intro printed
      cases failure with
      | httpError code reason body => cases printed
      | urlError reason => cases printed
      | other => cases printed
    · rintro ⟨runs, -⟩
      exact absurd (Or.inl ⟨failure, rfl⟩) runs
  | ok token =>
    have answer : request (base ++ "/auth/realms/master/protocol/openid-connect/token")
        (Except.ok token) = Except.ok token := rfl
    rw [answer, realmUsers_eq]
    by_cases stops : raises run.listing = true ∨
        run.listing = none ∧ run.raisesFor run.realm.page = true
    · rw [if_pos stops]
      constructor
      · intro printed
        cases printed
      · rintro ⟨runs, -⟩
        exact absurd (Or.inr stops) runs
    · rw [if_neg stops]
      constructor
      · intro printed
        cases printed
        refine ⟨?_, rfl⟩
        rintro (⟨failure, none⟩ | aborts)
        · cases none
        · exact stops aborts
      · rintro ⟨-, rfl⟩
        rfl

end Requests

/-! ## Rows and users -/

section Rows

variable (run : Run)

def shownName (user : KcUser) : String :=
  user.username.getD "" ++ enabledBadge (user.enabled.getD false)

def shownEmail (user : KcUser) : String := emailText (user.email.getD "—")

/-- The roles of the user but for default roles and those of UMA. -/
def shownRoles (user : KcUser) : List String := (run.realm.roles user.id).filter isShown

/-- No roles, and a cross in every other column. -/
def NoAccess (cells : List Text) : Prop :=
  cells[3]? = some "*(none)*".toList ∧ ∀ cell ∈ cells.drop 4, cell = "✗".toList

/-- The row of a user. Without roles and access it belongs to one whose roles were read
and are mapped nowhere. -/
structure RowFor (cells : List Text) (user : KcUser) : Prop where
  eleven : cells.length = 11
  realm : cells[0]? = some "cdm".toList
  name : cells[1]? = some (trim (shownName user).toList)
  email : cells[2]? = some (trim (shownEmail user).toList)
  roles : run.failing user.id = none →
    cells[3]? = some (trim (rolesText (shownRoles run user)).toList)
  honest : NoAccess cells → run.failing user.id = none ∧
    ∀ role ∈ run.realm.roles user.id, ∀ label ∈ endpointLabels, accessOf label.1 role = none

/-- Every user has exactly one row, and every row is that of its user. -/
def Complete (page : String) : Prop :=
  ∃ order, order.Perm run.realm.users ∧ List.Forall₂ (RowFor run) (tableRows page) order

/-- The report is complete and honest if it is printed. -/
def Meets : Prop :=
  ∀ base now page, main base run.keycloak now = .ok page → Complete run page

/-- The users fit on one page, their roles can be read, and nothing shown has a pipe. -/
structure Readable : Prop where
  listed : run.listing = none
  few : run.realm.users.length ≤ 200
  read : ∀ user ∈ run.realm.users, run.failing user.id = none
  names : ∀ user ∈ run.realm.users, ∀ text ∈ user.username, '|' ∉ text.toList
  emails : ∀ user ∈ run.realm.users, ∀ text ∈ user.email, '|' ∉ text.toList
  roles : ∀ user ∈ run.realm.users, ∀ role ∈ shownRoles run user, '|' ∉ role.toList

end Rows

/-! ## Weights of paired lists -/

section Pairs

variable {α β : Type} {R : α → β → Prop} {l : List α} {l' : List β}

theorem exists_pair (pairs : List.Forall₂ R l l') : ∀ a ∈ l, ∃ b, R a b := by
  induction pairs with
  | nil => exact fun a none => absurd none List.not_mem_nil
  | @cons a b l l' first more ih =>
    intro c member
    rcases List.mem_cons.mp member with rfl | member
    · exact ⟨b, first⟩
    · exact ih c member

theorem sum_le_of_pairs (pairs : List.Forall₂ R l l') {f : α → Nat} {g : β → Nat}
    (carried : ∀ a b, R a b → f a ≤ g b) : (l.map f).sum ≤ (l'.map g).sum := by
  induction pairs with
  | nil => exact Nat.le_refl 0
  | cons first more ih =>
    have here := carried _ _ first
    simp only [List.map_cons, List.sum_cons]
    omega

theorem eq_of_sum_le {f g : α → Nat} (below : ∀ a ∈ l, g a ≤ f a)
    (sums : (l.map f).sum ≤ (l.map g).sum) : ∀ a ∈ l, f a = g a := by
  have le : ∀ l : List α, (∀ a ∈ l, g a ≤ f a) → (l.map g).sum ≤ (l.map f).sum := by
    intro l below
    induction l with
    | nil => exact Nat.le_refl 0
    | cons a l ih =>
      have here := below a List.mem_cons_self
      have rest := ih fun c member => below c (List.mem_cons_of_mem a member)
      simp only [List.map_cons, List.sum_cons]
      omega
  induction l with
  | nil => exact fun a none => absurd none List.not_mem_nil
  | cons a l ih =>
    have later : ∀ c ∈ l, g c ≤ f c := fun c member => below c (List.mem_cons_of_mem a member)
    have here := below a List.mem_cons_self
    have rest := le l later
    simp only [List.map_cons, List.sum_cons] at sums
    intro c member
    rcases List.mem_cons.mp member with rfl | member
    · omega
    · exact ih later (by omega) c member

/-- Pairs with the same elements on both sides, none of which gains weight on the way: none
loses any. -/
theorem weights_kept {S : α → α → Prop} {l l' : List α} (pairs : List.Forall₂ S l l')
    (perm : l'.Perm l) {f g : α → Nat} (carried : ∀ a b, S a b → f a ≤ g b)
    (below : ∀ a ∈ l, g a ≤ f a) : ∀ a ∈ l, f a = g a := by
  have sums := sum_le_of_pairs pairs carried
  rw [(perm.map g).sum_nat] at sums
  exact eq_of_sum_le below sums

end Pairs

/-! ## The rows of the page -/

section Script

variable (run : Run)

theorem kept_plain {user : KcUser} (member : user ∈ run.realm.users) :
    PlainUser (run.kept user) := by
  have name := run.realm.names user member
  have email := run.realm.emails user member
  constructor
  · unfold Run.kept
    cases given : user.username with
    | none => exact (by decide : '\n' ∉ "".toList)
    | some text => exact (name text given).1
  · unfold Run.kept
    cases given : user.email with
    | none => exact (by decide : '\n' ∉ "—".toList)
    | some text => exact (email text given).1
  · intro role shown
    have read := List.mem_of_mem_filter shown
    unfold Run.readRoles at read
    split at read
    · exact (run.realm.roleNames user.id role read).1
    · cases read

theorem page_subset {user : KcUser} (member : user ∈ run.realm.page) :
    user ∈ run.realm.users :=
  run.realm.listed.mem_iff.mp (List.mem_append_left _ member)

/-- The users that the page is made for, in their order. -/
theorem listed_order (listed : run.listing = none) :
    ∃ order : List KcUser, order.Perm run.realm.page ∧ run.listedUsers = order.map run.kept := by
  refine ⟨run.realm.page.mergeSort fun user user' =>
    decide ((run.kept user).username ≤ (run.kept user').username), List.mergeSort_perm _ _, ?_⟩
  have sorted : (run.realm.page.mergeSort fun user user' =>
        decide ((run.kept user).username ≤ (run.kept user').username)).map run.kept =
      sortedByName (run.realm.page.map run.kept) :=
    List.map_mergeSort fun user _ user' _ => rfl
  rw [Run.listedUsers, listed, sorted]
  rfl

/-- What Markdown reads of the row of a user. -/
def cellsOf (user : KcUser) : List Text :=
  ((rowOf "cdm" (run.kept user)).map String.toList).flatMap partCells

theorem rows_of_page (now : Datetime) (listed : run.listing = none) :
    ∃ order : List KcUser, order.Perm run.realm.page ∧
      tableRows (renderFullPage now [("cdm", run.listedUsers)]) = order.map (cellsOf run) := by
  obtain ⟨order, perm, users⟩ := listed_order run listed
  refine ⟨order, perm, ?_⟩
  rw [users, tableRows_page, List.map_map]
  · rfl
  · intro user member
    obtain ⟨kcUser, inside, rfl⟩ := List.mem_map.mp member
    exact kept_plain run (page_subset run (perm.mem_iff.mp inside))

end Script

/-! ## No roles -/

theorem rolesText_none {roles : List String}
    (none : trim (rolesText roles).toList = "*(none)*".toList) : roles = [] := by
  by_contra some
  have tick : '`' ∈ (rolesText roles).toList := by
    obtain ⟨role, roles, rfl⟩ := List.exists_cons_of_ne_nil some
    rw [rolesText, if_neg some, String.toList_intercalate, mem_intercalate (by decide)]
    exact ⟨_, List.mem_map_of_mem (List.mem_map_of_mem List.mem_cons_self), by simp⟩
  have counted := count_trim (by decide : isBlank '`' = false) (rolesText roles).toList
  have fixed : "*(none)*".toList.count '`' = 0 := by decide +kernel
  rw [none, fixed] at counted
  exact List.count_eq_zero.mp counted.symm tick

/-- No mapped role is left out of a report. -/
theorem isShown_of_mapped {endpoint role access : String}
    (mapped : accessOf endpoint role = some access) : isShown role = true := by
  have tables : (endpointAccess.all fun entry =>
      entry.2.all fun item => isShown item.1) = true := by
    simp only [endpointAccess, isShown, List.all_cons, List.all_nil]
    repeat rw [String.toList_ofList]
    decide
  obtain ⟨mapping, table, entry⟩ := mem_of_accessOf mapped
  exact List.all_eq_true.mp (List.all_eq_true.mp tables _ table) _ entry

section User

variable {run : Run} {user : KcUser}

theorem unmapped_of_none (none : shownRoles run user = []) :
    ∀ role ∈ run.realm.roles user.id, ∀ label ∈ endpointLabels, accessOf label.1 role = .none := by
  intro role member label _
  cases mapped : accessOf label.1 role with
  | none => rfl
  | some access =>
    have shown : role ∈ shownRoles run user :=
      List.mem_filter.mpr ⟨member, isShown_of_mapped mapped⟩
    rw [none] at shown
    cases shown

/-! ## A row of eleven cells -/

/-- The cell of a part that is a single one. -/
def cellOf (part : Text) : Text := (partCells part).headD []

theorem flatMap_single {parts : List Text} (single : ∀ p ∈ parts, ∃ q, partCells p = [q]) :
    parts.flatMap partCells = parts.map cellOf := by
  induction parts with
  | nil => rfl
  | cons p parts ih =>
    obtain ⟨q, one⟩ := single p List.mem_cons_self
    rw [List.flatMap_cons, List.map_cons, cellOf, one,
      ih fun r member => single r (List.mem_cons_of_mem p member)]
    rfl

theorem count_cellOf {part : Text} (single : ∃ q, partCells part = [q]) :
    (cellOf part).count '\\' + part.count '|' = part.count '\\' := by
  obtain ⟨q, one⟩ := single
  rw [cellOf, one]
  exact count_partCells one

/-- The parts of a user's row. -/
def partsOf (run : Run) (user : KcUser) : List Text :=
  (rowOf "cdm" (run.kept user)).map String.toList

theorem partsOf_eq : partsOf run user =
    ["cdm".toList, (shownName user).toList, (shownEmail user).toList,
      (rolesText (run.kept user).roles).toList] ++
    (endpointLabels.map fun label =>
      accessFor (run.kept user).roles label.1).map String.toList := by
  rw [partsOf, rowOf, List.map_append]
  rfl

theorem partsOf_length : (partsOf run user).length = 11 := by
  rw [partsOf_eq]
  rfl

theorem single_of_eleven (eleven : (cellsOf run user).length = 11) :
    ∀ p ∈ partsOf run user, ∃ q, partCells p = [q] :=
  partCells_single (eleven.trans partsOf_length.symm)

theorem kept_roles (read : run.failing user.id = none) :
    (run.kept user).roles = shownRoles run user := by
  unfold Run.kept Run.readRoles shownRoles
  rw [read]
  rfl

/-- Without pipes a user whose roles were read has the row. -/
theorem rowFor_plain (read : run.failing user.id = none)
    (pipeless : ∀ p ∈ partsOf run user, '|' ∉ p) : RowFor run (cellsOf run user) user := by
  have cut : ∀ parts : List Text, (∀ p ∈ parts, '|' ∉ p) →
      parts.flatMap partCells = parts.map trim := by
    intro parts plain
    induction parts with
    | nil => rfl
    | cons p parts ih =>
      rw [List.flatMap_cons, partCells_plain (plain p List.mem_cons_self),
        ih fun q member => plain q (List.mem_cons_of_mem p member)]
      rfl
  have cells : cellsOf run user = (partsOf run user).map trim := cut _ pipeless
  have realm : trim "cdm".toList = "cdm".toList := by decide
  rw [cells]
  constructor
  · rw [List.length_map, partsOf_length]
  · rw [partsOf_eq]
    exact congrArg some realm
  · rw [partsOf_eq]
    rfl
  · rw [partsOf_eq]
    rfl
  · intro _
    rw [partsOf_eq, kept_roles read]
    rfl
  · intro none
    have fourth := none.1
    rw [partsOf_eq, kept_roles read] at fourth
    exact ⟨read, unmapped_of_none (rolesText_none (Option.some.inj fourth))⟩

/-- The row of a user whose roles were not read is that of one without any. -/
theorem noAccess_of_empty (eleven : (cellsOf run user).length = 11)
    (empty : (run.kept user).roles = []) : NoAccess (cellsOf run user) := by
  have cells : cellsOf run user = (partsOf run user).map cellOf :=
    flatMap_single (single_of_eleven eleven)
  have fixed : cellOf "*(none)*".toList = "*(none)*".toList ∧ cellOf "✗".toList = "✗".toList := by
    decide +kernel
  rw [cells, partsOf_eq, empty]
  constructor
  · exact congrArg some fixed.1
  · intro cell member
    have access : cell ∈ ((endpointLabels.map fun label => accessFor [] label.1).map
        String.toList).map cellOf := member
    simp only [List.mem_map, exists_exists_and_eq_and] at access
    obtain ⟨label, -, rfl⟩ := access
    exact fixed.2

/-! ## Backslashes -/

/-- In the cells that show the user's texts. -/
def backslashes (cells : List Text) : Nat :=
  (cells[1]?.getD []).count '\\' + (cells[2]?.getD []).count '\\' +
    (cells[3]?.getD []).count '\\'

/-- In the texts themselves. -/
def marks (c : Char) (run : Run) (user : KcUser) : Nat :=
  (shownName user).toList.count c + (shownEmail user).toList.count c +
    (rolesText (run.kept user).roles).toList.count c

theorem backslashes_rowFor {cells : List Text} (row : RowFor run cells user)
    (read : run.failing user.id = none) : backslashes cells = marks '\\' run user := by
  have kept : isBlank '\\' = false := by decide
  rw [backslashes, row.name, row.email, row.roles read, marks, kept_roles read]
  simp only [Option.getD_some, count_trim kept]

/-- Each pipe that is shown costs a backslash. -/
theorem backslashes_cellsOf (eleven : (cellsOf run user).length = 11) :
    backslashes (cellsOf run user) + marks '|' run user = marks '\\' run user := by
  have single := single_of_eleven eleven
  have cells : cellsOf run user = (partsOf run user).map cellOf := flatMap_single single
  rw [partsOf_eq] at cells single
  have name := count_cellOf (single (shownName user).toList (by simp))
  have email := count_cellOf (single (shownEmail user).toList (by simp))
  have roles := count_cellOf (single (rolesText (run.kept user).roles).toList (by simp))
  have sums : backslashes (cellsOf run user) = (cellOf (shownName user).toList).count '\\' +
      (cellOf (shownEmail user).toList).count '\\' +
        (cellOf (rolesText (run.kept user).roles).toList).count '\\' := by
    rw [cells]
    rfl
  unfold marks
  omega

end User

/-! ## The report -/

section Report

variable {run : Run}

theorem page_all (few : run.realm.users.length ≤ 200) :
    run.realm.page.Perm run.realm.users := by
  have full := run.realm.full
  have whole := run.realm.listed.length_eq
  rw [List.length_append] at whole
  have none : run.realm.rest = [] := List.length_eq_zero_iff.mp (by omega)
  have listed := run.realm.listed
  rw [none, List.append_nil] at listed
  exact listed

theorem getD_pipeless {given : Option String} {other : String} (plain : '|' ∉ other.toList) :
    '|' ∉ (given.getD other).toList ↔ ∀ text ∈ given, '|' ∉ text.toList := by
  cases given with
  | none => simp [plain]
  | some text => simp

theorem complete_of_readable (readable : Readable run) (now : Datetime) :
    Complete run (renderFullPage now [("cdm", run.listedUsers)]) := by
  obtain ⟨order, perm, rows⟩ := rows_of_page run now readable.listed
  refine ⟨order, perm.trans (page_all readable.few), ?_⟩
  rw [rows, List.forall₂_map_left_iff, List.forall₂_same]
  intro user member
  have inside := page_subset run (perm.mem_iff.mp member)
  have read := readable.read user inside
  refine rowFor_plain read ?_
  have texts : ∀ text ∈ rowOf "cdm" (run.kept user), '|' ∉ text.toList := by
    rw [mem_rowOf (by decide)]
    refine ⟨?_, ?_, ?_⟩
    · exact (getD_pipeless (by decide)).mpr (readable.names user inside)
    · exact (getD_pipeless (by decide)).mpr (readable.emails user inside)
    · rw [kept_roles read]
      exact readable.roles user inside
  intro part member
  obtain ⟨text, inside, rfl⟩ := List.mem_map.mp member
  exact texts text inside

theorem readable_of_complete (listed : run.listing = none) {now : Datetime}
    (complete : Complete run (renderFullPage now [("cdm", run.listedUsers)])) :
    Readable run := by
  obtain ⟨order, perm, rows⟩ := rows_of_page run now listed
  obtain ⟨order', perm', pairs⟩ := complete
  rw [rows, List.forall₂_map_left_iff] at pairs
  have few : run.realm.users.length ≤ 200 := by
    have same := pairs.length_eq
    have full := run.realm.full
    rw [perm.length_eq, perm'.length_eq] at same
    omega
  have all : order.Perm run.realm.users := perm.trans (page_all few)
  have eleven : ∀ user ∈ order, (cellsOf run user).length = 11 := by
    intro user member
    obtain ⟨other, row⟩ := exists_pair pairs user member
    exact row.eleven
  -- a row without roles for each user of whom none were read, where one was owed to each
  -- user who has none
  have read : ∀ user ∈ order, run.failing user.id = none := by
    have kept := weights_kept (f := fun user => if (run.kept user).roles = [] then 1 else 0)
      (g := fun user =>
        if (run.failing user.id).isNone = true ∧ shownRoles run user = [] then 1 else 0)
      pairs (perm'.trans all.symm) ?_ ?_
    · intro user member
      have same := kept user member
      by_contra failed
      have lost : (run.failing user.id).isNone = false := by
        cases answer : run.failing user.id with
        | none => exact absurd answer failed
        | some failure => rfl
      have empty : (run.kept user).roles = [] := by
        unfold Run.kept Run.readRoles
        rw [lost]
        rfl
      rw [if_pos empty, if_neg (by simp [lost])] at same
      cases same
    · intro user other row
      split
      next empty =>
        have none := noAccess_of_empty row.eleven empty
        obtain ⟨answered, -⟩ := row.honest none
        have shown := row.roles answered
        rw [none.1] at shown
        have owed : (run.failing other.id).isNone = true ∧ shownRoles run other = [] :=
          ⟨Option.isNone_iff_eq_none.mpr answered, rolesText_none (Option.some.inj shown).symm⟩
        exact Nat.le_of_eq (if_pos owed).symm
      next => exact Nat.zero_le _
    · intro user _
      split
      next settled =>
        obtain ⟨answered, none⟩ := settled
        have empty := (kept_roles (Option.isNone_iff_eq_none.mp answered)).trans none
        exact Nat.le_of_eq (if_pos empty).symm
      next => exact Nat.zero_le _
  -- no backslash is lost between the texts and the cells, so there is no pipe
  have pipeless : ∀ user ∈ order, marks '|' run user = 0 := by
    have kept := weights_kept (S := fun user other => RowFor run (cellsOf run other) user)
      (f := fun user => if (run.failing user.id).isNone = true then marks '\\' run user else 0)
      (g := fun user => backslashes (cellsOf run user))
      (List.Forall₂.flip pairs) (all.trans perm'.symm) ?_ ?_
    · intro user member
      have same := kept user ((all.trans perm'.symm).mem_iff.mp member)
      have counted := backslashes_cellsOf (eleven user member)
      rw [read user member, if_pos Option.isNone_none] at same
      omega
    · intro user other row
      split
      next answered =>
        exact Nat.le_of_eq (backslashes_rowFor row (Option.isNone_iff_eq_none.mp answered)).symm
      next => exact Nat.zero_le _
    · intro user member
      have inside := (all.trans perm'.symm).mem_iff.mpr member
      have counted := backslashes_cellsOf (eleven user inside)
      rw [read user inside, if_pos Option.isNone_none]
      omega
  have texts : ∀ user ∈ run.realm.users, '|' ∉ (shownName user).toList ∧
      '|' ∉ (shownEmail user).toList ∧ '|' ∉ (rolesText (shownRoles run user)).toList := by
    intro user member
    have inside := all.mem_iff.mpr member
    have none := pipeless user inside
    rw [marks, kept_roles (read user inside)] at none
    refine ⟨?_, ?_, ?_⟩
    · exact List.count_eq_zero.mp (by omega)
    · exact List.count_eq_zero.mp (by omega)
    · exact List.count_eq_zero.mp (by omega)
  have mark : '|' ∈ ['\n', '|'] := by decide
  constructor
  · exact listed
  · exact few
  · exact fun user member => read user (all.mem_iff.mpr member)
  · intro user member
    have name := (texts user member).1
    rw [shownName, mem_name mark] at name
    exact (getD_pipeless (by decide)).mp name
  · intro user member
    have email := (texts user member).2.1
    rw [shownEmail, mem_emailText mark] at email
    exact (getD_pipeless (by decide)).mp email
  · intro user member role shown pipe
    have roles := (texts user member).2.2
    rw [mem_rolesText mark] at roles
    exact roles ⟨role, shown, pipe⟩

end Report

/-- Whatever the users of the realm are and whichever requests fail: the report is complete
and honest exactly if none is printed, or it is for users that are readable, or there are
none to be listed. -/
theorem report_complete_iff (run : Run) : Meets run ↔
    run.Aborts ∨ (run.listing ≠ none ∧ run.realm.users = []) ∨ Readable run := by
  constructor
  · intro meets
    by_cases aborts : run.Aborts
    · exact Or.inl aborts
    · have complete := meets "" ⟨0⟩ _ ((main_prints run "" ⟨0⟩ _).mpr ⟨aborts, rfl⟩)
      by_cases listed : run.listing = none
      · exact Or.inr (Or.inr (readable_of_complete listed complete))
      · have empty : run.listedUsers = [] := by
          rw [Run.listedUsers, if_neg]
          rwa [Option.isNone_iff_eq_none]
        obtain ⟨order, perm, pairs⟩ := complete
        rw [empty, tableRows_page ⟨0⟩ (fun user none => absurd none List.not_mem_nil),
          List.map_nil, List.forall₂_nil_left_iff] at pairs
        rw [pairs] at perm
        exact Or.inr (Or.inl ⟨listed, perm.nil_eq.symm⟩)
  · intro condition base now page printed
    obtain ⟨runs, rfl⟩ := (main_prints run base now page).mp printed
    rcases condition with aborts | ⟨failed, none⟩ | readable
    · exact absurd aborts runs
    · have empty : run.listedUsers = [] := by
        rw [Run.listedUsers, if_neg]
        rwa [Option.isNone_iff_eq_none]
      refine ⟨[], by rw [none], ?_⟩
      rw [empty, tableRows_page now (fun user none => absurd none List.not_mem_nil)]
      exact List.Forall₂.nil
    · exact complete_of_readable readable now

/-! ## An administrator whose roles cannot be read -/

def jane : KcUser := ⟨"1", some "jane", some "jane@cdm.example", some true⟩

theorem jane_oneLine : OneLine "jane" ∧ OneLine "jane@cdm.example" ∧ OneLine "cdm-admin" := by
  unfold OneLine
  decide +kernel

def janeRealm : Realm where
  users := [jane]
  roles := fun _ => ["cdm-admin"]
  page := [jane]
  rest := []
  listed := List.Perm.refl _
  full := rfl
  names := by
    intro user member text given
    rw [List.mem_singleton.mp member] at given
    cases given
    exact jane_oneLine.1
  emails := by
    intro user member text given
    rw [List.mem_singleton.mp member] at given
    cases given
    exact jane_oneLine.2.1
  roleNames := by
    intro uid role member
    rw [List.mem_singleton.mp member]
    exact jane_oneLine.2.2

/-- The role mappings are forbidden to the one who asks. -/
def forbidden : Run where
  realm := janeRealm
  token := .ok "token"
  listing := none
  failing := fun _ => some (.httpError 403 "Forbidden" "")

theorem forbidden_roles_reported_as_none : ¬ ∀ run, Meets run := by
  intro all
  have runs : ¬ forbidden.Aborts := by
    rintro (⟨failure, none⟩ | raised | ⟨-, raised⟩)
    · cases none
    · cases raised
    · cases raised
  have complete := all forbidden "" ⟨0⟩ _ ((main_prints forbidden "" ⟨0⟩ _).mpr ⟨runs, rfl⟩)
  have readable := readable_of_complete rfl complete
  cases readable.read jane List.mem_cons_self

end CompleteDeviceManagement.Guarantees.AccessReport
