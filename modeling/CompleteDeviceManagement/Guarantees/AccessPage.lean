import CompleteDeviceManagement.Guarantees.AccessLevels
import CompleteDeviceManagement.Library.MarkdownTable

/-!
# The table of the access page

The page is read as Markdown: the table is behind its delimiter row, up to the first line
that is no row. It has one row for each user that the page is made for, if no text of
theirs has a line break. A pipe in a row comes from the user's texts.
-/

set_option autoImplicit false

namespace CompleteDeviceManagement.Guarantees.AccessPage
open CompleteDeviceManagement.Library CompleteDeviceManagement.Library.MarkdownTable
  CompleteDeviceManagement.Source.AccessMatrix CompleteDeviceManagement.Guarantees.AccessLevels

/-! ## Lines -/

theorem not_mem_pad (w n : Nat) : '\n' ∉ (Datetime.pad w n).toList := by
  intro member
  rw [Datetime.pad, String.toList_ofList] at member
  rcases List.mem_append.mp member with zero | digit
  · exact absurd (List.eq_of_mem_replicate zero) (by decide)
  · have isDigit := Nat.isDigit_of_mem_toDigits (by decide) (by decide) digit
    exact absurd isDigit (by decide)

/-- A line without a line break that does not begin a table. -/
def isText (line : List Char) : Bool := line.all (· != '\n') && line.head? != some '|'

theorem isText_iff {line : List Char} :
    isText line = true ↔ '\n' ∉ line ∧ line.head? ≠ some '|' := by
  simp only [isText, Bool.and_eq_true, List.all_eq_true, bne_iff_ne, ne_eq]
  constructor
  · rintro ⟨plain, first⟩
    exact ⟨fun member => plain _ member rfl, first⟩
  · rintro ⟨plain, first⟩
    exact ⟨fun c member same => plain (same ▸ member), first⟩

theorem pageHead_text : (pageHead.all fun line => isText line.toList) = true := by
  simp only [pageHead, List.all_cons, List.all_nil]
  repeat rw [String.toList_ofList]
  decide

theorem pageTail_plain : (pageTail.all fun line => line.toList.all (· != '\n')) = true := by
  simp only [pageTail, List.all_cons, List.all_nil]
  repeat rw [String.toList_ofList]
  decide

theorem snapshotTime_plain (now : Datetime) : '\n' ∉ (snapshotTime now).toList := by
  have dash : '\n' ∉ "-".toList := by decide
  have blank : '\n' ∉ " ".toList := by decide
  have colon : '\n' ∉ ":".toList := by decide
  have zone : '\n' ∉ " UTC".toList := by decide
  simp only [snapshotTime, String.toList_append, List.mem_append, not_or]
  simp only [not_mem_pad, dash, blank, colon, zone, not_false_eq_true, and_self]

theorem toList_rowLine {row : List String} (some : row ≠ []) :
    (rowLine row).toList = rowText (row.map String.toList) := by
  have joined : ∀ {parts : List Text}, parts ≠ [] →
      [' ', '|', ' '].intercalate parts ++ [' ', '|'] =
        (parts.flatMap fun p => ' ' :: (p ++ [' ', '|'])).tail := by
    intro parts some
    induction parts with
    | nil => exact absurd rfl some
    | cons p parts ih =>
      cases parts with
      | nil => simp [List.intercalate]
      | cons q parts =>
        have later := ih (List.cons_ne_nil q parts)
        rw [List.intercalate_cons_of_ne_nil (List.cons_ne_nil q parts), List.append_assoc,
          List.append_assoc, later]
        simp
  have separator : " | ".toList = [' ', '|', ' '] := String.toList_ofList
  have opening : "| ".toList = ['|', ' '] := String.toList_ofList
  have closing : " |".toList = [' ', '|'] := String.toList_ofList
  have mapped : row.map String.toList ≠ [] := by simpa using some
  rw [rowLine, String.toList_append, String.toList_append, String.toList_intercalate, separator,
    opening, closing, List.append_assoc, joined mapped, rowText]
  cases row with
  | nil => exact absurd rfl some
  | cons a row => simp

theorem not_mem_rowText {parts : List Text} {c : Char} (other : c ∉ [' ', '|'])
    (plain : ∀ p ∈ parts, c ∉ p) : c ∉ rowText parts := by
  have blank : c ≠ ' ' := fun same => other (same ▸ List.mem_cons_self)
  have pipe : c ≠ '|' := fun same => other (same ▸ List.mem_cons_of_mem _ List.mem_cons_self)
  have inside : ∀ p ∈ parts, c ∉ ' ' :: (p ++ [' ', '|']) := by
    intro p hp
    simp [blank, pipe, plain p hp]
  rw [rowText, List.mem_cons, not_or, List.mem_flatMap]
  refine ⟨pipe, ?_⟩
  rintro ⟨p, hp, member⟩
  exact inside p hp member

theorem delimiter_second :
    delimiterLine.toList.take 2 = ['|', '-'] ∧ '\n' ∉ delimiterLine.toList := by
  decide +kernel

theorem headerCols_plain : ∀ col ∈ headerCols.map String.toList, '\n' ∉ col := by
  simp only [headerCols, endpointLabels, List.map_cons, List.map_nil, List.cons_append,
    List.nil_append]
  repeat rw [String.toList_ofList]
  decide

/-- A time between two fixed texts is text, too. -/
theorem isText_around {front back : List Char} {c : Char} {time : String}
    (plain : '\n' ∉ time.toList) (fixed : isText (c :: (front ++ back)) = true) :
    isText (c :: front ++ time.toList ++ back) = true := by
  rw [isText_iff] at fixed ⊢
  obtain ⟨none, first⟩ := fixed
  simp only [List.mem_cons, List.mem_append, not_or] at none
  refine ⟨?_, first⟩
  simp only [List.mem_append, List.mem_cons, not_or]
  exact ⟨⟨⟨none.1, none.2.1⟩, plain⟩, none.2.2⟩

/-- What is before the delimiter row on the page. -/
theorem head_lines (now : Datetime) :
    ∀ line ∈ pageHead ++ headLines now, '\n' ∉ line.toList ∧ line ≠ delimiterLine := by
  have text : ∀ line : String, isText line.toList = true →
      '\n' ∉ line.toList ∧ line ≠ delimiterLine := by
    intro line plain
    obtain ⟨plain, first⟩ := isText_iff.mp plain
    refine ⟨plain, ?_⟩
    rintro rfl
    have second := congrArg List.head? delimiter_second.1
    rw [List.head?_take, if_neg (by decide)] at second
    exact first second
  have time := snapshotTime_plain now
  intro line member
  rcases List.mem_append.mp member with page | head
  · exact text line (List.all_eq_true.mp pageHead_text line page)
  · simp only [headLines, List.mem_cons, List.not_mem_nil, or_false] at head
    rcases head with rfl | rfl | rfl | rfl | rfl | rfl
    · refine text _ ?_
      rw [String.toList_append, String.toList_append, String.toList_ofList,
        (String.toList_ofList : " -->".toList = _)]
      exact isText_around time (by decide)
    · exact text _ (by decide)
    · refine text _ ?_
      rw [String.toList_append, String.toList_append, String.toList_ofList,
        (String.toList_ofList : "  ".toList = _)]
      exact isText_around time (by decide)
    · refine text _ ?_
      rw [String.toList_ofList]
      decide
    · exact text _ (by decide)
    · have columns : headerCols ≠ [] := List.cons_ne_nil _ _
      refine ⟨?_, ?_⟩
      · rw [toList_rowLine columns]
        exact not_mem_rowText (by decide) headerCols_plain
      · intro same
        have second := delimiter_second.1
        rw [← same, toList_rowLine columns] at second
        cases second

/-! ## Columns -/

theorem mem_intercalate {c : Char} {separator : List Char} (other : c ∉ separator)
    (texts : List (List Char)) : c ∈ separator.intercalate texts ↔ ∃ t ∈ texts, c ∈ t := by
  induction texts with
  | nil => simp
  | cons t texts ih =>
    by_cases last : texts = []
    · rw [last]
      simp
    · rw [List.intercalate_cons_of_ne_nil last, List.mem_append, List.mem_append, ih]
      simp [other]

section Marks

/-! A line break or a pipe in a column comes from the user. -/

variable {c : Char} (mark : c ∈ ['\n', '|'])
include mark

theorem mem_rolesText (roles : List String) :
    c ∈ (rolesText roles).toList ↔ ∃ role ∈ roles, c ∈ role.toList := by
  have fixed : ∀ c ∈ ['\n', '|'], c ∉ "*(none)*".toList ∧ c ∉ ", ".toList ∧ c ∉ "`".toList := by
    decide +kernel
  obtain ⟨none, comma, tick⟩ := fixed c mark
  unfold rolesText
  split
  next empty =>
    rw [empty]
    exact iff_of_false none (by simp)
  next some =>
    rw [String.toList_intercalate, mem_intercalate comma]
    simp only [List.mem_map, exists_exists_and_eq_and, String.toList_append, List.mem_append, tick,
      false_or, or_false]

theorem mem_emailText (email : String) : c ∈ (emailText email).toList ↔ c ∈ email.toList := by
  have fixed : ∀ c ∈ ['\n', '|'], c ∉ "—".toList ∧ c ∉ "".toList := by decide +kernel
  unfold emailText
  split
  next empty =>
    rw [empty]
    exact iff_of_false (fixed c mark).1 (fixed c mark).2
  next => exact Iff.rfl

theorem mem_name (username : String) (enabled : Bool) :
    c ∈ (username ++ enabledBadge enabled).toList ↔ c ∈ username.toList := by
  have fixed : ∀ c ∈ ['\n', '|'], c ∉ " *(disabled)*".toList ∧ c ∉ "".toList := by decide +kernel
  rw [String.toList_append, List.mem_append]
  cases enabled with
  | true => exact ⟨fun member => member.resolve_right (fixed c mark).2, Or.inl⟩
  | false => exact ⟨fun member => member.resolve_right (fixed c mark).1, Or.inl⟩

theorem not_mem_access (roles : List String) (endpoint : String) :
    c ∉ (accessFor roles endpoint).toList := by
  have tables : (endpointAccess.all fun entry => entry.2.all fun item =>
      item.2.toList.all fun c => c != '\n' && c != '|') = true := by
    simp only [endpointAccess, List.all_cons, List.all_nil]
    repeat rw [String.toList_ofList]
    decide
  have fixed : ∀ c ∈ ['\n', '|'], c ∉ "✗".toList := by decide +kernel
  rcases accessFor_cases endpoint roles with ⟨cross, -⟩ | ⟨role, -, mapped⟩
  · rw [cross]
    exact fixed c mark
  · obtain ⟨mapping, table, entry⟩ := mem_of_accessOf mapped
    intro member
    have item := List.all_eq_true.mp (List.all_eq_true.mp tables _ table) _ entry
    have other := List.all_eq_true.mp item c member
    simp only [List.mem_cons, List.not_mem_nil, or_false] at mark
    rcases mark with rfl | rfl
    · exact absurd other (by decide)
    · exact absurd other (by decide)

/-- The columns of a user's row have the mark only if the user's texts do. -/
theorem mem_rowOf (user : User) : (∀ text ∈ rowOf "cdm" user, c ∉ text.toList) ↔
    c ∉ user.username.toList ∧ c ∉ user.email.toList ∧ ∀ role ∈ user.roles, c ∉ role.toList := by
  have fixed : ∀ c ∈ ['\n', '|'], c ∉ "cdm".toList := by decide
  have access : ∀ text ∈ endpointLabels.map fun label => accessFor user.roles label.1,
      c ∉ text.toList := by
    intro text member
    obtain ⟨label, -, rfl⟩ := List.mem_map.mp member
    exact not_mem_access mark user.roles label.1
  have roles : c ∉ (rolesText user.roles).toList ↔ ∀ role ∈ user.roles, c ∉ role.toList := by
    rw [mem_rolesText mark]
    simp only [not_exists, not_and]
  rw [rowOf, List.forall_mem_append, ← roles]
  simp only [List.forall_mem_cons, List.not_mem_nil, false_implies, implies_true, and_true,
    mem_name mark, mem_emailText mark]
  exact ⟨fun all => all.1.2, fun texts => ⟨⟨fixed c mark, texts⟩, access⟩⟩

end Marks

/-! ## The table of a page -/

theorem plain_append {s t : String} (hs : '\n' ∉ s.toList) (ht : '\n' ∉ t.toList) :
    '\n' ∉ (s ++ t).toList := by
  rw [String.toList_append, List.mem_append, not_or]
  exact ⟨hs, ht⟩

/-- No text of the user has a line break. -/
structure PlainUser (user : User) : Prop where
  username : '\n' ∉ user.username.toList
  email : '\n' ∉ user.email.toList
  roles : ∀ role ∈ user.roles, '\n' ∉ role.toList

theorem anomalies_plain {user : User} (plain : PlainUser user) :
    ∀ note ∈ anomaliesOf "cdm" user, '\n' ∉ note.toList := by
  have roles : '\n' ∉ (rolesText user.roles).toList := by
    rw [mem_rolesText List.mem_cons_self]
    simpa using plain.roles
  have realm : '\n' ∉ "cdm".toList := by decide
  intro note member
  simp only [anomaliesOf, List.mem_append] at member
  rcases member with (disabled | none) | superuser
  · split at disabled
    · cases disabled
    · rw [List.mem_singleton.mp disabled]
      refine plain_append (plain_append (plain_append (plain_append ?_ realm) ?_)
        plain.username) ?_
      · rw [String.toList_ofList]
        decide
      · decide
      · rw [String.toList_ofList]
        decide
  · split at none
    · rw [List.mem_singleton.mp none]
      refine plain_append (plain_append (plain_append (plain_append ?_ realm) ?_)
        plain.username) ?_
      · rw [String.toList_ofList]
        decide
      · decide
      · rw [String.toList_ofList]
        decide
    · cases none
  · split at superuser
    · rw [List.mem_singleton.mp superuser]
      refine plain_append (plain_append (plain_append (plain_append (plain_append ?_
        plain.username) ?_) roles) ?_) ?_
      · rw [String.toList_ofList]
        decide
      · rw [String.toList_ofList]
        decide
      · rw [String.toList_ofList]
        decide
      · rw [String.toList_ofList]
        decide
    · cases superuser

/-- The rows of the table: the lines behind its delimiter row that begin with a pipe. -/
def tableRows (page : String) : List (List Text) :=
  let lines := page.toList.splitOn '\n'
  let behind := (lines.dropWhile (· ≠ delimiterLine.toList)).tail
  (behind.takeWhile (·.head? == some '|')).map cells

theorem tableRows_lines {front back rows : List (List Char)}
    (plain : ∀ line ∈ front ++ delimiterLine.toList :: (rows ++ [] :: back), '\n' ∉ line)
    (before : ∀ line ∈ front, line ≠ delimiterLine.toList)
    (piped : ∀ row ∈ rows, row.head? = some '|') {page : String}
    (joined : page.toList =
      ['\n'].intercalate (front ++ delimiterLine.toList :: (rows ++ [] :: back))) :
    tableRows page = rows.map cells := by
  have lines : page.toList.splitOn '\n' =
      front ++ delimiterLine.toList :: (rows ++ [] :: back) := by
    rw [joined]
    exact List.splitOn_intercalate '\n' plain (by simp)
  have behind : (front ++ delimiterLine.toList :: (rows ++ [] :: back)).dropWhile
      (fun line => decide (line ≠ delimiterLine.toList)) =
        delimiterLine.toList :: (rows ++ [] :: back) := by
    rw [List.dropWhile_append_of_pos]
    · exact List.dropWhile_cons_of_neg (by simp)
    · intro line member
      simpa using before line member
  have taken : (rows ++ [] :: back).takeWhile (·.head? == some '|') = rows := by
    rw [List.takeWhile_append_of_pos]
    · simp
    · intro row member
      rw [piped row member]
      rfl
  unfold tableRows
  dsimp only
  rw [lines, behind, List.tail_cons, taken]

/-- What is behind the rows begins with an empty line. -/
theorem behind_lines {anomalies : List String} (plain : ∀ note ∈ anomalies, '\n' ∉ note.toList) :
    ∃ back, (anomalyLines anomalies ++ pageTail).map String.toList = [] :: back ∧
      ∀ line ∈ back, '\n' ∉ line := by
  have last : ∀ line ∈ pageTail, '\n' ∉ line.toList := by
    intro line member breaks
    have other := List.all_eq_true.mp (List.all_eq_true.mp pageTail_plain line member) _ breaks
    exact absurd other (by decide)
  have lines : ∀ line ∈ anomalyLines anomalies ++ pageTail, '\n' ∉ line.toList := by
    intro line member
    rcases List.mem_append.mp member with note | member
    · unfold anomalyLines at note
      split at note
      · cases note
      · rcases List.mem_append.mp note with fixed | note
        · simp only [List.mem_cons, List.not_mem_nil, or_false] at fixed
          rcases fixed with rfl | rfl | rfl
          · decide
          · rw [String.toList_ofList]
            decide
          · decide
        · obtain ⟨text, inside, rfl⟩ := List.mem_map.mp note
          exact plain_append (by decide) (plain text inside)
    · exact last line member
  have first : ∃ more, anomalyLines anomalies ++ pageTail = "" :: more := by
    unfold anomalyLines
    split
    · exact ⟨_, rfl⟩
    · exact ⟨_, rfl⟩
  obtain ⟨more, split⟩ := first
  rw [split] at lines ⊢
  refine ⟨more.map String.toList, rfl, ?_⟩
  intro line member
  obtain ⟨text, inside, rfl⟩ := List.mem_map.mp member
  exact lines text (List.mem_cons_of_mem _ inside)

theorem toList_row (user : User) : (rowLine (rowOf "cdm" user)).toList =
    rowText ((rowOf "cdm" user).map String.toList) :=
  toList_rowLine (List.cons_ne_nil _ _)

theorem row_plain {user : User} (plain : PlainUser user) :
    '\n' ∉ (rowLine (rowOf "cdm" user)).toList := by
  rw [toList_row]
  refine not_mem_rowText (by decide) ?_
  intro text member
  obtain ⟨column, inside, rfl⟩ := List.mem_map.mp member
  exact (mem_rowOf List.mem_cons_self user).mpr ⟨plain.username, plain.email, plain.roles⟩ column
    inside

/-- The page has a row for each user that it is made for, in their order. -/
theorem tableRows_page (now : Datetime) {users : List User}
    (plain : ∀ user ∈ users, PlainUser user) :
    tableRows (renderFullPage now [("cdm", users)]) =
      users.map fun user => ((rowOf "cdm" user).map String.toList).flatMap partCells := by
  have notes : ∀ note ∈ users.flatMap (anomaliesOf "cdm"), '\n' ∉ note.toList := by
    intro note member
    obtain ⟨user, inside, note⟩ := List.mem_flatMap.mp member
    exact anomalies_plain (plain user inside) _ note
  obtain ⟨back, behind, backPlain⟩ := behind_lines notes
  have joined : (renderFullPage now [("cdm", users)]).toList = ['\n'].intercalate
      ((pageHead ++ headLines now).map String.toList ++ delimiterLine.toList ::
        ((users.map fun user => (rowLine (rowOf "cdm" user)).toList) ++ [] :: back)) := by
    have newline : "\n".toList = ['\n'] := String.toList_ofList
    rw [renderFullPage, String.toList_intercalate, newline, ← behind]
    simp only [renderMatrix, List.flatMap_cons, List.flatMap_nil, List.append_nil, List.map_append,
      List.map_cons, List.map_map, List.append_assoc, List.cons_append]
    rfl
  have before : ∀ line ∈ (pageHead ++ headLines now).map String.toList,
      '\n' ∉ line ∧ line ≠ delimiterLine.toList := by
    intro line member
    obtain ⟨text, inside, rfl⟩ := List.mem_map.mp member
    obtain ⟨plain, other⟩ := head_lines now text inside
    exact ⟨plain, fun same => other (String.toList_inj.mp same)⟩
  have rows : ∀ row ∈ users.map fun user => (rowLine (rowOf "cdm" user)).toList,
      '\n' ∉ row ∧ row.head? = some '|' := by
    intro row member
    obtain ⟨user, inside, rfl⟩ := List.mem_map.mp member
    refine ⟨row_plain (plain user inside), ?_⟩
    rw [toList_row]
    rfl
  rw [tableRows_lines ?_ (fun line member => (before line member).2)
    (fun row member => (rows row member).2) joined, List.map_map]
  · refine List.map_congr_left fun user _ => ?_
    rw [Function.comp_apply, toList_row, cells_rowText (by simp [rowOf])]
  · intro line member
    rcases List.mem_append.mp member with head | member
    · exact (before line head).1
    · rcases List.mem_cons.mp member with rfl | member
      · exact delimiter_second.2
      · rcases List.mem_append.mp member with row | member
        · exact (rows line row).1
        · rcases List.mem_cons.mp member with rfl | member
          · exact List.not_mem_nil
          · exact backPlain line member

end CompleteDeviceManagement.Guarantees.AccessPage
