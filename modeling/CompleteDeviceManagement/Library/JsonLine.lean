import CompleteDeviceManagement.Library.JsonText

/-!
# JSON on one line

A writer that puts the same gap behind every comma and every colon: none for
compact texts, a blank for those `json.dumps` makes by default. What it writes is
read back (`parse_line`).
-/

set_option autoImplicit false

namespace CompleteDeviceManagement.Library.JsonLine
open CompleteDeviceManagement.Library.JsonText CompleteDeviceManagement.Library.JsonText.Style

section Write

variable (style : Style) (gap : Text)

mutual

def line : Json → Text
  | .null => "null".toList
  | .bool b => (if b then "true" else "false").toList
  | .int n => intText n
  | .float text => text.toList
  | .str s => style.quoted s
  | .arr [] => ['[', ']']
  | .arr (v :: vs) => '[' :: lineItems (v :: vs) ++ [']']
  | .obj [] => ['\x7b', '\x7d']
  | .obj (m :: ms) => '\x7b' :: lineMembers (m :: ms) ++ ['\x7d']

def lineItems : List Json → Text
  | [] => []
  | [v] => line v
  | v :: vs => line v ++ ',' :: (gap ++ lineItems vs)

def lineMembers : List (String × Json) → Text
  | [] => []
  | [(key, v)] => style.quoted key ++ ':' :: (gap ++ line v)
  | (key, v) :: ms => style.quoted key ++ ':' :: (gap ++ (line v ++ ',' :: (gap ++ lineMembers ms)))

end

variable {gap} (blank : Space gap)

/-- An array is read back if its items are. -/
theorem reads_lineArr {vs : List Json} (h : vs ≠ [] → ReadsItems vs (lineItems style gap vs)) :
    Reads (.arr vs) (line style gap (.arr vs)) := by
  cases vs with
  | nil => exact reads_emptyArr space_nil
  | cons v vs =>
    have read := reads_arr space_nil (h (List.cons_ne_nil _ _))
    simpa only [line, List.nil_append] using read

theorem reads_lineObj {ms : List (String × Json)} (nodup : (ms.map Prod.fst).Nodup)
    (h : ms ≠ [] → ReadsMembers ms (lineMembers style gap ms)) :
    Reads (.obj ms) (line style gap (.obj ms)) := by
  cases ms with
  | nil => exact reads_emptyObj space_nil
  | cons m ms =>
    have read := reads_obj space_nil (h (List.cons_ne_nil _ _))
    rw [collapse_nodup nodup] at read
    simpa only [line, List.nil_append] using read

include blank in
theorem readsItems_lineCons {v : Json} {vs : List Json} (first : Reads v (line style gap v))
    (more : vs ≠ [] → ReadsItems vs (lineItems style gap vs)) :
    ReadsItems (v :: vs) (lineItems style gap (v :: vs)) := by
  cases vs with
  | nil =>
    have read := readsItems_one first space_nil
    rwa [List.append_nil] at read
  | cons v' vs =>
    have read := readsItems_cons first space_nil blank (more (List.cons_ne_nil _ _))
    rwa [List.nil_append] at read

include blank in
theorem readsMembers_lineCons {key : String} {v : Json} {ms : List (String × Json)}
    (first : Reads v (line style gap v))
    (more : ms ≠ [] → ReadsMembers ms (lineMembers style gap ms)) :
    ReadsMembers ((key, v) :: ms) (lineMembers style gap ((key, v) :: ms)) := by
  have spelled := spells_flatMap style key.toList
  cases ms with
  | nil =>
    have read := readsMembers_one spelled first space_nil blank space_nil
    rw [String.ofList_toList] at read
    simpa only [lineMembers, quoted, List.append_assoc, List.cons_append, List.nil_append,
      List.append_nil] using read
  | cons m ms =>
    have read := readsMembers_cons spelled first space_nil blank space_nil blank
      (more (List.cons_ne_nil _ _))
    rw [String.ofList_toList] at read
    simpa only [lineMembers, quoted, List.append_assoc, List.cons_append, List.nil_append]
      using read

include blank in
theorem reads_line (v : Json) : Regular v → Reads v (line style gap v) := by
  refine @Json.rec (fun v => Regular v → Reads v (line style gap v))
    (fun vs => RegularItems vs → vs ≠ [] → ReadsItems vs (lineItems style gap vs))
    (fun ms => RegularMembers ms → ms ≠ [] → ReadsMembers ms (lineMembers style gap ms))
    (fun m => Regular m.2 → Reads m.2 (line style gap m.2))
    ?null ?bool ?int ?float ?str ?arr ?obj ?noItem ?items ?noMember ?members ?member v
  case null => exact fun _ => reads_null
  case bool => exact fun b _ => reads_bool b
  case int => exact fun n _ => reads_int n
  case float => exact fun _ regular => regular
  case str =>
    intro s _
    have read := reads_str (spells_flatMap style s.toList)
    rwa [String.ofList_toList] at read
  case arr => exact fun vs ih regular => reads_lineArr style (ih regular)
  case obj => exact fun ms ih regular => reads_lineObj style regular.1 (ih regular.2)
  case noItem => exact fun _ nonempty => absurd rfl nonempty
  case items =>
    intro v vs first more regular _
    exact readsItems_lineCons style blank (first regular.1) (more regular.2)
  case noMember => exact fun _ nonempty => absurd rfl nonempty
  case members =>
    intro m ms first more regular _
    exact readsMembers_lineCons style blank (first regular.1) (more regular.2)
  case member => exact fun _ v ih => ih

include blank in
/-- With blanks behind it, as a shell or a file adds them. -/
theorem parse_line {v : Json} (regular : Regular v) {behind : Text} (ends : Space behind) :
    parse (.ofList (line style gap v ++ behind)) = some v := by
  have read := parse_of_reads (reads_line style blank v regular) space_nil ends
  rwa [List.nil_append] at read

end Write

end CompleteDeviceManagement.Library.JsonLine
