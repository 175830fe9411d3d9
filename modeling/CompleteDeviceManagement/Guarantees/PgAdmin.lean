import CompleteDeviceManagement.Library.PosixPath
import CompleteDeviceManagement.Source.PgAdmin

/-!
# What pgAdmin reads

The proxy serves Keycloak's discovery document with one member replaced, and a
client reads exactly that back. The repair of pgAdmin's database leaves one server
for TimescaleDB, the oldest, whatever pgAdmin and failed rounds have done before,
and a further round changes nothing.
-/

set_option autoImplicit false

namespace CompleteDeviceManagement.Guarantees.PgAdmin
open CompleteDeviceManagement.Library CompleteDeviceManagement.Source.PgAdmin

/-! ## The discovery document -/

theorem field?_eq_lookup (name : String) (fields : List (String × Json)) :
    Json.field? name fields = Dict.lookup name fields := by
  induction fields with
  | nil => rfl
  | cons member rest ih =>
    unfold Json.field? at ih ⊢
    by_cases same : member.1 = name
    · simp [Dict.lookup, same]
    · have other : (member.1 == name) = false := beq_eq_false_iff_ne.mpr same
      rw [List.find?_cons, other, Dict.lookup, if_neg same]
      exact ih

theorem regularMembers_store {name : String} {v : Json} (regular : JsonText.Regular v) :
    ∀ {fields : List (String × Json)}, JsonText.RegularMembers fields →
      JsonText.RegularMembers (Dict.store name v fields) := by
  intro fields h
  induction fields with
  | nil => exact ⟨regular, trivial⟩
  | cons member rest ih =>
    unfold Dict.store
    split
    · exact ⟨regular, h.2⟩
    · exact ⟨h.1, ih h.2⟩

/-- A path that the proxy serves the document under. -/
def DocumentPath (path : String) : Prop :=
  ∃ n, path.toList = PosixPath.slashes n ∨
    path.toList = "/openid-configuration".toList ++ PosixPath.slashes n

theorem rstripSlash_eq_iff (path text : String)
    (stripped : text.toList.rdropWhile (· == '/') = text.toList) :
    rstripSlash path = text ↔ ∃ n, path.toList = text.toList ++ PosixPath.slashes n := by
  unfold rstripSlash
  constructor
  · rintro rfl
    rw [String.toList_ofList]
    exact PosixPath.stripped_split path.toList
  · rintro ⟨n, split⟩
    rw [split, PosixPath.stripped_slashes, stripped, String.ofList_toList]

theorem documentPath_iff (path : String) :
    rstripSlash path ∈ ["", "/openid-configuration"] ↔ DocumentPath path := by
  have root := rstripSlash_eq_iff path "" rfl
  have named := rstripSlash_eq_iff path "/openid-configuration" (by decide +kernel)
  have empty : "".toList = [] := rfl
  rw [List.mem_cons, List.mem_singleton, root, named, empty]
  simp only [List.nil_append, DocumentPath, exists_or]

/-- What a client makes of the response: the document with one member replaced. -/
structure Served (env : ProxyEnv) (doc : List (String × Json)) (response : Response) : Prop where
  length : ("Content-Length", toString response.body.length) ∈ response.headers
  read : ∃ text doc', Utf8.decode response.body = some text ∧
    JsonText.parse (.ofList text) = some (.obj doc') ∧
    Json.field? "jwks_uri" doc' = some (.str (env.keycloakInternal ++ env.jwksPath)) ∧
    (∀ name, name ≠ "jwks_uri" → Json.field? name doc' = Json.field? name doc) ∧
    doc'.map Prod.fst = if "jwks_uri" ∈ doc.map Prod.fst then doc.map Prod.fst
      else doc.map Prod.fst ++ ["jwks_uri"]

/-- What is dumped is read back. -/
theorem decode_dumped {doc : Json} (regular : JsonText.Regular doc) :
    ∃ text, Utf8.decode (dumped doc) = some text ∧ JsonText.parse (.ofList text) = some doc := by
  have read := JsonLine.parse_line JsonText.Style.ascii JsonText.Style.space_one regular
    JsonText.Style.space_nil
  rw [List.append_nil] at read
  exact ⟨_, Utf8.decode_encode _, read⟩

/-- The document is served under its paths, if Keycloak answers an object, and
nothing else is. -/
theorem discovery_served (env : ProxyEnv) (fetch : String → Fetched)
    (regular : ∀ url doc, fetch url = .document doc → JsonText.Regular doc) (path : String) :
    ((∃ response, doGet env fetch path = some response ∧ response.status = 200) ↔
      DocumentPath path ∧
        ∃ doc, fetch (env.keycloakInternal ++ env.discoveryPath) = .document (.obj doc)) ∧
    ∀ response doc, doGet env fetch path = some response → response.status = 200 →
      fetch (env.keycloakInternal ++ env.discoveryPath) = .document (.obj doc) →
      Served env doc response := by
  rw [← documentPath_iff]
  by_cases asked : rstripSlash path ∈ ["", "/openid-configuration"]
  · have served : doGet env fetch path = _ := if_neg (not_not.mpr asked)
    rw [served]
    constructor
    · constructor
      · rintro ⟨response, answered, success⟩
        refine ⟨asked, ?_⟩
        split at answered
        · cases answered
          cases success
        · cases answered
        · exact ⟨_, by assumption⟩
        · cases answered
      · rintro ⟨_, doc, fetched⟩
        rw [fetched]
        exact ⟨_, rfl, rfl⟩
    · intro response doc answered _ fetched
      have object := regular _ _ fetched
      rw [fetched] at answered
      cases answered
      have url : JsonText.Regular (.str (env.keycloakInternal ++ env.jwksPath)) := trivial
      have stored : JsonText.Regular (.obj (Dict.store "jwks_uri"
          (.str (env.keycloakInternal ++ env.jwksPath)) doc)) :=
        ⟨Dict.store_nodup object.1, regularMembers_store url object.2⟩
      obtain ⟨text, decoded, parsed⟩ := decode_dumped stored
      refine ⟨by simp, text, _, decoded, parsed, ?_, ?_, Dict.store_keys _ _ _⟩
      · rw [field?_eq_lookup]
        exact Dict.lookup_store_self _ _ _
      · intro name other
        rw [field?_eq_lookup, field?_eq_lookup]
        exact Dict.lookup_store_of_ne _ _ other
  · have refused : doGet env fetch path = some ⟨404, [], []⟩ := if_pos asked
    rw [refused]
    constructor
    · constructor
      · rintro ⟨response, answered, success⟩
        cases answered
        cases success
      · rintro ⟨asked', _⟩
        exact absurd asked' asked
    · intro response doc answered success
      cases answered
      cases success

def discovered : Json := .obj
  [("issuer", .str "https://cdm.example.com/auth/realms/provider"),
    ("jwks_uri", .str "https://cdm.example.com/auth/realms/provider/protocol/openid-connect/certs")]

theorem discovery_rewritten :
    ∃ response, doGet ⟨none, none⟩ (fun _ => .document discovered) "/openid-configuration" =
        some response ∧
      ∃ doc, discovered = .obj doc ∧ Served ⟨none, none⟩ doc response := by
  have regular : ∀ url doc, (fun _ : String => Fetched.document discovered) url = .document doc →
      JsonText.Regular doc := by
    intro url doc same
    cases same
    exact ⟨by decide, trivial, trivial, trivial⟩
  have served := discovery_served ⟨none, none⟩ (fun _ => .document discovered) regular
    "/openid-configuration"
  obtain ⟨response, answered, success⟩ := served.1.mpr ⟨⟨0, .inr rfl⟩, _, rfl⟩
  exact ⟨response, answered, _, rfl, served.2 response _ answered success rfl⟩

/-! ## The repair of the database -/

variable (settings : Settings)

/-- What the primary keys see to. -/
structure Distinct (db : Database) : Prop where
  server : (db.server.map ServerRow.id).Nodup
  sharedserver : (db.sharedserver.map SharedServerRow.id).Nodup

/-- `k` is the oldest of the servers for TimescaleDB. -/
structure Oldest (k : Int) (rows : List ServerRow) : Prop where
  present : ∃ row ∈ rows, row.found = true ∧ row.id = k
  first : ∀ row ∈ rows, row.found = true → k ≤ row.id

theorem mem_foundIds {rows : List ServerRow} {i : Int} :
    i ∈ foundIds rows ↔ ∃ row ∈ rows, row.found = true ∧ row.id = i := by
  simp only [foundIds, List.mem_mergeSort, List.mem_map, List.mem_filter, and_assoc]

theorem foundIds_nodup {rows : List ServerRow} (distinct : (rows.map ServerRow.id).Nodup) :
    (foundIds rows).Nodup := by
  have ids : ((rows.filter ServerRow.found).map ServerRow.id).Nodup :=
    distinct.sublist (List.filter_sublist.map ServerRow.id)
  exact (List.mergeSort_perm _ _).nodup_iff.mpr ids

theorem foundIds_oldest {k : Int} {rows : List ServerRow} (oldest : Oldest k rows) :
    ∃ rest, foundIds rows = k :: rest := by
  obtain ⟨row, member, found, rfl⟩ := oldest.present
  have inside : row.id ∈ foundIds rows := mem_foundIds.mpr ⟨row, member, found, rfl⟩
  have sorted : (foundIds rows).Pairwise (· ≤ ·) := by
    have pairs := @List.pairwise_mergeSort Int (fun a b => decide (a ≤ b))
      (by intro a b c; simp only [decide_eq_true_eq]; omega)
      (by intro a b; simp only [Bool.or_eq_true, decide_eq_true_eq]; omega)
      ((rows.filter ServerRow.found).map ServerRow.id)
    exact pairs.imp fun le => of_decide_eq_true le
  cases same : foundIds rows with
  | nil =>
    rw [same] at inside
    cases inside
  | cons i rest =>
    rw [same] at inside sorted
    obtain ⟨first, firstIn, firstFound, rfl⟩ : ∃ first ∈ rows, first.found = true ∧ first.id = i :=
      mem_foundIds.mp (by rw [same]; exact List.mem_cons_self)
    have below := oldest.first first firstIn firstFound
    rcases List.mem_cons.mp inside with equal | behind
    · exact ⟨rest, by rw [equal]⟩
    · have above := (List.pairwise_cons.mp sorted).1 _ behind
      exact ⟨rest, by rw [Int.le_antisymm below above]⟩

/-- A row whose id is on the list is one of those that were looked for. -/
theorem found_of_id {rows : List ServerRow} (distinct : (rows.map ServerRow.id).Nodup)
    {row : ServerRow} (member : row ∈ rows) (listed : row.id ∈ foundIds rows) :
    row.found = true := by
  obtain ⟨row', member', found, same⟩ := mem_foundIds.mp listed
  rw [← List.inj_on_of_nodup_map distinct member' member same]
  exact found

theorem dropDuplicates_eq {k : Int} {rows : List ServerRow}
    (distinct : (rows.map ServerRow.id).Nodup) (oldest : Oldest k rows) :
    dropDuplicates rows = rows.filter fun row => !row.found || row.id == k := by
  obtain ⟨rest, ids⟩ := foundIds_oldest oldest
  have nodup := foundIds_nodup distinct
  have inRest : ∀ row ∈ rows, row.id ∈ rest ↔ row.found = true ∧ row.id ≠ k := by
    intro row member
    rw [ids] at nodup
    constructor
    · intro listed
      refine ⟨found_of_id distinct member (by rw [ids]; exact List.mem_cons_of_mem _ listed), ?_⟩
      intro same
      exact (List.nodup_cons.mp nodup).1 (same ▸ listed)
    · rintro ⟨found, other⟩
      have listed : row.id ∈ foundIds rows := mem_foundIds.mpr ⟨row, member, found, rfl⟩
      rw [ids] at listed
      exact (List.mem_cons.mp listed).resolve_left other
  have kept : ∀ row ∈ rows, decide (row.id ∉ rest) = (!row.found || row.id == k) := by
    intro row member
    rw [Bool.eq_iff_iff, decide_eq_true_eq, inRest row member]
    cases row.found <;> simp
  unfold dropDuplicates
  rw [ids, List.tail_cons]
  split
  · exact List.filter_congr kept
  next single =>
    have none_else : rest = [] := by
      rw [List.length_cons] at single
      exact List.eq_nil_of_length_eq_zero (by omega)
    symm
    rw [List.filter_eq_self]
    intro row member
    rw [← kept row member, none_else]
    simp

/-- The oldest server as the repair leaves it. -/
def fixed (k : Int) (row : ServerRow) : ServerRow :=
  if row.id = k ∧ k ≠ 0 then row.configured settings else row

theorem repairServer_eq {k : Int} {rows : List ServerRow}
    (distinct : (rows.map ServerRow.id).Nodup) (oldest : Oldest k rows) :
    repairServer settings rows =
      (rows.filter fun row => !row.found || row.id == k).map (fixed settings k) := by
  obtain ⟨rest, ids⟩ := foundIds_oldest oldest
  unfold repairServer
  rw [ids, List.head?_cons, dropDuplicates_eq distinct oldest]
  dsimp only
  split
  next zero =>
    have same : fixed settings k = id := by
      funext row
      exact if_neg fun both => both.2 zero
    rw [same, List.map_id]
  next other =>
    apply List.map_congr_left
    intro row _
    unfold fixed
    simp only [other, ne_eq, not_false_eq_true, and_true]

/-- The rows that are looked at, as the repair leaves them. -/
def fixedShared (listed : List Int) (row : SharedServerRow) : SharedServerRow :=
  if row.id ∈ listed ∧ row.needFix = true then row.configured else row

@[simp] theorem fixed_id (k : Int) (row : ServerRow) : (fixed settings k row).id = row.id := by
  unfold fixed
  split <;> rfl

@[simp] theorem fixed_found (k : Int) (row : ServerRow) :
    (fixed settings k row).found = row.found := by
  unfold fixed
  split <;> rfl

@[simp] theorem fixedShared_id (listed : List Int) (row : SharedServerRow) :
    (fixedShared listed row).id = row.id := by
  unfold fixedShared
  split <;> rfl

@[simp] theorem fixedShared_found (listed : List Int) (row : SharedServerRow) :
    (fixedShared listed row).found = row.found := by
  unfold fixedShared
  split <;> rfl

theorem configured_needFix (row : SharedServerRow) : row.configured.needFix = false := by
  simp [SharedServerRow.configured, SharedServerRow.needFix]

theorem map_unchanged {α : Type} {f : α → α} {rows : List α} (same : ∀ row ∈ rows, f row = row) :
    rows.map f = rows :=
  (List.map_congr_left same).trans (List.map_id rows)

theorem repairShared_eq {rows : List SharedServerRow}
    (distinct : (rows.map SharedServerRow.id).Nodup) (ssId : Int) :
    repairShared rows ssId = rows.map (fixedShared [ssId]) := by
  unfold repairShared
  split
  next absent =>
    symm
    apply map_unchanged
    intro row member
    have other := List.find?_eq_none.mp absent row member
    unfold fixedShared
    exact if_neg fun both => other (by simpa using both.1)
  next existing looked =>
    have inside := List.mem_of_find?_eq_some looked
    have same : existing.id = ssId := by simpa using List.find?_some looked
    have only : ∀ row ∈ rows, row.id = ssId → row = existing := fun row member own =>
      List.inj_on_of_nodup_map distinct member inside (own.trans same.symm)
    split
    next needs =>
      apply List.map_congr_left
      intro row member
      unfold fixedShared
      by_cases own : row.id = ssId
      · have needed : row.needFix = true := by
          rw [only row member own]
          exact needs
        rw [if_pos own, if_pos ⟨List.mem_singleton.mpr own, needed⟩]
      · rw [if_neg own, if_neg fun both => own (List.mem_singleton.mp both.1)]
    next settled =>
      symm
      apply map_unchanged
      intro row member
      unfold fixedShared
      apply if_neg
      rintro ⟨own, needs⟩
      rw [only row member (List.mem_singleton.mp own)] at needs
      exact settled needs

theorem fixedShared_twice (i : Int) (listed : List Int) (row : SharedServerRow) :
    fixedShared listed (fixedShared [i] row) = fixedShared (i :: listed) row := by
  have settled : fixedShared listed row.configured = row.configured := by
    unfold fixedShared
    rw [configured_needFix]
    exact if_neg fun both => absurd both.2 (by decide)
  by_cases needs : row.needFix = true
  · by_cases own : row.id = i
    · have first : fixedShared [i] row = row.configured :=
        if_pos ⟨List.mem_singleton.mpr own, needs⟩
      have both : fixedShared (i :: listed) row = row.configured :=
        if_pos ⟨own ▸ List.mem_cons_self, needs⟩
      rw [first, both, settled]
    · have first : fixedShared [i] row = row :=
        if_neg fun both => own (List.mem_singleton.mp both.1)
      rw [first]
      unfold fixedShared
      simp only [List.mem_cons, own, false_or]
  · have unchanged : ∀ ids, fixedShared ids row = row := fun ids =>
      if_neg fun both => needs both.2
    rw [unchanged [i], unchanged listed, unchanged]

theorem fixedShared_ids (listed : List Int) (rows : List SharedServerRow) :
    (rows.map (fixedShared listed)).map SharedServerRow.id = rows.map SharedServerRow.id := by
  rw [List.map_map]
  exact List.map_congr_left fun row _ => fixedShared_id listed row

/-- One row after the other comes to all rows at once. -/
theorem repairShared_fold (listed : List Int) {rows : List SharedServerRow}
    (distinct : (rows.map SharedServerRow.id).Nodup) :
    listed.foldl repairShared rows = rows.map (fixedShared listed) := by
  induction listed generalizing rows with
  | nil =>
    symm
    apply map_unchanged
    intro row _
    exact if_neg fun both => absurd both.1 (by simp)
  | cons i listed ih =>
    have next : ((rows.map (fixedShared [i])).map SharedServerRow.id).Nodup := by
      rw [fixedShared_ids]
      exact distinct
    rw [List.foldl_cons, repairShared_eq distinct, ih next, List.map_map]
    exact List.map_congr_left fun row _ => fixedShared_twice i listed row

/-- What a round leaves: one server for TimescaleDB, and it and the shared ones are
configured. -/
structure Repaired (k : Int) (db : Database) : Prop where
  only : (db.server.filter ServerRow.found).map ServerRow.id = [k]
  server : ∀ row ∈ db.server, row.found = true → k ≠ 0 → row.configured settings = row
  shared : ∀ row ∈ db.sharedserver, row.found = true → row.needFix = false

/-- Rows that are not for TimescaleDB. -/
structure Untouched (db db' : Database) : Prop where
  server : db'.server.filter (fun row => !row.found) = db.server.filter fun row => !row.found
  sharedserver : db'.sharedserver.filter (fun row => !row.found) =
    db.sharedserver.filter fun row => !row.found

theorem pass_eq {k : Int} {db : Database} (distinct : Distinct db) (oldest : Oldest k db.server) :
    onePass settings db =
      { server := (db.server.filter fun row => !row.found || row.id == k).map (fixed settings k)
        sharedserver := db.sharedserver.map (fixedShared
          ((db.sharedserver.filter SharedServerRow.found).map SharedServerRow.id)) } := by
  unfold onePass
  rw [repairServer_eq settings distinct.server oldest, repairShared_fold _ distinct.sharedserver]

theorem fixed_ids (k : Int) (rows : List ServerRow) :
    (rows.map (fixed settings k)).map ServerRow.id = rows.map ServerRow.id := by
  rw [List.map_map]
  exact List.map_congr_left fun row _ => fixed_id settings k row

theorem pass_distinct {k : Int} {db : Database} (distinct : Distinct db)
    (oldest : Oldest k db.server) : Distinct (onePass settings db) := by
  rw [pass_eq settings distinct oldest]
  constructor
  · dsimp only
    rw [fixed_ids]
    exact distinct.server.sublist (List.filter_sublist.map _)
  · dsimp only
    rw [fixedShared_ids]
    exact distinct.sharedserver

theorem eq_singleton {k : Int} {ids : List Int} (nodup : ids.Nodup) (inside : k ∈ ids)
    (same : ∀ i ∈ ids, i = k) : ids = [k] := by
  cases ids with
  | nil => cases inside
  | cons i rest =>
    obtain rfl := same i List.mem_cons_self
    cases rest with
    | nil => rfl
    | cons j rest =>
      have equal := same j (by simp)
      rw [equal] at nodup
      simp at nodup

theorem configured_twice (row : ServerRow) :
    (row.configured settings).configured settings = row.configured settings := by
  unfold ServerRow.configured
  cases settings.sharedColumn <;> rfl

theorem pass_repaired {k : Int} {db : Database} (distinct : Distinct db)
    (oldest : Oldest k db.server) : Repaired settings k (onePass settings db) := by
  rw [pass_eq settings distinct oldest]
  constructor
  · have rows : ((db.server.filter fun row => !row.found || row.id == k).map
        (fixed settings k)).filter ServerRow.found =
        (db.server.filter fun row => row.found && row.id == k).map (fixed settings k) := by
      rw [List.filter_map, List.filter_filter]
      congr 1
      apply List.filter_congr
      intro row _
      rw [Function.comp_apply, fixed_found]
      cases row.found <;> simp
    dsimp only
    rw [rows, fixed_ids]
    apply eq_singleton
    · exact distinct.server.sublist (List.filter_sublist.map _)
    · obtain ⟨row, member, found, rfl⟩ := oldest.present
      exact List.mem_map_of_mem (List.mem_filter.mpr ⟨member, by simp [found]⟩)
    · intro i inside
      obtain ⟨row, member, rfl⟩ := List.mem_map.mp inside
      have both := (List.mem_filter.mp member).2
      simp only [Bool.and_eq_true, beq_iff_eq] at both
      exact both.2
  · intro row member found other
    obtain ⟨row₀, member₀, rfl⟩ := List.mem_map.mp member
    have keep := (List.mem_filter.mp member₀).2
    rw [fixed_found] at found
    have own : row₀.id = k := by simpa [found] using keep
    have written : fixed settings k row₀ = row₀.configured settings := if_pos ⟨own, other⟩
    rw [written, configured_twice]
  · intro row member found
    obtain ⟨row₀, member₀, rfl⟩ := List.mem_map.mp member
    rw [fixedShared_found] at found
    have listed : row₀.id ∈ (db.sharedserver.filter SharedServerRow.found).map
        SharedServerRow.id :=
      List.mem_map_of_mem (List.mem_filter.mpr ⟨member₀, found⟩)
    unfold fixedShared
    split
    · exact configured_needFix row₀
    next settled => simpa [listed] using settled

theorem pass_untouched {k : Int} {db : Database} (distinct : Distinct db)
    (oldest : Oldest k db.server) : Untouched db (onePass settings db) := by
  rw [pass_eq settings distinct oldest]
  constructor
  · dsimp only
    rw [List.filter_map, List.filter_filter]
    have rows : (db.server.filter fun row =>
        ((fun row => !row.found) ∘ fixed settings k) row && (!row.found || row.id == k)) =
        db.server.filter fun row => !row.found := by
      apply List.filter_congr
      intro row _
      rw [Function.comp_apply, fixed_found]
      cases row.found <;> simp
    rw [rows]
    apply map_unchanged
    intro row member
    obtain ⟨inside, foreign⟩ := List.mem_filter.mp member
    apply if_neg
    rintro ⟨own, _⟩
    obtain ⟨row', inside', found, same⟩ := oldest.present
    rw [List.inj_on_of_nodup_map distinct.server inside inside' (own.trans same.symm), found]
      at foreign
    cases foreign
  · dsimp only
    rw [List.filter_map]
    have rows : (db.sharedserver.filter ((fun row => !row.found) ∘
        fixedShared ((db.sharedserver.filter SharedServerRow.found).map SharedServerRow.id))) =
        db.sharedserver.filter fun row => !row.found := by
      apply List.filter_congr
      intro row _
      rw [Function.comp_apply, fixedShared_found]
    rw [rows]
    apply map_unchanged
    intro row member
    obtain ⟨inside, foreign⟩ := List.mem_filter.mp member
    apply if_neg
    rintro ⟨listed, _⟩
    obtain ⟨row', member', same⟩ := List.mem_map.mp listed
    obtain ⟨inside', found⟩ := List.mem_filter.mp member'
    rw [List.inj_on_of_nodup_map distinct.sharedserver inside inside' same.symm, found] at foreign
    cases foreign

theorem Repaired.oldest {k : Int} {db : Database} (h : Repaired settings k db) :
    Oldest k db.server := by
  have ids : ∀ i, (∃ row ∈ db.server, row.found = true ∧ row.id = i) ↔ i = k := by
    intro i
    have listed : i ∈ (db.server.filter ServerRow.found).map ServerRow.id ↔ i = k := by
      rw [h.only, List.mem_singleton]
    rw [← listed]
    simp only [List.mem_map, List.mem_filter, and_assoc]
  refine ⟨(ids k).mpr rfl, ?_⟩
  intro row member found
  have same := (ids row.id).mp ⟨row, member, found, rfl⟩
  omega

/-- A round has nothing to do where one has been. -/
theorem pass_repaired_eq {k : Int} {db : Database} (distinct : Distinct db)
    (h : Repaired settings k db) : onePass settings db = db := by
  have oldest := h.oldest settings
  have own : ∀ row ∈ db.server, row.id = k ↔ row.found = true := by
    intro row member
    constructor
    · intro same
      obtain ⟨row', member', found, same'⟩ := oldest.present
      rw [List.inj_on_of_nodup_map distinct.server member member' (same.trans same'.symm)]
      exact found
    · intro found
      have listed : row.id ∈ (db.server.filter ServerRow.found).map ServerRow.id :=
        List.mem_map_of_mem (List.mem_filter.mpr ⟨member, found⟩)
      rw [h.only, List.mem_singleton] at listed
      exact listed
  have server : (db.server.filter fun row => !row.found || row.id == k).map (fixed settings k) =
      db.server := by
    have all : (db.server.filter fun row => !row.found || row.id == k) = db.server := by
      rw [List.filter_eq_self]
      intro row member
      cases found : row.found with
      | false => simp
      | true => simp [(own row member).mpr found]
    rw [all]
    apply map_unchanged
    intro row member
    unfold fixed
    split
    next both => exact h.server row member ((own row member).mp both.1) both.2
    · rfl
  have sharedserver : db.sharedserver.map (fixedShared
      ((db.sharedserver.filter SharedServerRow.found).map SharedServerRow.id)) =
      db.sharedserver := by
    apply map_unchanged
    intro row member
    apply if_neg
    rintro ⟨listed, needs⟩
    obtain ⟨row', member', same⟩ := List.mem_map.mp listed
    obtain ⟨inside', found⟩ := List.mem_filter.mp member'
    rw [List.inj_on_of_nodup_map distinct.sharedserver inside' member same] at found
    rw [h.shared row member found] at needs
    cases needs
  rw [pass_eq settings distinct oldest, server, sharedserver]

/-! ## Whole runs -/

/-- pgAdmin keeps to the primary keys, and to the oldest server. -/
def Keeps (k : Int) (event : Event) : Prop :=
  ∀ db, event = .pgAdmin db → Distinct db ∧ Oldest k db.server

theorem run_keeps {k : Int} {events : List Event} (keeps : ∀ event ∈ events, Keeps k event)
    {db : Database} (distinct : Distinct db) (oldest : Oldest k db.server) :
    Distinct (run settings events db) ∧ Oldest k (run settings events db).server := by
  induction events generalizing db with
  | nil => exact ⟨distinct, oldest⟩
  | cons event events ih =>
    have more : ∀ event ∈ events, Keeps k event := fun event inside =>
      keeps event (List.mem_cons_of_mem _ inside)
    have kept := keeps event List.mem_cons_self
    cases event with
    | passed =>
      exact ih more (pass_distinct settings distinct oldest)
        ((pass_repaired settings distinct oldest).oldest settings)
    | raised => exact ih more distinct oldest
    | pgAdmin db' => exact ih more (kept db' rfl).1 (kept db' rfl).2

def timescale (id : Int) : ServerRow where
  id := id
  host := some "timescaledb"
  port := some 5432
  username := some "postgres"
  savePassword := 1
  password := some "encrypted"
  service := none
  passexecCmd := none
  passexecExpiration := none
  connectionParams := none
  shared := some 0
  sharedUsername := none

def sharedTimescale : SharedServerRow :=
  ⟨1, some "timescaledb", some 5432, some "alice", 1, some "encrypted", none, none⟩

def listedTwice : Database := ⟨[timescale 2, timescale 1], [sharedTimescale]⟩

theorem listedTwice_distinct : Distinct listedTwice := by
  constructor
  · decide
  · decide

theorem listedTwice_oldest : Oldest 1 listedTwice.server := by
  constructor
  · exact ⟨timescale 1, by decide, by decide, rfl⟩
  · decide

end CompleteDeviceManagement.Guarantees.PgAdmin
