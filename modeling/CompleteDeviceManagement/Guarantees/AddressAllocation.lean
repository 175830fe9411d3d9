import CompleteDeviceManagement.Library.FirstFit
import CompleteDeviceManagement.Source.WireGuard

/-!
# WireGuard addresses: every run of `allocate_ip`

The peers database is a first-fit allocation over the hosts of the subnet other
than the server (`allocateIp_refines`): its texts decode to the bindings of the
allocator, and a call answers with the text of the allocator's answer. The laws
of runs are those of the allocator.
-/

set_option autoImplicit false

namespace CompleteDeviceManagement.Guarantees.AddressAllocation
open CompleteDeviceManagement.Library CompleteDeviceManagement.Source.WireGuard

/-- The hosts that devices can get. -/
def pool (wg : WireGuardConfig) : List IpAddress :=
  wg.subnet.hosts.filter fun host => decide (host ≠ wg.serverIp)

theorem pool_nodup (wg : WireGuardConfig) : (pool wg).Nodup :=
  (IpNetwork.hosts_nodup wg.subnet).filter _

theorem mem_pool (wg : WireGuardConfig) (a : IpAddress) :
    a ∈ pool wg ↔ a ∈ wg.subnet.hosts ∧ a ≠ wg.serverIp := by
  simp [pool]

theorem ofText_text_of_pool {wg : WireGuardConfig} {a : IpAddress} (h : a ∈ pool wg) :
    IpAddress.ofText a.text = some a :=
  IpAddress.ofText_text (IpNetwork.scopeless_of_mem_hosts ((mem_pool wg a).mp h).1)

/-- The recorded texts are, entry by entry, texts of the bound addresses. -/
def Decodes (peers : Peers) (bound : Dict String IpAddress) : Prop :=
  List.Forall₂ (fun p q => p.1 = q.1 ∧ IpAddress.ofText p.2 = some q.2) peers.items bound.items

theorem decodes_empty : Decodes Dict.empty Dict.empty := List.Forall₂.nil

theorem Decodes.get? {peers : Peers} {bound : Dict String IpAddress} (h : Decodes peers bound)
    (d : String) :
    (∃ ip a, peers.get? d = some ip ∧ bound.get? d = some a ∧ IpAddress.ofText ip = some a) ∨
      (peers.get? d = none ∧ bound.get? d = none) := by
  unfold Decodes at h
  unfold Dict.get?
  generalize peers.items = items, bound.items = bindings at h
  induction h with
  | nil => exact Or.inr ⟨rfl, rfl⟩
  | @cons p q items bindings head tail ih =>
    obtain ⟨hkey, hip⟩ := head
    simp only [Dict.lookup, ← hkey]
    split
    · exact Or.inl ⟨p.2, q.2, rfl, rfl, hip⟩
    · exact ih

theorem Decodes.used {peers : Peers} {bound : Dict String IpAddress} (h : Decodes peers bound) :
    usedAddresses peers.values = .ok bound.values := by
  unfold Decodes at h
  unfold Dict.values
  generalize peers.items = items, bound.items = bindings at h
  induction h with
  | nil => rfl
  | @cons p q items bindings head tail ih =>
    simp only [List.map_cons, usedAddresses, head.2, ih]
    rfl

theorem Decodes.set {peers : Peers} {bound : Dict String IpAddress} (h : Decodes peers bound)
    {d ip : String} {a : IpAddress} (hnew : bound.get? d = none)
    (hip : IpAddress.ofText ip = some a) : Decodes (peers.set d ip) (bound.set d a) := by
  have hpeers : peers.get? d = none := by
    rcases h.get? d with ⟨_, _, _, hbound, _⟩ | ⟨hnone, _⟩
    · rw [hnew] at hbound
      cases hbound
    · exact hnone
  unfold Decodes
  rw [Dict.set_items_of_absent peers ip hpeers, Dict.set_items_of_absent bound a hnew]
  exact List.rel_append h (List.Forall₂.cons ⟨rfl, hip⟩ List.Forall₂.nil)

/-- The search of `allocate_ip` is the allocator's search of the pool. -/
theorem find_free (wg : WireGuardConfig) (bound : Dict String IpAddress) :
    (wg.subnet.hosts.find? fun host => decide (host ∉ wg.serverIp :: bound.values)) =
      FirstFit.firstFree (pool wg) bound := by
  unfold FirstFit.firstFree pool
  rw [List.find?_filter]
  congr 1
  funext host
  simp [not_or]

/-- One call, by cases: a known device, a new device and a free address, a new
device and none. -/
theorem allocateIp_cases {wg : WireGuardConfig} {db : Option Peers}
    {bound : Dict String IpAddress} (h : Decodes (loadPeers db) bound) (d : String) :
    (∃ ip, (loadPeers db).get? d = some ip ∧ allocateIp wg db d = (.ok ip, db)) ∨
      ((loadPeers db).get? d = none ∧ ∃ a, FirstFit.firstFree (pool wg) bound = some a ∧
        allocateIp wg db d = (.ok a.text, some ((loadPeers db).set d a.text))) ∨
      ((loadPeers db).get? d = none ∧ FirstFit.firstFree (pool wg) bound = none ∧
        allocateIp wg db d = (.error (exhausted wg), db)) := by
  cases hd : (loadPeers db).get? d with
  | some ip =>
    refine Or.inl ⟨ip, rfl, ?_⟩
    unfold allocateIp
    simp only [hd]
  | none =>
    refine Or.inr ?_
    cases hfree : FirstFit.firstFree (pool wg) bound with
    | some a =>
      refine Or.inl ⟨rfl, a, rfl, ?_⟩
      unfold allocateIp
      simp only [hd, h.used, find_free, hfree]
    | none =>
      refine Or.inr ⟨rfl, rfl, ?_⟩
      unfold allocateIp
      simp only [hd, h.used, find_free, hfree]

theorem mem_pool_of_firstFree {wg : WireGuardConfig} {bound : Dict String IpAddress}
    {a : IpAddress} (h : FirstFit.firstFree (pool wg) bound = some a) : a ∈ pool wg := by
  obtain ⟨-, before, after, hpool, -⟩ := (FirstFit.firstFree_eq_some_iff _ _ _).mp h
  rw [hpool]
  simp

theorem Decodes.absent {peers : Peers} {bound : Dict String IpAddress} (h : Decodes peers bound)
    {d : String} (hd : peers.get? d = none) : bound.get? d = none := by
  rcases h.get? d with ⟨ip, a, hpeers, -, -⟩ | ⟨-, hbound⟩
  · rw [hd] at hpeers
    cases hpeers
  · exact hbound

/-- One call refines one step of the allocator. -/
theorem allocateIp_refines {wg : WireGuardConfig} {db : Option Peers}
    {bound : Dict String IpAddress} (h : Decodes (loadPeers db) bound) (d : String) :
    Decodes (loadPeers (allocateIp wg db d).2) (FirstFit.allocate (pool wg) bound d).2 := by
  rcases allocateIp_cases h d with ⟨ip, hd, hcall⟩ | ⟨hd, a, hfree, hcall⟩ | ⟨hd, hfree, hcall⟩
  · rcases h.get? d with ⟨ip', a, -, hbound, -⟩ | ⟨hnone, -⟩
    · rwa [hcall, FirstFit.allocate_known hbound]
    · rw [hd] at hnone
      cases hnone
  · rw [hcall, FirstFit.allocate_new (h.absent hd) hfree]
    exact h.set (h.absent hd) (ofText_text_of_pool (mem_pool_of_firstFree hfree))
  · rwa [hcall, FirstFit.allocate_full (h.absent hd) hfree]

theorem run_refines (wg : WireGuardConfig) {db : Option Peers} {bound : Dict String IpAddress}
    (h : Decodes (loadPeers db) bound) (calls : List String) :
    Decodes (loadPeers (run wg db calls)) (FirstFit.allocateAll (pool wg) bound calls) := by
  induction calls generalizing db bound with
  | nil => exact h
  | cons d calls ih => exact ih (allocateIp_refines h d)

theorem allocateIp_keeps {wg : WireGuardConfig} {db : Option Peers}
    {bound : Dict String IpAddress} (h : Decodes (loadPeers db) bound) {d ip : String}
    (hd : (loadPeers db).get? d = some ip) (d' : String) :
    (loadPeers (allocateIp wg db d').2).get? d = some ip := by
  rcases allocateIp_cases h d' with ⟨ip', hd', hcall⟩ | ⟨hd', a, -, hcall⟩ | ⟨-, -, hcall⟩
  · rwa [hcall]
  · have hne : d ≠ d' := by
      rintro rfl
      rw [hd] at hd'
      cases hd'
    rw [hcall]
    exact (Dict.get?_set_of_ne _ _ hne).trans hd
  · rwa [hcall]

/-- A recorded text is never changed or dropped. -/
theorem run_keeps {wg : WireGuardConfig} {db : Option Peers} {bound : Dict String IpAddress}
    (h : Decodes (loadPeers db) bound) {d ip : String}
    (hd : (loadPeers db).get? d = some ip) (calls : List String) :
    (loadPeers (run wg db calls)).get? d = some ip := by
  induction calls generalizing db bound with
  | nil => exact hd
  | cons d' calls ih => exact ih (allocateIp_refines h d') (allocateIp_keeps h hd d')

/-! ## The law of allocation -/

/-- `d` is recorded with a text of the address `a`. -/
def Holds (peers : Peers) (d : String) (a : IpAddress) : Prop :=
  ∃ ip, peers.get? d = some ip ∧ IpAddress.ofText ip = some a

/-- The recorded addresses are hosts of the subnet other than the server's, and
no two devices have the same one. -/
structure Sound (wg : WireGuardConfig) (peers : Peers) : Prop where
  host : ∀ d ip, peers.get? d = some ip →
    ∃ a, IpAddress.ofText ip = some a ∧ a ∈ wg.subnet.hosts ∧ a ≠ wg.serverIp
  distinct : ∀ d d' a, Holds peers d a → Holds peers d' a → d = d'

def Available (wg : WireGuardConfig) (peers : Peers) (a : IpAddress) : Prop :=
  a ∈ wg.subnet.hosts ∧ a ≠ wg.serverIp ∧ ∀ d, ¬ Holds peers d a

/-- `a` is available and no earlier host is. -/
def FirstAvailable (wg : WireGuardConfig) (peers : Peers) (a : IpAddress) : Prop :=
  Available wg peers a ∧ ∃ before after, wg.subnet.hosts = before ++ a :: after ∧
    ∀ b ∈ before, ¬ Available wg peers b

/-- What one call does in a database. -/
structure CallLaw (wg : WireGuardConfig) (db : Option Peers) (d : String) : Prop where
  known : ∀ ip, (loadPeers db).get? d = some ip → allocateIp wg db d = (.ok ip, db)
  new : (loadPeers db).get? d = none → ∀ a, FirstAvailable wg (loadPeers db) a →
    allocateIp wg db d = (.ok a.text, some ((loadPeers db).set d a.text))
  raises : (∃ message, (allocateIp wg db d).1 = .error (.wireGuardError message)) ↔
    (loadPeers db).get? d = none ∧ ∀ a, ¬ Available wg (loadPeers db) a
  unchanged : ∀ error, (allocateIp wg db d).1 = .error error → (allocateIp wg db d).2 = db

theorem Decodes.holds_iff {peers : Peers} {bound : Dict String IpAddress}
    (h : Decodes peers bound) (d : String) (a : IpAddress) :
    Holds peers d a ↔ bound.get? d = some a := by
  constructor
  · rintro ⟨ip, hpeers, hip⟩
    rcases h.get? d with ⟨ip', a', hpeers', hbound, hip'⟩ | ⟨hpeers', -⟩
    · rw [hpeers'] at hpeers
      cases hpeers
      rw [hip'] at hip
      cases hip
      exact hbound
    · rw [hpeers'] at hpeers
      cases hpeers
  · intro hbound
    rcases h.get? d with ⟨ip, a', hpeers, hbound', hip⟩ | ⟨-, hbound'⟩
    · rw [hbound'] at hbound
      cases hbound
      exact ⟨ip, hpeers, hip⟩
    · rw [hbound'] at hbound
      cases hbound

theorem Decodes.available_iff {wg : WireGuardConfig} {peers : Peers}
    {bound : Dict String IpAddress} (h : Decodes peers bound) (a : IpAddress) :
    Available wg peers a ↔ a ∈ wg.subnet.hosts ∧ a ∉ wg.serverIp :: bound.values := by
  have held : (∀ d, ¬ Holds peers d a) ↔ a ∉ bound.values := by
    rw [Dict.mem_values_iff, not_exists]
    exact forall_congr' fun d => not_congr (h.holds_iff d a)
  unfold Available
  rw [held, List.mem_cons, not_or]

theorem Decodes.firstAvailable_iff {wg : WireGuardConfig} {peers : Peers}
    {bound : Dict String IpAddress} (h : Decodes peers bound) (a : IpAddress) :
    FirstAvailable wg peers a ↔ FirstFit.firstFree (pool wg) bound = some a := by
  rw [← find_free, List.find?_eq_some_iff_append]
  unfold FirstAvailable
  constructor
  · rintro ⟨available, before, after, hhosts, taken⟩
    refine ⟨by simpa using (h.available_iff a).mp available |>.2, before, after, hhosts, ?_⟩
    intro b hb
    have hmem : b ∈ wg.subnet.hosts := by
      rw [hhosts]
      exact List.mem_append_left _ hb
    have used := mt (h.available_iff b).mpr (taken b hb)
    have : b ∈ wg.serverIp :: bound.values := by
      by_contra hfree
      exact used ⟨hmem, hfree⟩
    simpa using this
  · rintro ⟨hfree, before, after, hhosts, taken⟩
    have hmem : a ∈ wg.subnet.hosts := by
      rw [hhosts]
      simp
    refine ⟨(h.available_iff a).mpr ⟨hmem, by simpa using hfree⟩, before, after, hhosts, ?_⟩
    intro b hb available
    have hused := taken b hb
    have hfree' := ((h.available_iff b).mp available).2
    simp only [Bool.not_eq_true', decide_eq_false_iff_not, not_not] at hused
    exact hfree' hused

theorem Decodes.none_available_iff {wg : WireGuardConfig} {peers : Peers}
    {bound : Dict String IpAddress} (h : Decodes peers bound) :
    (∀ a, ¬ Available wg peers a) ↔ FirstFit.firstFree (pool wg) bound = none := by
  rw [← find_free, List.find?_eq_none]
  constructor
  · intro hnone b hb
    have used := mt (h.available_iff b).mpr (hnone b)
    simpa [hb] using used
  · intro hused a available
    obtain ⟨hmem, hfree⟩ := (h.available_iff a).mp available
    have := hused a hmem
    simp only [decide_eq_true_eq, not_not] at this
    exact hfree this

theorem keys_of_decoded {items : List (String × String)} {bindings : List (String × IpAddress)}
    (h : List.Forall₂ (fun p q => p.1 = q.1 ∧ IpAddress.ofText p.2 = some q.2) items bindings) :
    items.map Prod.fst = bindings.map Prod.fst := by
  induction h with
  | nil => rfl
  | cons head _ ih => rw [List.map_cons, List.map_cons, ih, head.1]

theorem decodes_of_sound {wg : WireGuardConfig} {peers : Peers} (h : Sound wg peers) :
    ∃ bound, Decodes peers bound ∧ FirstFit.Sound (pool wg) bound := by
  have decoded : ∀ items : List (String × String),
      (∀ p ∈ items, ∃ a, IpAddress.ofText p.2 = some a) →
      ∃ bindings : List (String × IpAddress),
        List.Forall₂ (fun p q => p.1 = q.1 ∧ IpAddress.ofText p.2 = some q.2) items bindings := by
    intro items
    induction items with
    | nil => exact fun _ => ⟨[], List.Forall₂.nil⟩
    | cons p items ih =>
      intro hall
      obtain ⟨a, ha⟩ := hall p (by simp)
      obtain ⟨bindings, hrest⟩ := ih fun q hq => hall q (List.mem_cons_of_mem p hq)
      exact ⟨(p.1, a) :: bindings, List.Forall₂.cons ⟨rfl, ha⟩ hrest⟩
  obtain ⟨bindings, hbindings⟩ := decoded peers.items fun p hp => by
    obtain ⟨a, ha, -⟩ := h.host p.1 p.2 ((Dict.get?_eq_some_iff peers p.1 p.2).mpr hp)
    exact ⟨a, ha⟩
  have hkeys : bindings.map Prod.fst = peers.items.map Prod.fst :=
    (keys_of_decoded hbindings).symm
  have hnodup : (bindings.map Prod.fst).Nodup := hkeys ▸ peers.nodup
  have decodes : Decodes peers ⟨bindings, hnodup⟩ := hbindings
  refine ⟨⟨bindings, hnodup⟩, decodes, ?_, ?_⟩
  · intro a ha
    obtain ⟨d, hd⟩ := (Dict.mem_values_iff _ a).mp ha
    obtain ⟨ip, hpeers, hip⟩ := (decodes.holds_iff d a).mpr hd
    obtain ⟨a', hip', hhost, hserver⟩ := h.host d ip hpeers
    rw [hip] at hip'
    cases hip'
    exact (mem_pool wg a).mpr ⟨hhost, hserver⟩
  · refine (List.Nodup.of_map Prod.fst hnodup).map_on fun p hp q hq hpq => ?_
    have holds : ∀ r ∈ bindings, Holds peers r.1 r.2 := fun r hr =>
      (decodes.holds_iff r.1 r.2).mpr ((Dict.get?_eq_some_iff _ r.1 r.2).mpr hr)
    have hp' := holds p hp
    rw [hpq] at hp'
    exact Prod.ext (h.distinct p.1 q.1 q.2 hp' (holds q hq)) hpq

theorem sound_of_decodes {wg : WireGuardConfig} {peers : Peers} {bound : Dict String IpAddress}
    (h : Decodes peers bound) (hs : FirstFit.Sound (pool wg) bound) : Sound wg peers := by
  refine ⟨fun d ip hpeers => ?_, fun d d' a hd hd' => ?_⟩
  · rcases h.get? d with ⟨ip', a, hpeers', hbound, hip⟩ | ⟨hpeers', -⟩
    · rw [hpeers'] at hpeers
      cases hpeers
      have hmem := hs.within a ((Dict.mem_values_iff bound a).mpr ⟨d, hbound⟩)
      exact ⟨a, hip, (mem_pool wg a).mp hmem⟩
    · rw [hpeers'] at hpeers
      cases hpeers
  · exact hs.holder_unique ((h.holds_iff d a).mp hd) ((h.holds_iff d' a).mp hd')

theorem callLaw_of_decodes {wg : WireGuardConfig} {db : Option Peers}
    {bound : Dict String IpAddress} (h : Decodes (loadPeers db) bound) (d : String) :
    CallLaw wg db d := by
  rcases allocateIp_cases h d with ⟨ip, hd, hcall⟩ | ⟨hd, a, hfree, hcall⟩ | ⟨hd, hfree, hcall⟩
  · refine ⟨fun ip' hd' => ?_, fun hd' => ?_, ?_, fun error herr => ?_⟩
    · rw [hd] at hd'
      cases hd'
      exact hcall
    · rw [hd] at hd'
      cases hd'
    · rw [hcall, hd]
      simp
    · rw [hcall]
  · refine ⟨fun ip' hd' => ?_, fun _ a' first => ?_, ?_, fun error herr => ?_⟩
    · rw [hd] at hd'
      cases hd'
    · rw [h.firstAvailable_iff, hfree] at first
      cases first
      exact hcall
    · rw [hcall, h.none_available_iff, hfree]
      simp
    · rw [hcall] at herr
      cases herr
  · refine ⟨fun ip' hd' => ?_, fun _ a' first => ?_, ?_, fun error herr => ?_⟩
    · rw [hd] at hd'
      cases hd'
    · rw [h.firstAvailable_iff, hfree] at first
      cases first
    · rw [hcall, h.none_available_iff]
      exact ⟨fun _ => ⟨hd, hfree⟩, fun _ => ⟨_, rfl⟩⟩
    · rw [hcall]

/-! ## From the empty database -/

/-- Every recorded text is the one that `str` gives for the bound address. -/
def Written (peers : Peers) (bound : Dict String IpAddress) : Prop :=
  peers.items = bound.items.map fun q => (q.1, q.2.text)

theorem allocateIp_written {wg : WireGuardConfig} {db : Option Peers}
    {bound : Dict String IpAddress} (h : Decodes (loadPeers db) bound)
    (written : Written (loadPeers db) bound) (d : String) :
    Written (loadPeers (allocateIp wg db d).2) (FirstFit.allocate (pool wg) bound d).2 := by
  rcases allocateIp_cases h d with ⟨ip, hd, hcall⟩ | ⟨hd, a, hfree, hcall⟩ | ⟨hd, hfree, hcall⟩
  · rcases h.get? d with ⟨ip', a, -, hbound, -⟩ | ⟨hnone, -⟩
    · rwa [hcall, FirstFit.allocate_known hbound]
    · rw [hd] at hnone
      cases hnone
  · rw [hcall, FirstFit.allocate_new (h.absent hd) hfree]
    unfold Written loadPeers at *
    simp only [Option.getD_some]
    rw [Dict.set_items_of_absent _ _ hd, Dict.set_items_of_absent _ _ (h.absent hd), written]
    simp
  · rwa [hcall, FirstFit.allocate_full (h.absent hd) hfree]

theorem run_written (wg : WireGuardConfig) {db : Option Peers} {bound : Dict String IpAddress}
    (h : Decodes (loadPeers db) bound) (written : Written (loadPeers db) bound)
    (calls : List String) :
    Written (loadPeers (run wg db calls)) (FirstFit.allocateAll (pool wg) bound calls) := by
  induction calls generalizing db bound with
  | nil => exact written
  | cons d calls ih => exact ih (allocateIp_refines h d) (allocateIp_written h written d)

/-- The text of an address, or the exhaustion error. -/
def answer (wg : WireGuardConfig) : Option IpAddress → Except Error String
  | some a => .ok a.text
  | none => .error (exhausted wg)

/-- What every run from an empty database has recorded and answers: the device
that arrived `k`-th (from 0) holds and gets the `k`-th host other than the
server, and a device that arrives when there is none left is refused. -/
structure FromEmpty (wg : WireGuardConfig) (db : Option Peers) (calls : List String) : Prop where
  recorded : (loadPeers (run wg db calls)).items =
    (FirstFit.arrivals calls).zip ((pool wg).map IpAddress.text)
  served : (loadPeers (run wg db calls)).items.length =
    min (FirstFit.arrivals calls).length (pool wg).length
  answered : ∀ (d : String) (k : Nat), (FirstFit.arrivals (calls ++ [d]))[k]? = some d →
    (allocateIp wg (run wg db calls) d).1 = answer wg (pool wg)[k]?

theorem allocateIp_answer {wg : WireGuardConfig} {db : Option Peers}
    {bound : Dict String IpAddress} (h : Decodes (loadPeers db) bound)
    (written : Written (loadPeers db) bound) (d : String) :
    (allocateIp wg db d).1 = answer wg (FirstFit.allocate (pool wg) bound d).1 := by
  rcases allocateIp_cases h d with ⟨ip, hd, hcall⟩ | ⟨hd, a, hfree, hcall⟩ | ⟨hd, hfree, hcall⟩
  · rcases h.get? d with ⟨ip', a, -, hbound, -⟩ | ⟨hnone, -⟩
    · have hitem : (d, a.text) ∈ (loadPeers db).items := by
        rw [written]
        exact List.mem_map_of_mem ((Dict.get?_eq_some_iff bound d a).mp hbound)
      rw [(Dict.get?_eq_some_iff _ _ _).mpr hitem] at hd
      cases hd
      rw [hcall, FirstFit.allocate_known hbound]
      rfl
    · rw [hd] at hnone
      cases hnone
  · rw [hcall, FirstFit.allocate_new (h.absent hd) hfree]
    rfl
  · rw [hcall, FirstFit.allocate_full (h.absent hd) hfree]
    rfl

theorem fromEmpty {wg : WireGuardConfig} {db : Option Peers}
    (hempty : loadPeers db = Dict.empty) (calls : List String) : FromEmpty wg db calls := by
  have decodes : Decodes (loadPeers db) Dict.empty := hempty ▸ decodes_empty
  have written : Written (loadPeers db) Dict.empty := by rw [hempty]; rfl
  have reached : Decodes (loadPeers (run wg db calls)) _ := run_refines wg decodes calls
  have recorded := run_written wg decodes written calls
  have items : (loadPeers (run wg db calls)).items =
      (FirstFit.arrivals calls).zip ((pool wg).map IpAddress.text) := by
    rw [recorded, FirstFit.allocateAll_empty (pool_nodup wg), List.zip_map_right]
    rfl
  refine ⟨items, ?_, fun d k hk => ?_⟩
  · rw [items, List.length_zip, List.length_map]
  · rw [allocateIp_answer reached recorded d,
      FirstFit.allocate_arrival (pool_nodup wg) calls hk]

/-- Every run of `allocate_ip` from a sound database: the database stays sound,
a recorded address stays, each call obeys `CallLaw`, and from an empty database
the devices get the hosts in order. -/
theorem allocation_lawful (wg : WireGuardConfig) (db : Option Peers)
    (sound : Sound wg (loadPeers db)) (calls : List String) :
    Sound wg (loadPeers (run wg db calls)) ∧
    (∀ d, CallLaw wg (run wg db calls) d) ∧
    (∀ d ip more, (loadPeers (run wg db calls)).get? d = some ip →
      (loadPeers (run wg db (calls ++ more))).get? d = some ip) ∧
    (loadPeers db = Dict.empty → FromEmpty wg db calls) := by
  obtain ⟨bound, decodes, fits⟩ := decodes_of_sound sound
  have reached := run_refines wg decodes calls
  refine ⟨?_, fun d => callLaw_of_decodes reached d, ?_, fun hempty => fromEmpty hempty calls⟩
  · exact sound_of_decodes reached (FirstFit.allocateAll_sound fits calls)
  · intro d ip more hd
    have hrun : run wg db (calls ++ more) = run wg (run wg db calls) more := by
      simp [run, List.foldl_append]
    rw [hrun]
    exact run_keeps reached hd more

/-- The network of the exhaustion test: the second device is refused. -/
theorem allocation_lawful_small :
    (allocateIp smallNetwork (run smallNetwork none ["device-a"]) "device-b").1 =
      .error (exhausted smallNetwork) :=
  ((allocation_lawful smallNetwork none
    ⟨fun d ip h => by simp [loadPeers] at h, fun d d' a ⟨ip, h, _⟩ => by
      simp [loadPeers] at h⟩ ["device-a"]).2.2.2 rfl).answered "device-b" 1 (by decide)

end CompleteDeviceManagement.Guarantees.AddressAllocation
