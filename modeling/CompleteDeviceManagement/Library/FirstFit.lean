import CompleteDeviceManagement.Library.Dict

/-!
# First-fit allocation

Keys are bound to members of a fixed pool. A key that is bound keeps its
member; a new key gets the first member of the pool that no key holds, and
nothing happens when there is none.
-/

set_option autoImplicit false

namespace CompleteDeviceManagement.Library

namespace FirstFit

variable {κ α : Type} [DecidableEq α]

def firstFree (pool : List α) (d : Dict κ α) : Option α :=
  pool.find? fun a => decide (a ∉ d.values)

/-- What the search returns: the pool splits into held members, the first free
one, and the rest. -/
theorem firstFree_eq_some_iff (pool : List α) (d : Dict κ α) (a : α) :
    firstFree pool d = some a ↔
      a ∉ d.values ∧ ∃ before after, pool = before ++ a :: after ∧ ∀ b ∈ before, b ∈ d.values := by
  unfold firstFree
  rw [List.find?_eq_some_iff_append]
  simp

theorem firstFree_eq_none_iff (pool : List α) (d : Dict κ α) :
    firstFree pool d = none ↔ ∀ a ∈ pool, a ∈ d.values := by
  unfold firstFree
  rw [List.find?_eq_none]
  simp

/-- Bindings are members of the pool, and no two keys hold the same one. -/
structure Sound (pool : List α) (d : Dict κ α) : Prop where
  within : ∀ a ∈ d.values, a ∈ pool
  distinct : d.values.Nodup

variable [DecidableEq κ]

def allocate (pool : List α) (d : Dict κ α) (k : κ) : Option α × Dict κ α :=
  match d.get? k with
  | some a => (some a, d)
  | none =>
      match firstFree pool d with
      | some a => (some a, d.set k a)
      | none => (none, d)

def allocateAll (pool : List α) (d : Dict κ α) (ks : List κ) : Dict κ α :=
  ks.foldl (fun d k => (allocate pool d k).2) d

omit [DecidableEq α] in
theorem Sound.holder_unique {pool : List α} {d : Dict κ α} (h : Sound pool d) {k k' : κ} {a : α}
    (hk : d.get? k = some a) (hk' : d.get? k' = some a) : k = k' := by
  have hitem := (Dict.get?_eq_some_iff d k a).mp hk
  have hitem' := (Dict.get?_eq_some_iff d k' a).mp hk'
  exact congrArg Prod.fst (List.inj_on_of_nodup_map h.distinct hitem hitem' rfl)

theorem allocate_known {pool : List α} {d : Dict κ α} {k : κ} {a : α}
    (h : d.get? k = some a) : allocate pool d k = (some a, d) := by
  unfold allocate
  rw [h]

theorem allocate_new {pool : List α} {d : Dict κ α} {k : κ} {a : α}
    (h : d.get? k = none) (hf : firstFree pool d = some a) :
    allocate pool d k = (some a, d.set k a) := by
  unfold allocate
  rw [h, hf]

theorem allocate_full {pool : List α} {d : Dict κ α} {k : κ}
    (h : d.get? k = none) (hf : firstFree pool d = none) :
    allocate pool d k = (none, d) := by
  unfold allocate
  rw [h, hf]

omit [DecidableEq α] in
theorem values_set_of_absent {d : Dict κ α} {k : κ} (a : α) (h : d.get? k = none) :
    (d.set k a).values = d.values ++ [a] := by
  unfold Dict.values
  rw [Dict.set_items_of_absent d a h]
  simp

theorem allocate_sound {pool : List α} {d : Dict κ α} (h : Sound pool d) (k : κ) :
    Sound pool (allocate pool d k).2 := by
  cases hk : d.get? k with
  | some a => rwa [allocate_known hk]
  | none =>
    cases hf : firstFree pool d with
    | none => rwa [allocate_full hk hf]
    | some a =>
      rw [allocate_new hk hf]
      obtain ⟨free, before, after, hpool, -⟩ := (firstFree_eq_some_iff pool d a).mp hf
      have hvalues := values_set_of_absent a hk
      refine ⟨fun b hb => ?_, ?_⟩
      · rw [hvalues, List.mem_append, List.mem_singleton] at hb
        rcases hb with old | rfl
        · exact h.within b old
        · simp [hpool]
      · rw [hvalues, List.nodup_append]
        refine ⟨h.distinct, by simp, ?_⟩
        intro b hb c hc hbc
        rw [List.mem_singleton] at hc
        subst hbc hc
        exact free hb

theorem allocateAll_sound {pool : List α} {d : Dict κ α} (h : Sound pool d) (ks : List κ) :
    Sound pool (allocateAll pool d ks) := by
  induction ks generalizing d with
  | nil => exact h
  | cons k ks ih => exact ih (allocate_sound h k)

/-- A binding is never changed or dropped. -/
theorem allocate_keeps {pool : List α} {d : Dict κ α} {k' : κ} {a : α}
    (h : d.get? k' = some a) (k : κ) : (allocate pool d k).2.get? k' = some a := by
  cases hk : d.get? k with
  | some b => rwa [allocate_known hk]
  | none =>
    cases hf : firstFree pool d with
    | none => rwa [allocate_full hk hf]
    | some b =>
      rw [allocate_new hk hf, Dict.get?_set_of_ne]
      · exact h
      · rintro rfl
        rw [h] at hk
        cases hk

/-! ## From the empty allocation -/

/-- The keys of a run in the order of their first request. -/
def arrivals (ks : List κ) : List κ :=
  ks.foldl (fun seen k => if k ∈ seen then seen else seen ++ [k]) []

theorem arrivals_append (ks : List κ) (k : κ) :
    arrivals (ks ++ [k]) = if k ∈ arrivals ks then arrivals ks else arrivals ks ++ [k] := by
  unfold arrivals
  rw [List.foldl_append]
  rfl

theorem arrivals_nodup (ks : List κ) : (arrivals ks).Nodup := by
  induction ks using List.reverseRecOn with
  | nil => exact List.nodup_nil
  | append_singleton ks k ih =>
    rw [arrivals_append]
    split
    · exact ih
    next new =>
      rw [List.nodup_append]
      refine ⟨ih, by simp, ?_⟩
      intro a ha b hb hab
      rw [List.mem_singleton] at hb
      subst hab hb
      exact new ha

omit [DecidableEq κ] in
/-- The first free member of a pool whose held members are its first `n`. -/
theorem firstFree_of_take {pool : List α} (nodup : pool.Nodup) {d : Dict κ α} {n : Nat}
    (held : d.values = pool.take n) : firstFree pool d = pool[n]? := by
  cases hn : pool[n]? with
  | none =>
    rw [firstFree_eq_none_iff, held, List.take_of_length_le (List.getElem?_eq_none_iff.mp hn)]
    exact fun a ha => ha
  | some a =>
    obtain ⟨hlt, rfl⟩ := List.getElem?_eq_some_iff.mp hn
    have split : pool = pool.take n ++ pool[n] :: pool.drop (n + 1) := by
      rw [← List.drop_eq_getElem_cons hlt, List.take_append_drop]
    rw [firstFree_eq_some_iff, held]
    refine ⟨?_, pool.take n, pool.drop (n + 1), split, fun b hb => hb⟩
    rw [split] at nodup
    intro hmem
    exact (List.nodup_append.mp nodup).2.2 _ hmem _ List.mem_cons_self rfl

omit [DecidableEq κ] [DecidableEq α] in
theorem map_snd_zip_take (ks : List κ) (pool : List α) :
    (ks.zip pool).map Prod.snd = pool.take ks.length := by
  induction ks generalizing pool with
  | nil => rfl
  | cons k ks ih => cases pool <;> simp [ih]

omit [DecidableEq κ] [DecidableEq α] in
theorem zip_append_singleton (ks : List κ) (k : κ) (pool : List α) :
    (ks ++ [k]).zip pool = ks.zip pool ++ (pool[ks.length]?.toList.map fun a => (k, a)) := by
  induction ks generalizing pool with
  | nil => cases pool <;> simp
  | cons k' ks ih => cases pool <;> simp [ih]

/-- From the empty allocation the `i`-th key to arrive holds the `i`-th member
of the pool, and the keys that arrive after the pool is used up hold none. -/
theorem allocateAll_empty {pool : List α} (nodup : pool.Nodup) (ks : List κ) :
    (allocateAll pool Dict.empty ks).items = (arrivals ks).zip pool := by
  induction ks using List.reverseRecOn with
  | nil => rfl
  | append_singleton ks k ih =>
    have run : allocateAll pool Dict.empty (ks ++ [k]) =
        (allocate pool (allocateAll pool Dict.empty ks) k).2 := by
      simp [allocateAll, List.foldl_append]
    rw [run, arrivals_append]
    generalize hd : allocateAll pool (Dict.empty : Dict κ α) ks = d at ih
    have held : d.values = pool.take (arrivals ks).length := by
      rw [Dict.values, ih, map_snd_zip_take]
    cases hk : d.get? k with
    | some a =>
      have hmem : (k, a) ∈ (arrivals ks).zip pool := ih ▸ (Dict.get?_eq_some_iff d k a).mp hk
      rw [allocate_known hk, if_pos (List.of_mem_zip hmem).1, ih]
    | none =>
      have hfree := firstFree_of_take nodup held
      by_cases old : k ∈ arrivals ks
      · -- an old key that holds nothing came after the pool was used up
        rw [if_pos old]
        have used : pool.length ≤ (arrivals ks).length := by
          by_contra hlt
          rw [Dict.get?_eq_none_iff, Dict.keys, ih, List.map_fst_zip (by omega)] at hk
          exact hk old
        rw [List.getElem?_eq_none_iff.mpr used] at hfree
        rw [allocate_full hk hfree, ih]
      · rw [if_neg old, zip_append_singleton]
        cases hn : pool[(arrivals ks).length]? with
        | none =>
          rw [hn] at hfree
          rw [allocate_full hk hfree, ih]
          simp
        | some a =>
          rw [hn] at hfree
          rw [allocate_new hk hfree, Dict.set_items_of_absent d a hk, ih]
          simp

theorem allocate_answer (pool : List α) (d : Dict κ α) (k : κ) :
    (allocate pool d k).1 = (allocate pool d k).2.get? k := by
  cases hk : d.get? k with
  | some a => rw [allocate_known hk, hk]
  | none =>
    cases hf : firstFree pool d with
    | none => rw [allocate_full hk hf, hk]
    | some a => rw [allocate_new hk hf, Dict.get?_set_self]

omit [DecidableEq α] in
theorem lookup_zip {ks : List κ} (nodup : ks.Nodup) (pool : List α) {i : Nat} {k : κ}
    (hi : ks[i]? = some k) : Dict.lookup k (ks.zip pool) = pool[i]? := by
  induction ks generalizing i pool with
  | nil => simp at hi
  | cons k' ks ih =>
    obtain ⟨hnew, hrest⟩ := List.nodup_cons.mp nodup
    cases pool with
    | nil => simp [Dict.lookup]
    | cons a pool =>
      cases i with
      | zero =>
        have : k' = k := by simpa using hi
        simp [Dict.lookup, this]
      | succ i =>
        have hi' : ks[i]? = some k := by simpa using hi
        have hne : k' ≠ k := by
          rintro rfl
          exact hnew (List.mem_of_getElem? hi')
        simp [Dict.lookup, hne, ih hrest pool hi']

/-- From the empty allocation the key that arrives `i`-th is answered with the
`i`-th member of the pool, at its first request and at every later one. -/
theorem allocate_arrival {pool : List α} (nodup : pool.Nodup) (ks : List κ) {i : Nat} {k : κ}
    (hi : (arrivals (ks ++ [k]))[i]? = some k) :
    (allocate pool (allocateAll pool Dict.empty ks) k).1 = pool[i]? := by
  have run : (allocate pool (allocateAll pool Dict.empty ks) k).2 =
      allocateAll pool Dict.empty (ks ++ [k]) := by
    simp [allocateAll, List.foldl_append]
  rw [allocate_answer, run]
  unfold Dict.get?
  rw [allocateAll_empty nodup]
  exact lookup_zip (arrivals_nodup _) pool hi

end FirstFit

end CompleteDeviceManagement.Library
