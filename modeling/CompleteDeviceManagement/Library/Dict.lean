import Mathlib.Data.List.Nodup
import Mathlib.Data.List.Induction

/-!
# Insertion-ordered dictionaries

Finite maps that remember the order in which their keys were first stored:
storing under a key that is present keeps the key's place. Each key occurs once
by construction.
-/

set_option autoImplicit false

namespace CompleteDeviceManagement.Library

structure Dict (κ ν : Type) where
  items : List (κ × ν)
  nodup : (items.map Prod.fst).Nodup
  deriving DecidableEq

namespace Dict

variable {κ ν : Type}

@[ext] theorem ext {d d' : Dict κ ν} (h : d.items = d'.items) : d = d' := by
  cases d
  cases d'
  cases h
  rfl

def empty : Dict κ ν := ⟨[], List.nodup_nil⟩

instance : Inhabited (Dict κ ν) := ⟨empty⟩

def keys (d : Dict κ ν) : List κ := d.items.map Prod.fst

def values (d : Dict κ ν) : List ν := d.items.map Prod.snd

variable [DecidableEq κ]

def lookup (k : κ) : List (κ × ν) → Option ν
  | [] => none
  | (k', v) :: rest => if k' = k then some v else lookup k rest

def get? (d : Dict κ ν) (k : κ) : Option ν := lookup k d.items

def store (k : κ) (v : ν) : List (κ × ν) → List (κ × ν)
  | [] => [(k, v)]
  | (k', v') :: rest => if k' = k then (k', v) :: rest else (k', v') :: store k v rest

theorem store_keys (k : κ) (v : ν) (items : List (κ × ν)) :
    (store k v items).map Prod.fst =
      if k ∈ items.map Prod.fst then items.map Prod.fst else items.map Prod.fst ++ [k] := by
  induction items with
  | nil => simp [store]
  | cons item rest ih =>
    by_cases h : item.1 = k
    · simp [store, h]
    · have hne : k ≠ item.1 := fun e => h e.symm
      by_cases hm : k ∈ rest.map Prod.fst <;> simp_all [store]

theorem store_nodup {k : κ} {v : ν} {items : List (κ × ν)}
    (h : (items.map Prod.fst).Nodup) : ((store k v items).map Prod.fst).Nodup := by
  rw [store_keys]
  split
  · exact h
  next absent =>
    rw [List.nodup_append]
    refine ⟨h, by simp, ?_⟩
    intro a ha b hb hab
    rw [List.mem_singleton] at hb
    subst hab hb
    exact absent ha

def set (d : Dict κ ν) (k : κ) (v : ν) : Dict κ ν := ⟨store k v d.items, store_nodup d.nodup⟩

def erase (d : Dict κ ν) (k : κ) : Dict κ ν :=
  ⟨d.items.filter fun item => item.1 ≠ k, d.nodup.sublist (List.filter_sublist.map Prod.fst)⟩

/-- Keep the entries whose key satisfies `keep`. -/
def filterKeys (d : Dict κ ν) (keep : κ → Bool) : Dict κ ν :=
  ⟨d.items.filter fun item => keep item.1, d.nodup.sublist (List.filter_sublist.map Prod.fst)⟩

def mapValues (d : Dict κ ν) (f : ν → ν) : Dict κ ν where
  items := d.items.map fun item => (item.1, f item.2)
  nodup := by
    have names : (d.items.map fun item => (item.1, f item.2)).map Prod.fst =
        d.items.map Prod.fst := by
      rw [List.map_map]
      rfl
    rw [names]
    exact d.nodup

/-! ## Lookups -/

theorem lookup_store_self (k : κ) (v : ν) (items : List (κ × ν)) :
    lookup k (store k v items) = some v := by
  induction items with
  | nil => simp [store, lookup]
  | cons item rest ih =>
    by_cases h : item.1 = k
    · simp [store, lookup, h]
    · simp [store, lookup, h, ih]

theorem lookup_store_of_ne {k k' : κ} (v : ν) (items : List (κ × ν)) (hne : k' ≠ k) :
    lookup k' (store k v items) = lookup k' items := by
  induction items with
  | nil => simp [store, lookup, hne.symm]
  | cons item rest ih =>
    by_cases h : item.1 = k
    · simp [store, lookup, h, hne.symm]
    · simp only [store, h, if_false, lookup, ih]

theorem lookup_filter (keep : κ → Bool) (k : κ) (items : List (κ × ν)) :
    lookup k (items.filter fun item => keep item.1) =
      if keep k then lookup k items else none := by
  induction items with
  | nil => simp [lookup]
  | cons item rest ih =>
    by_cases h : item.1 = k
    · subst h
      cases hk : keep item.1 with
      | true => simp [hk, lookup]
      | false => simp [hk, ih]
    · cases hk : keep item.1 with
      | true => simp [hk, lookup, h, ih]
      | false => simp [hk, lookup, h, ih]

theorem mem_keys_of_lookup {k : κ} {v : ν} {items : List (κ × ν)}
    (h : lookup k items = some v) : (k, v) ∈ items := by
  induction items with
  | nil => cases h
  | cons item rest ih =>
    simp only [lookup] at h
    split at h
    next he =>
      cases h
      subst he
      exact List.mem_cons_self
    · exact List.mem_cons_of_mem _ (ih h)

theorem lookup_of_mem {k : κ} {v : ν} {items : List (κ × ν)}
    (nodup : (items.map Prod.fst).Nodup) (h : (k, v) ∈ items) : lookup k items = some v := by
  induction items with
  | nil => cases h
  | cons item rest ih =>
    have hn := List.nodup_cons.mp nodup
    rcases List.mem_cons.mp h with rfl | hr
    · simp [lookup]
    · have hne : item.1 ≠ k := by
        intro he
        exact hn.1 (he ▸ List.mem_map_of_mem (f := Prod.fst) hr)
      simp [lookup, hne, ih hn.2 hr]

@[simp] theorem get?_empty (k : κ) : (empty : Dict κ ν).get? k = none := rfl

@[simp] theorem get?_set_self (d : Dict κ ν) (k : κ) (v : ν) : (d.set k v).get? k = some v :=
  lookup_store_self k v d.items

theorem get?_set_of_ne (d : Dict κ ν) {k k' : κ} (v : ν) (hne : k' ≠ k) :
    (d.set k v).get? k' = d.get? k' :=
  lookup_store_of_ne v d.items hne

theorem get?_set (d : Dict κ ν) (k k' : κ) (v : ν) :
    (d.set k v).get? k' = if k' = k then some v else d.get? k' := by
  by_cases h : k' = k
  · subst h
    simp
  · rw [if_neg h, get?_set_of_ne d v h]

theorem get?_filterKeys (d : Dict κ ν) (keep : κ → Bool) (k : κ) :
    (d.filterKeys keep).get? k = if keep k then d.get? k else none :=
  lookup_filter keep k d.items

theorem get?_erase (d : Dict κ ν) (k k' : κ) :
    (d.erase k).get? k' = if k' = k then none else d.get? k' := by
  have h := lookup_filter (fun key => decide (key ≠ k)) k' d.items
  by_cases he : k' = k
  · simpa [get?, erase, he] using h
  · simpa [get?, erase, he] using h

theorem get?_mapValues (d : Dict κ ν) (f : ν → ν) (k : κ) :
    (d.mapValues f).get? k = (d.get? k).map f := by
  have mapped : ∀ items : List (κ × ν),
      lookup k (items.map fun item => (item.1, f item.2)) = (lookup k items).map f := by
    intro items
    induction items with
    | nil => rfl
    | cons item rest ih =>
      simp only [List.map_cons, lookup]
      split
      · rfl
      · exact ih
  exact mapped d.items

theorem get?_eq_some_iff (d : Dict κ ν) (k : κ) (v : ν) :
    d.get? k = some v ↔ (k, v) ∈ d.items :=
  ⟨mem_keys_of_lookup, lookup_of_mem d.nodup⟩

theorem get?_eq_none_iff (d : Dict κ ν) (k : κ) : d.get? k = none ↔ k ∉ d.keys := by
  constructor
  · intro h hk
    obtain ⟨⟨k', v⟩, hm, rfl⟩ := List.mem_map.mp hk
    rw [(get?_eq_some_iff d _ v).mpr hm] at h
    cases h
  · intro h
    cases hg : d.get? k with
    | none => rfl
    | some v =>
      exact absurd (List.mem_map_of_mem (f := Prod.fst) ((get?_eq_some_iff d k v).mp hg)) h

theorem erase_of_absent (d : Dict κ ν) {k : κ} (h : d.get? k = none) : d.erase k = d := by
  apply ext
  apply List.filter_eq_self.mpr
  intro item hitem
  have other : item.1 ≠ k := by
    intro same
    exact (get?_eq_none_iff d k).mp h (same ▸ List.mem_map_of_mem hitem)
  simpa using other

theorem filterKeys_of_all (d : Dict κ ν) {keep : κ → Bool}
    (h : ∀ k v, d.get? k = some v → keep k = true) : d.filterKeys keep = d := by
  apply ext
  apply List.filter_eq_self.mpr
  intro item hitem
  exact h item.1 item.2 ((get?_eq_some_iff d item.1 item.2).mpr hitem)

theorem mem_values_iff (d : Dict κ ν) (v : ν) : v ∈ d.values ↔ ∃ k, d.get? k = some v := by
  simp only [values, List.mem_map, Prod.exists, exists_eq_right, get?_eq_some_iff]

/-- Storing under a new key appends the entry at the end. -/
theorem set_items_of_absent (d : Dict κ ν) {k : κ} (v : ν) (h : d.get? k = none) :
    (d.set k v).items = d.items ++ [(k, v)] := by
  have appended : ∀ items : List (κ × ν), lookup k items = none →
      store k v items = items ++ [(k, v)] := by
    intro items
    induction items with
    | nil => intro _; rfl
    | cons item rest ih =>
      intro hl
      simp only [lookup] at hl
      split at hl
      · cases hl
      next he => simp [store, he, ih hl]
  exact appended d.items h

/-- Storing entries with new and distinct keys one after the other. -/
theorem foldl_set_items (items : List (κ × ν)) (d : Dict κ ν)
    (nodup : (d.keys ++ items.map Prod.fst).Nodup) :
    (items.foldl (fun d item => d.set item.1 item.2) d).items = d.items ++ items := by
  induction items generalizing d with
  | nil => simp
  | cons item rest ih =>
    have absent : d.get? item.1 = none := by
      rw [get?_eq_none_iff]
      intro hmem
      rw [List.nodup_append] at nodup
      exact nodup.2.2 item.1 hmem item.1 List.mem_cons_self rfl
    have hitems := d.set_items_of_absent item.2 absent
    have hkeys : (d.set item.1 item.2).keys = d.keys ++ [item.1] := by
      simp [keys, hitems]
    rw [List.foldl_cons, ih (d.set item.1 item.2) (by rw [hkeys]; simpa using nodup), hitems]
    simp

/-- A dictionary is what comes of storing its entries. -/
theorem foldl_set_self (d : Dict κ ν) :
    d.items.foldl (fun d item => d.set item.1 item.2) empty = d := by
  apply ext
  rw [foldl_set_items d.items empty (by simpa [keys, empty] using d.nodup)]
  rfl

end Dict

end CompleteDeviceManagement.Library
