/-
  Python's dictionaries with text keys: a list of pairs, in the order in which the keys came.

  What a dictionary says is read with `get?`, and `ext` is the fact that this and the order of the keys
  are all there is to it.  An update goes through another dictionary, so **the last occurrence of a key
  wins** (`get?_update`), at the place where the key first stood.
-/
import Mathlib.Data.List.Nodup

namespace Py

/-- An insertion-ordered dictionary; a key that occurs twice is read at its first place. -/
abbrev Dict (α : Type) := List (String × α)

namespace Dict

variable {α : Type}

/-- `d.get(key)`. -/
def get? (d : Dict α) (key : String) : Option α :=
  match d with
  | [] => none
  | (k, v) :: rest => if k = key then some v else get? rest key

/-- `d[key] = value`: an existing key keeps its place, a new one goes to the end. -/
def set (d : Dict α) (key : String) (value : α) : Dict α :=
  match d with
  | [] => [(key, value)]
  | (k, v) :: rest => if k = key then (k, value) :: rest else (k, v) :: set rest key value

/-- `d.update(other)`. -/
def update (d other : Dict α) : Dict α := other.foldl (fun d kv => d.set kv.1 kv.2) d

theorem get?_set (d : Dict α) (key key' : String) (value : α) :
    (d.set key value).get? key' = if key = key' then some value else d.get? key' := by
  induction d with
  | nil => rfl
  | cons kv rest ih =>
    obtain ⟨k, v⟩ := kv
    by_cases hk : k = key
    · subst hk
      by_cases hk' : k = key'
      · simp [set, get?, hk']
      · simp [set, get?, hk']
    · by_cases hk' : k = key'
      · subst hk'
        simp [set, get?, hk, Ne.symm hk]
      · simp [set, get?, hk, hk', ih]

/-- The later value stays. -/
theorem set_set (d : Dict α) (key : String) (value value' : α) :
    (d.set key value).set key value' = d.set key value' := by
  induction d with
  | nil => exact if_pos rfl
  | cons kv rest ih =>
    by_cases hk : kv.1 = key
    · show set (if kv.1 = key then _ else _) key value' = if kv.1 = key then _ else _
      rw [if_pos hk, if_pos hk, set, if_pos hk]
    · show set (if kv.1 = key then _ else _) key value' = if kv.1 = key then _ else _
      rw [if_neg hk, if_neg hk, set, if_neg hk, ih]

/-- What is in a dictionary after setting was there, or was set. -/
theorem mem_set {d : Dict α} {key : String} {value : α} {kv : String × α}
    (h : kv ∈ d.set key value) : kv ∈ d ∨ kv = (key, value) := by
  induction d with
  | nil => exact Or.inr (List.mem_singleton.mp h)
  | cons kv' rest ih =>
    obtain ⟨k, v⟩ := kv'
    by_cases hk : k = key
    · rw [set, if_pos hk, List.mem_cons] at h
      rcases h with rfl | hrest
      · exact Or.inr (by rw [hk])
      · exact Or.inl (List.mem_cons_of_mem _ hrest)
    · rw [set, if_neg hk, List.mem_cons] at h
      rcases h with rfl | hrest
      · exact Or.inl List.mem_cons_self
      · exact (ih hrest).imp_left (List.mem_cons_of_mem _)

theorem mem_of_get? {d : Dict α} {key : String} {value : α} (h : d.get? key = some value) :
    (key, value) ∈ d := by
  induction d with
  | nil => cases h
  | cons kv rest ih =>
    obtain ⟨k, v⟩ := kv
    by_cases hk : k = key
    · rw [get?, if_pos hk] at h
      rw [← Option.some.inj h, hk]
      exact List.mem_cons_self
    · rw [get?, if_neg hk] at h
      exact List.mem_cons_of_mem _ (ih h)

/-- A key that is not there goes to the end. -/
theorem set_of_not_mem {d : Dict α} {key : String} {value : α} (h : key ∉ d.map Prod.fst) :
    d.set key value = d ++ [(key, value)] := by
  induction d with
  | nil => rfl
  | cons kv rest ih =>
    rw [List.map_cons, List.mem_cons, not_or] at h
    show (if kv.1 = key then _ else _) = _
    rw [if_neg (Ne.symm h.1), ih h.2]
    rfl

/-! ## Keys -/

theorem mem_keys_iff {d : Dict α} {key : String} : key ∈ d.map Prod.fst ↔ (d.get? key).isSome = true := by
  induction d with
  | nil => exact ⟨fun h => absurd h List.not_mem_nil, fun h => (by cases h)⟩
  | cons kv rest ih =>
    obtain ⟨k, v⟩ := kv
    rw [List.map_cons, List.mem_cons, ih]
    by_cases hk : k = key
    · rw [get?, if_pos hk]
      exact ⟨fun _ => rfl, fun _ => Or.inl hk.symm⟩
    · rw [get?, if_neg hk]
      exact ⟨fun h => h.resolve_left (Ne.symm hk), Or.inr⟩

/-- Setting a key that is there keeps the keys. -/
theorem keys_set_of_mem {d : Dict α} {key : String} {value : α} (h : key ∈ d.map Prod.fst) :
    (d.set key value).map Prod.fst = d.map Prod.fst := by
  induction d with
  | nil => cases h
  | cons kv rest ih =>
    obtain ⟨k, v⟩ := kv
    by_cases hk : k = key
    · rw [set, if_pos hk]
      rfl
    · rw [set, if_neg hk, List.map_cons, List.map_cons,
        ih ((List.mem_cons.mp h).resolve_left (Ne.symm hk))]

/-- Setting a key adds it, unless it is there. -/
theorem keys_set (d : Dict α) (key : String) (value : α) :
    (d.set key value).map Prod.fst =
      if key ∈ d.map Prod.fst then d.map Prod.fst else d.map Prod.fst ++ [key] := by
  by_cases h : key ∈ d.map Prod.fst
  · rw [if_pos h, keys_set_of_mem h]
  · rw [if_neg h, set_of_not_mem h, List.map_append]
    rfl

theorem nodup_keys_set {d : Dict α} (h : (d.map Prod.fst).Nodup) (key : String) (value : α) :
    ((d.set key value).map Prod.fst).Nodup := by
  rw [keys_set]
  by_cases hkey : key ∈ d.map Prod.fst
  · rwa [if_pos hkey]
  · rw [if_neg hkey, List.nodup_append]
    refine ⟨h, List.nodup_cons.mpr ⟨List.not_mem_nil, List.nodup_nil⟩, fun a ha b hb hab => ?_⟩
    rw [List.mem_singleton.mp hb] at hab
    exact hkey (hab ▸ ha)

/-- Setting what is there already changes nothing. -/
theorem set_eq_self {d : Dict α} {key : String} {value : α} (h : d.get? key = some value) :
    d.set key value = d := by
  induction d with
  | nil => cases h
  | cons kv rest ih =>
    obtain ⟨k, v⟩ := kv
    by_cases hk : k = key
    · rw [get?, if_pos hk] at h
      rw [set, if_pos hk, Option.some.inj h]
    · rw [get?, if_neg hk] at h
      rw [set, if_neg hk, ih h]

/-- **A dictionary is its keys, in their order, and what it says about each.** -/
theorem ext {d d' : Dict α} (hnodup : (d.map Prod.fst).Nodup)
    (hkeys : d.map Prod.fst = d'.map Prod.fst) (hget : ∀ key ∈ d.map Prod.fst, d.get? key = d'.get? key) :
    d = d' := by
  induction d generalizing d' with
  | nil => exact (List.map_eq_nil_iff.mp hkeys.symm).symm
  | cons kv rest ih =>
    obtain ⟨k, v⟩ := kv
    cases d' with
    | nil => cases hkeys
    | cons kv' rest' =>
      obtain ⟨k', v'⟩ := kv'
      rw [List.map_cons, List.map_cons] at hkeys
      obtain ⟨hk, hrest⟩ := List.cons.inj hkeys
      simp only at hk
      subst hk
      rw [List.map_cons, List.nodup_cons] at hnodup
      have hfirst := hget k List.mem_cons_self
      rw [get?, if_pos rfl, get?, if_pos rfl] at hfirst
      rw [Option.some.inj hfirst, ih hnodup.2 hrest]
      intro key hkey
      have hne : k ≠ key := fun h => hnodup.1 (h ▸ hkey)
      have hboth := hget key (List.mem_cons_of_mem _ hkey)
      rwa [get?, if_neg hne, get?, if_neg hne] at hboth

/-! ## Updating -/

theorem nodup_keys_update {d : Dict α} (h : (d.map Prod.fst).Nodup) (other : Dict α) :
    ((d.update other).map Prod.fst).Nodup := by
  induction other generalizing d with
  | nil => exact h
  | cons kv rest ih => exact ih (nodup_keys_set h kv.1 kv.2)

/-- The keys after an update depend on the keys before it and on those that were set. -/
theorem keys_update_congr {β : Type} {d : Dict α} {d' : Dict β} {other : Dict α} {other' : Dict β}
    (hkeys : d.map Prod.fst = d'.map Prod.fst) (hother : other.map Prod.fst = other'.map Prod.fst) :
    (d.update other).map Prod.fst = (d'.update other').map Prod.fst := by
  induction other generalizing d d' other' with
  | nil =>
    rw [List.map_eq_nil_iff.mp hother.symm]
    exact hkeys
  | cons kv rest ih =>
    cases other' with
    | nil => cases hother
    | cons kv' rest' =>
      rw [List.map_cons, List.map_cons] at hother
      obtain ⟨hkey, hrest⟩ := List.cons.inj hother
      have hset : (d.set kv.1 kv.2).map Prod.fst = (d'.set kv'.1 kv'.2).map Prod.fst := by
        rw [keys_set, keys_set, hkeys, hkey]
      show ((d.set kv.1 kv.2).update rest).map Prod.fst = ((d'.set kv'.1 kv'.2).update rest').map Prod.fst
      exact ih hset hrest

/-- **The last occurrence wins.** -/
theorem get?_update (d other : Dict α) (key : String) :
    (d.update other).get? key = (Dict.get? other.reverse key).or (d.get? key) := by
  have happend : ∀ (a b : Dict α), Dict.get? (a ++ b) key = (a.get? key).or (b.get? key) := by
    intro a b
    induction a with
    | nil => rfl
    | cons kv rest ih =>
      obtain ⟨k, v⟩ := kv
      by_cases hk : k = key
      · rw [List.cons_append, get?, if_pos hk, get?, if_pos hk]
        rfl
      · rw [List.cons_append, get?, if_neg hk, get?, if_neg hk, ih]
  induction other generalizing d with
  | nil => rfl
  | cons kv rest ih =>
    obtain ⟨k, v⟩ := kv
    show ((d.set k v).update rest).get? key = _
    rw [ih, get?_set, List.reverse_cons, happend, Option.or_assoc]
    congr 1
    by_cases hk : k = key
    · rw [if_pos hk, get?, if_pos hk]
      rfl
    · rw [if_neg hk, get?, if_neg hk]
      rfl

/-- Values that depend on the key alone. -/
theorem get?_map_keys {β : Type} (d : Dict α) (value : String → β) (key : String) :
    Dict.get? (d.map fun kv => (kv.1, value kv.1)) key =
      if key ∈ d.map Prod.fst then some (value key) else none := by
  induction d with
  | nil => rfl
  | cons kv rest ih =>
    obtain ⟨k, v⟩ := kv
    by_cases hk : k = key
    · have hmem : key ∈ ((k, v) :: rest).map Prod.fst := List.mem_cons.mpr (Or.inl hk.symm)
      rw [List.map_cons, get?, if_pos hk, if_pos hmem, hk]
    · have hmem : key ∈ ((k, v) :: rest).map Prod.fst ↔ key ∈ rest.map Prod.fst := by
        rw [List.map_cons, List.mem_cons]
        exact ⟨fun h => h.resolve_left (Ne.symm hk), Or.inr⟩
      rw [List.map_cons, get?, if_neg hk, ih]
      simp only [hmem]

/-- A list of keys with their values. -/
theorem get?_keys {β : Type} (keys : List String) (value : String → β) (key : String) :
    Dict.get? (keys.map fun k => (k, value k)) key = if key ∈ keys then some (value key) else none := by
  have h := get?_map_keys (keys.map fun k => (k, ())) value key
  rw [List.map_map, List.map_map] at h
  have hid : (keys.map (Prod.fst ∘ fun k => (k, ()))) = keys := List.map_id keys
  rw [hid] at h
  exact h

/-- What is left of a dictionary with distinct keys. -/
theorem get?_filter {d : Dict α} (hnodup : (d.map Prod.fst).Nodup) (keep : String × α → Bool)
    (key : String) : Dict.get? (d.filter keep) key = (d.get? key).filter fun value => keep (key, value) := by
  induction d with
  | nil => rfl
  | cons kv rest ih =>
    obtain ⟨k, v⟩ := kv
    rw [List.map_cons, List.nodup_cons] at hnodup
    rw [List.filter_cons]
    by_cases hk : k = key
    · subst hk
      have hrest : Dict.get? (rest.filter keep) k = none := by
        rw [ih hnodup.2]
        cases hget : Dict.get? rest k with
        | none => rfl
        | some value => exact absurd (mem_keys_iff.mpr (by rw [hget]; rfl)) hnodup.1
      rw [get?, if_pos rfl, Option.filter_some]
      by_cases hkeep : keep (k, v) = true
      · rw [if_pos hkeep, if_pos hkeep, get?, if_pos rfl]
      · rw [if_neg hkeep, if_neg hkeep, hrest]
    · rw [get?, if_neg hk, ← ih hnodup.2]
      by_cases hkeep : keep (k, v) = true
      · rw [if_pos hkeep, get?, if_neg hk]
      · rw [if_neg hkeep]

theorem get?_eq_none_iff {d : Dict α} {key : String} : d.get? key = none ↔ key ∉ d.map Prod.fst := by
  rw [mem_keys_iff, Option.not_isSome_iff_eq_none]

theorem mem_update {d other : Dict α} {kv : String × α} (h : kv ∈ d.update other) :
    kv ∈ d ∨ kv ∈ other := by
  induction other generalizing d with
  | nil => exact Or.inl h
  | cons kv' rest ih =>
    rcases ih h with hset | hrest
    · rcases mem_set hset with hd | rfl
      · exact Or.inl hd
      · exact Or.inr List.mem_cons_self
    · exact Or.inr (List.mem_cons_of_mem _ hrest)

end Dict

end Py
