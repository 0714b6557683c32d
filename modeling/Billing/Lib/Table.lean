/-
  KEYED TABLES: a list of rows in which no key occurs twice.

  This is a database table with a primary key, and it is just as well an insertion-ordered
  dictionary whose values know their own key.  Uniqueness is a field of the structure, so a table
  that breaks it cannot be built and no later proof has to establish it again.

  `upsert` is the select-then-insert-or-update that repositories write by hand: a new row goes to
  the end, an existing one is replaced where it stands.  Its whole behaviour is `find?_upsert`.
-/
import Mathlib.Data.List.Nodup
import Mathlib.Data.List.Perm.Basic

namespace Keyed

/-- A table of rows `ρ` with keys `κ`: the rows in order, no key twice. -/
structure Table (κ ρ : Type) (key : ρ → κ) where
  /-- The rows, in the order in which they were inserted. -/
  rows : List ρ
  /-- The primary key. -/
  nodup : (rows.map key).Nodup

namespace Table

variable {κ ρ : Type} [DecidableEq κ] {key : ρ → κ}

/-- The table without rows. -/
def empty : Table κ ρ key := ⟨[], List.nodup_nil⟩

/-- The row of a key. -/
def find? (t : Table κ ρ key) (k : κ) : Option ρ := t.rows.find? fun r => decide (key r = k)

@[simp] theorem find?_empty (k : κ) : (empty : Table κ ρ key).find? k = none := rfl

theorem key_of_find? {t : Table κ ρ key} {k : κ} {r : ρ} (h : t.find? k = some r) : key r = k := by
  have := List.find?_some h
  exact of_decide_eq_true this

theorem mem_of_find? {t : Table κ ρ key} {k : κ} {r : ρ} (h : t.find? k = some r) : r ∈ t.rows :=
  List.mem_of_find?_eq_some h

theorem find?_eq_none_iff {t : Table κ ρ key} {k : κ} :
    t.find? k = none ↔ k ∉ t.rows.map key := by
  rw [find?, List.find?_eq_none, List.mem_map]
  constructor
  · rintro h ⟨r, hr, rfl⟩
    exact h r hr (decide_eq_true rfl)
  · intro h r hr hk
    exact h ⟨r, hr, of_decide_eq_true hk⟩

/-- Rows and keys are the same thing: the row of its own key is the row itself. -/
theorem find?_of_mem {t : Table κ ρ key} {r : ρ} (h : r ∈ t.rows) : t.find? (key r) = some r := by
  cases hf : t.find? (key r) with
  | none => exact absurd (List.mem_map_of_mem h) (find?_eq_none_iff.mp hf)
  | some r' =>
    -- two rows with one key are one row, by `nodup`
    have hinj := List.inj_on_of_nodup_map t.nodup
    rw [hinj (mem_of_find? hf) h (key_of_find? hf)]

/-- Insert a row whose key is not there yet. -/
def insert (t : Table κ ρ key) (r : ρ) (h : t.find? (key r) = none) : Table κ ρ key :=
  ⟨t.rows ++ [r], by
    rw [List.map_append, List.nodup_append]
    refine ⟨t.nodup, List.nodup_singleton _, ?_⟩
    intro a ha b hb hab
    have hb' : b = key r := List.mem_singleton.mp hb
    rw [hab, hb'] at ha
    exact find?_eq_none_iff.mp h ha⟩

/-- Replace the row with the key of `r` by `r`. -/
def update (t : Table κ ρ key) (r : ρ) : Table κ ρ key :=
  ⟨t.rows.map fun x => if key x = key r then r else x, by
    have hkeys : (t.rows.map fun x => if key x = key r then r else x).map key = t.rows.map key := by
      rw [List.map_map]
      refine List.map_congr_left fun x _ => ?_
      show key (if key x = key r then r else x) = key x
      by_cases hx : key x = key r
      · rw [if_pos hx, hx]
      · rw [if_neg hx]
    rw [hkeys]
    exact t.nodup⟩

/-- Select the key of `r`, then insert `r` or update the row that is there. -/
def upsert (t : Table κ ρ key) (r : ρ) : Table κ ρ key :=
  match h : t.find? (key r) with
  | none => t.insert r h
  | some _ => t.update r

theorem find?_insert {t : Table κ ρ key} {r : ρ} (h : t.find? (key r) = none) (k : κ) :
    (t.insert r h).find? k = if key r = k then some r else t.find? k := by
  show (t.rows ++ [r]).find? _ = _
  rw [List.find?_append]
  by_cases hk : key r = k
  · subst hk
    rw [if_pos rfl]
    have hn : t.rows.find? (fun x => decide (key x = key r)) = none := h
    rw [hn]
    simp
  · rw [if_neg hk]
    show (t.rows.find? _).or _ = t.rows.find? _
    simp [hk]

theorem find?_update {t : Table κ ρ key} {r r' : ρ} (h : t.find? (key r) = some r') (k : κ) :
    (t.update r).find? k = if key r = k then some r else t.find? k := by
  by_cases hk : key r = k
  · subst hk
    rw [if_pos rfl]
    refine find?_of_mem (t := t.update r) ?_
    refine List.mem_map.mpr ⟨r', mem_of_find? h, ?_⟩
    rw [if_pos (key_of_find? h)]
  · rw [if_neg hk]
    show (t.rows.map _).find? _ = t.rows.find? _
    rw [List.find?_map]
    -- both sides look for the key `k`, and only rows of another key were touched
    have hp : (fun x => decide (key x = k)) ∘ (fun x => if key x = key r then r else x) =
        fun x => decide (key x = k) := by
      funext x
      show decide (key (if key x = key r then r else x) = k) = decide (key x = k)
      by_cases hx : key x = key r
      · rw [if_pos hx, hx]
      · rw [if_neg hx]
    rw [hp]
    cases hf : t.rows.find? (fun x => decide (key x = k)) with
    | none => rfl
    | some x =>
      have hxk : key x = k := key_of_find? (t := t) hf
      show some (if key x = key r then r else x) = some x
      rw [if_neg (by rw [hxk]; exact Ne.symm hk)]

/-- **What an upsert does**: its own key answers with the new row, every other key as before. -/
theorem find?_upsert (t : Table κ ρ key) (r : ρ) (k : κ) :
    (t.upsert r).find? k = if key r = k then some r else t.find? k := by
  unfold upsert
  split
  · rename_i h; exact find?_insert h k
  · rename_i r' h; exact find?_update h k

theorem find?_upsert_self (t : Table κ ρ key) (r : ρ) : (t.upsert r).find? (key r) = some r := by
  rw [find?_upsert, if_pos rfl]

theorem find?_upsert_of_ne (t : Table κ ρ key) {r : ρ} {k : κ} (h : key r ≠ k) :
    (t.upsert r).find? k = t.find? k := by
  rw [find?_upsert, if_neg h]

/-- The row that is found after an upsert is the new one, or was found before under another key. -/
theorem find?_upsert_eq_some {t : Table κ ρ key} {r x : ρ} {k : κ} :
    (t.upsert r).find? k = some x ↔ (key r = k ∧ x = r) ∨ (key r ≠ k ∧ t.find? k = some x) := by
  rw [find?_upsert]
  by_cases hk : key r = k
  · rw [if_pos hk]
    refine ⟨fun h => Or.inl ⟨hk, (Option.some.inj h).symm⟩, ?_⟩
    rintro (⟨-, rfl⟩ | ⟨hne, -⟩)
    · rfl
    · exact absurd hk hne
  · rw [if_neg hk]
    exact ⟨fun h => Or.inr ⟨hk, h⟩, fun h => (h.resolve_left fun h => hk h.1).2⟩

/-- The row of a key that was written last. -/
def lastOf (key : ρ → κ) (written : List ρ) (k : κ) : Option ρ :=
  written.reverse.find? fun r => decide (key r = k)

theorem lastOf_cons (r : ρ) (written : List ρ) (k : κ) :
    lastOf key (r :: written) k = (lastOf key written k).or (if key r = k then some r else none) := by
  unfold lastOf
  rw [List.reverse_cons, List.find?_append, List.find?_singleton]
  simp only [decide_eq_true_eq]

/-- No row was written under the key. -/
theorem lastOf_eq_none_iff {written : List ρ} {k : κ} :
    lastOf key written k = none ↔ ∀ r ∈ written, key r ≠ k := by
  unfold lastOf
  rw [List.find?_eq_none]
  constructor
  · intro h r hr hk
    exact h r (List.mem_reverse.mpr hr) (decide_eq_true hk)
  · intro h r hr hk
    exact h r (List.mem_reverse.mp hr) (of_decide_eq_true hk)

/-- Rows that are made of other values are looked for among these. -/
theorem lastOf_map {α : Type} (f : α → ρ) (xs : List α) (k : κ) :
    lastOf key (xs.map f) k = (lastOf (fun x => key (f x)) xs k).map f := by
  unfold lastOf
  rw [← List.map_reverse, List.find?_map]
  rfl

/-- **After any upserts**, a key answers with the row that was written last, or as before. -/
theorem find?_upserts (t : Table κ ρ key) (written : List ρ) (k : κ) :
    (written.foldl upsert t).find? k = (lastOf key written k).or (t.find? k) := by
  induction written generalizing t with
  | nil => rfl
  | cons r written ih =>
    rw [List.foldl_cons, ih, find?_upsert, lastOf_cons, Option.or_assoc]
    by_cases hk : key r = k
    · rw [if_pos hk, if_pos hk, Option.some_or]
    · rw [if_neg hk, if_neg hk, Option.none_or]

/-- A key has one row at most. -/
theorem length_rows_of_key_le (t : Table κ ρ key) (k : κ) :
    (t.rows.filter fun r => decide (key r = k)).length ≤ 1 := by
  have hcount : (t.rows.map key).count k ≤ 1 := List.nodup_iff_count_le_one.mp t.nodup k
  rw [List.count, List.countP_map, List.countP_eq_length_filter] at hcount
  refine le_of_eq_of_le (congrArg List.length (List.filter_congr fun r _ => ?_)) hcount
  show decide (key r = k) = (key r == k)
  rw [beq_eq_decide]

/-- A row of a new key goes to the end. -/
theorem rows_upsert_of_new {t : Table κ ρ key} {r : ρ} (h : ∀ x ∈ t.rows, key x ≠ key r) :
    (t.upsert r).rows = t.rows ++ [r] := by
  have hnone : t.find? (key r) = none := by
    refine find?_eq_none_iff.mpr fun hmem => ?_
    obtain ⟨x, hx, hk⟩ := List.mem_map.mp hmem
    exact h x hx hk
  unfold upsert
  split
  · rfl
  · rename_i r' hr'; rw [hnone] at hr'; cases hr'

/-- The rows after an upsert are the new row and rows that were there. -/
theorem mem_rows_upsert {t : Table κ ρ key} {r x : ρ} (h : x ∈ (t.upsert r).rows) :
    x = r ∨ x ∈ t.rows := by
  have hx := find?_of_mem h
  rw [find?_upsert] at hx
  split at hx
  · exact Or.inl (Option.some.inj hx).symm
  · exact Or.inr (mem_of_find? hx)

/-- Writing back a row that is there changes nothing at all, not even the order of the rows. -/
theorem upsert_of_find? {t : Table κ ρ key} {r : ρ} (h : t.find? (key r) = some r) :
    t.upsert r = t := by
  have hrows : (t.update r).rows = t.rows := by
    show t.rows.map _ = t.rows
    refine (List.map_congr_left fun x hx => ?_).trans t.rows.map_id
    show (if key x = key r then r else x) = x
    by_cases hk : key x = key r
    · rw [if_pos hk]
      exact (List.inj_on_of_nodup_map t.nodup hx (mem_of_find? h) hk).symm
    · rw [if_neg hk]
  have hup : t.upsert r = t.update r := by
    unfold upsert
    split
    · rename_i hn; rw [h] at hn; cases hn
    · rfl
  rw [hup]
  cases t with
  | mk rows nodup => cases hu : update ⟨rows, nodup⟩ r with
    | mk rows' nodup' =>
      rw [hu] at hrows
      cases hrows
      rfl

end Table

/-- Two lists without repeated keys, with the same keys and the same value at each key: their values
    are the same up to order. -/
theorem perm_of_keys {α β κ γ : Type} [DecidableEq κ] {k : α → κ} {k' : β → κ} {f : α → γ}
    {f' : β → γ} {l : List α} {l' : List β} (hnd : (l.map k).Nodup) (hnd' : (l'.map k').Nodup)
    (hkeys : ∀ i, i ∈ l.map k ↔ i ∈ l'.map k') (h : ∀ x ∈ l, ∀ y ∈ l', k x = k' y → f x = f' y) :
    (l.map f).Perm (l'.map f') := by
  -- the value at a key, read off the first list
  let g : κ → Option γ := fun i => (l.find? fun x => decide (k x = i)).map f
  have hg : ∀ x ∈ l, g (k x) = some (f x) := by
    intro x hx
    have hfind := Table.find?_of_mem (t := (⟨l, hnd⟩ : Table κ α k)) hx
    show ((⟨l, hnd⟩ : Table κ α k).find? (k x)).map f = some (f x)
    rw [hfind]
    rfl
  have hg' : ∀ y ∈ l', g (k' y) = some (f' y) := by
    intro y hy
    obtain ⟨x, hx, hxy⟩ := List.mem_map.mp ((hkeys _).mpr (List.mem_map_of_mem hy))
    rw [← hxy, hg x hx, h x hx y hy hxy]
  have hl : (l.map f).map some = (l.map k).map g := by
    rw [List.map_map, List.map_map]
    exact List.map_congr_left fun x hx => (hg x hx).symm
  have hl' : (l'.map f').map some = (l'.map k').map g := by
    rw [List.map_map, List.map_map]
    exact List.map_congr_left fun y hy => (hg' y hy).symm
  refine (List.map_perm_map_iff fun _ _ h => Option.some.inj h).mp ?_
  rw [hl, hl']
  exact ((List.perm_ext_iff_of_nodup hnd hnd').mpr hkeys).map g

end Keyed
