/-
  Lists in the settings: `prepare_env.py` writes them one way, and the service reads them in two.

  `normalizeListField` at deploy time and `parseCsvOrJsonList` at run time are maintained apart.
  `normalizeListField_eq_ok` says the first in terms of the second: a field is accepted exactly when
  the service reads a list with something in it, and what is written is that list as JSON.  With
  `parseCsvOrJsonList_dumps`, which reads it back, everything else follows.
-/
import Billing.Deploy.PrepareEnv
import Billing.Infrastructure.Settings

namespace Billing

open Py

variable [Python]

/-- A list as `prepare_env.py` writes it. -/
def listText (items : List String) : String := Json.dumps (.list (items.map .str))

omit [Python] in
theorem listText_toList (items : List String) :
    (listText items).toList = '[' :: (Json.dumpItems (items.map .str) ++ [']']) := by
  rw [listText, Json.dumps, String.toList_ofList, Json.dumpChars]

omit [Python] in
/-- Brackets are no white space. -/
theorem strip_listText (items : List String) : strip (listText items) = listText items := by
  rw [strip, listText_toList, stripChars_enclosed (by decide) (by decide), ← listText_toList,
    String.ofList_toList]

omit [Python] in
theorem listText_ne_empty (items : List String) : listText items ≠ "" := by
  intro hblank
  have htext := listText_toList items
  rw [hblank] at htext
  cases htext

theorem parseCsvOrJsonList_strip (value : String) :
    parseCsvOrJsonList (.inl (strip value)) = parseCsvOrJsonList (.inl value) := by
  simp only [parseCsvOrJsonList, strip_strip]

/-- What was read is stripped, and none of it is blank. -/
theorem parseCsvOrJsonList_stripped {value : String} {items : List String}
    (h : parseCsvOrJsonList (.inl value) = .ok items) : stripAll items = items := by
  unfold parseCsvOrJsonList at h
  simp only at h
  split at h
  · obtain rfl := Except.ok.inj h
    rfl
  split at h
  · split at h
    · cases h
    · obtain rfl := Except.ok.inj h
      exact stripAll_stripAll _
    · cases h
  · obtain rfl := Except.ok.inj h
    exact stripAll_stripAll _

/-- **A list that was written is read back.** -/
theorem parseCsvOrJsonList_listText (items : List String) :
    parseCsvOrJsonList (.inl (listText items)) = .ok (stripAll items) := by
  have hhead : (listText items).toList.head? = some '[' := by rw [listText_toList]; rfl
  have htextual : (Json.list (items.map .str)).Textual := by
    refine .list _ fun x hx => ?_
    obtain ⟨s, -, rfl⟩ := List.mem_map.mp hx
    exact .str s
  have hread : Json.loads (listText items) = some (.list (items.map .str)) := Json.loads_dumps htextual
  have htexts : (items.map Json.str).map Json.text = items := by
    rw [List.map_map]
    exact List.map_id items
  simp only [parseCsvOrJsonList, strip_listText, if_neg (listText_ne_empty items), if_pos hhead, hread,
    htexts]

/-- **The one in terms of the other**: a field is accepted exactly when the service reads a list with
    something in it, and that list is what is written. -/
theorem normalizeListField_eq_ok {values values' : Dict String} {key : String} :
    normalizeListField values key = .ok values' ↔ ∃ items,
      parseCsvOrJsonList (.inl (strippedValue values key)) = .ok items ∧
      items ≠ [] ∧ values' = values.set key (listText items) := by
  have hstrip : strip (strippedValue values key) = strippedValue values key := strip_strip _
  -- where a list was found, and where none was
  have hfound : ∀ found : List String, (if found = [] then
      (.error (.valueError (key ++ " must contain at least one value.")) : Except Exc (Dict String))
      else .ok (values.set key (listText found))) = .ok values' ↔
      ∃ items, Except.ok found = (Except.ok items : Except Exc (List String)) ∧
        items ≠ [] ∧ values' = values.set key (listText items) := by
    intro found
    constructor
    · intro h
      by_cases hitems : found = []
      · rw [if_pos hitems] at h
        cases h
      · rw [if_neg hitems] at h
        exact ⟨found, rfl, hitems, (Except.ok.inj h).symm⟩
    · rintro ⟨items, hitems, hne, rfl⟩
      obtain rfl := Except.ok.inj hitems
      rw [if_neg hne]
  have hnone : ∀ e e' : Exc, (Except.error e : Except Exc (Dict String)) = .ok values' ↔
      ∃ items : List String, Except.error e' = Except.ok items ∧
        items ≠ [] ∧ values' = values.set key (listText items) := by
    intro e e'
    constructor
    · intro h
      cases h
    · rintro ⟨items, hitems, -⟩
      cases hitems
  unfold normalizeListField requireNonEmpty parseCsvOrJsonList
  simp only [hstrip]
  by_cases hblank : strippedValue values key = ""
  · simp only [if_pos hblank, ← hfound, if_true]
    exact ⟨fun h => (by cases h), fun h => (by cases h)⟩
  simp only [if_neg hblank, ok_bind]
  by_cases hjson : (strippedValue values key).toList.head? = some '['
  · simp only [if_pos hjson]
    cases Json.loads (strippedValue values key) with
    | none => exact hnone _ _
    | some parsed =>
      cases parsed with
      | list xs => exact hfound _
      | _ => exact hnone _ _
  · simp only [if_neg hjson, pure_bind]
    exact hfound _

/-- **List normalisation keeps the meaning.**  Whatever is accepted was and is read as one list, of
    texts that are stripped and not blank, and is written the same way again; what is rejected is read
    as no list with anything in it. -/
theorem list_normalisation_agrees (values : Dict String) (key v : String) :
    match normalizeListField (values.set key v) key with
    | .ok values' => ∃ w items, values' = (values.set key v).set key w ∧
        parseCsvOrJsonList (.inl v) = .ok items ∧ parseCsvOrJsonList (.inl w) = .ok items ∧
        items ≠ [] ∧ (∀ item ∈ items, strip item = item ∧ item ≠ "") ∧
        normalizeListField values' key = .ok values'
    | .error _ => ∀ items, parseCsvOrJsonList (.inl v) = .ok items → items = [] := by
  have hread : ∀ (values : Dict String) (v : String),
      parseCsvOrJsonList (.inl (strippedValue (values.set key v) key)) = parseCsvOrJsonList (.inl v) := by
    intro values v
    rw [strippedValue, Dict.get?_set, if_pos rfl, Option.getD_some, parseCsvOrJsonList_strip]
  have hspec : ∀ values', normalizeListField (values.set key v) key = .ok values' ↔ _ :=
    fun values' => normalizeListField_eq_ok
  cases hnorm : normalizeListField (values.set key v) key with
  | error e =>
    show ∀ items, parseCsvOrJsonList (.inl v) = .ok items → items = []
    intro items hitems
    by_contra hne
    have hok := (hspec _).mpr ⟨items, (hread values v).trans hitems, hne, rfl⟩
    rw [hnorm] at hok
    cases hok
  | ok values' =>
    show ∃ w items, _
    obtain ⟨items, hitems, hne, hvalues'⟩ := (hspec _).mp hnorm
    rw [hread] at hitems
    have hstripped : stripAll items = items := parseCsvOrJsonList_stripped hitems
    have hback : parseCsvOrJsonList (.inl (listText items)) = .ok items := by
      rw [parseCsvOrJsonList_listText, hstripped]
    refine ⟨listText items, items, hvalues', hitems, hback, hne, ?_, ?_⟩
    · intro item hitem
      exact mem_stripAll (hstripped.symm ▸ hitem)
    · refine normalizeListField_eq_ok.mpr ⟨items, ?_, hne, ?_⟩
      · rw [hvalues', hread, hback]
      · rw [hvalues', Dict.set_set, Dict.set_set]

end Billing
