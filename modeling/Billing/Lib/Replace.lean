/-
  `str.replace`: every occurrence of a text, from left to right and without overlaps, for another.

  A replacement is read by its two equations, `replaceAll_append_old` where the text stands and
  `replaceAll_cons` where it does not, and proved about by `replace_induction`, which goes through a
  list by the same two cases.

  **What a replacement changes** is counted, not described: `replaceAll_count` says how the number of
  any letter changes, so a replacement that gains or loses a letter each time cannot be undone by
  another one that leaves that letter alone.
-/
import Mathlib.Data.List.Infix

namespace Py

variable {α : Type} [DecidableEq α]

/-- Replace from here on; the next `skip` letters belong to an occurrence that was replaced. -/
def replaceGo (old new : List α) : Nat → List α → List α
  | _, [] => []
  | skip + 1, _ :: s => replaceGo old new skip s
  | 0, c :: s =>
    if old <+: c :: s then new ++ replaceGo old new (old.length - 1) s
    else c :: replaceGo old new 0 s

/-- `s.replace(old, new)`, for an `old` that is not empty. -/
def replaceAll (old new s : List α) : List α := replaceGo old new 0 s

/-- `s.replace(old, new, 1)`, for an `old` that is not empty. -/
def replaceFirst (old new : List α) : List α → List α
  | [] => []
  | c :: s => if old <+: c :: s then new ++ (c :: s).drop old.length else c :: replaceFirst old new s

example : replaceAll [1, 1] [2] [1, 1, 1, 3, 1, 1] = [2, 1, 3, 2] := by decide

/-! ## The two cases -/

theorem replaceGo_drop (old new : List α) (skip : Nat) (s : List α) :
    replaceGo old new skip s = replaceAll old new (s.drop skip) := by
  induction s generalizing skip with
  | nil => cases skip <;> rfl
  | cons c s ih =>
    cases skip with
    | zero => rfl
    | succ skip => exact ih skip

/-- Where the text stands, it is replaced. -/
theorem replaceAll_append_old {old new : List α} (hold : old ≠ []) (s : List α) :
    replaceAll old new (old ++ s) = new ++ replaceAll old new s := by
  obtain ⟨c, rest, rfl⟩ := List.exists_cons_of_ne_nil hold
  have hstarts : c :: rest <+: c :: (rest ++ s) := List.prefix_append _ _
  show (if c :: rest <+: c :: (rest ++ s) then new ++ replaceGo _ new rest.length (rest ++ s)
    else _) = _
  rw [if_pos hstarts, replaceGo_drop, List.drop_left]

/-- Where it does not, the next letter stays. -/
theorem replaceAll_cons {old new : List α} {c : α} {s : List α} (h : ¬ old <+: c :: s) :
    replaceAll old new (c :: s) = c :: replaceAll old new s := by
  show (if old <+: c :: s then _ else _) = _
  rw [if_neg h]
  rfl

/-- **Induction along a replacement.** -/
theorem replace_induction {old : List α} (hold : old ≠ []) {P : List α → Prop} (nil : P [])
    (hit : ∀ s, P s → P (old ++ s)) (miss : ∀ c s, ¬ old <+: c :: s → P s → P (c :: s)) :
    ∀ s, P s := by
  intro s
  induction hn : s.length using Nat.strongRecOn generalizing s with
  | ind n ih =>
    cases s with
    | nil => exact nil
    | cons c s =>
      by_cases hstarts : old <+: c :: s
      · obtain ⟨t, ht⟩ := hstarts
        have hpos : 0 < old.length := List.length_pos_iff.mpr hold
        have hlen : t.length < n := by
          rw [← hn, ← ht, List.length_append]
          omega
        rw [← ht]
        exact hit t (ih _ hlen t rfl)
      · refine miss c s hstarts (ih _ ?_ s rfl)
        rw [← hn, List.length_cons]
        omega

/-! ## Where nothing is replaced -/

/-- A text that does not occur is not replaced. -/
theorem replaceAll_eq_self {old new s : List α} (hold : old ≠ []) (h : ¬ old <:+: s) :
    replaceAll old new s = s := by
  induction s using replace_induction hold with
  | nil => rfl
  | hit s ih => exact absurd List.infix_append_left h
  | miss c s hstarts ih =>
    rw [replaceAll_cons hstarts, ih fun hs => h (List.infix_cons hs)]

/-- No occurrence of `old` begins in `head`, whatever follows. -/
def Foreign (old head : List α) : Prop :=
  ∀ u ∈ head.tails, u ≠ [] → ¬ u <+: old ∧ ¬ old <+: u

instance (old head : List α) : Decidable (Foreign old head) :=
  inferInstanceAs (Decidable (∀ u ∈ head.tails, u ≠ [] → ¬ u <+: old ∧ ¬ old <+: u))

/-- A beginning that is foreign to the text stays. -/
theorem replaceAll_append {old new head : List α} (h : Foreign old head) (s : List α) :
    replaceAll old new (head ++ s) = head ++ replaceAll old new s := by
  induction head with
  | nil => rfl
  | cons c head ih =>
    have hclash := h (c :: head) ((List.mem_tails _ _).mpr List.suffix_rfl) (List.cons_ne_nil _ _)
    have hnot : ¬ old <+: c :: (head ++ s) := by
      intro hold
      have hhead : c :: head <+: c :: (head ++ s) := List.prefix_append _ _
      rcases List.prefix_or_prefix_of_prefix hold hhead with hp | hp
      · exact hclash.2 hp
      · exact hclash.1 hp
    have hrest : Foreign old head := by
      intro u hu hne
      exact h u ((List.mem_tails _ _).mpr (((List.mem_tails _ _).mp hu).trans (List.suffix_cons c head))) hne
    show replaceAll old new (c :: (head ++ s)) = _
    rw [replaceAll_cons hnot, ih hrest, List.cons_append]

/-- A text that the list begins with is the first occurrence. -/
theorem replaceFirst_append {old new : List α} (hold : old ≠ []) (s : List α) :
    replaceFirst old new (old ++ s) = new ++ s := by
  obtain ⟨c, rest, rfl⟩ := List.exists_cons_of_ne_nil hold
  have hstarts : c :: rest <+: c :: (rest ++ s) := List.prefix_append _ _
  show (if c :: rest <+: c :: (rest ++ s) then new ++ (c :: rest ++ s).drop (c :: rest).length
    else _) = _
  rw [if_pos hstarts, List.drop_left]

/-! ## What a replacement changes -/

/-- **Counting**: after `k` replacements there are `k` times the letters of `new` more, and `k` times
    those of `old` less; something is replaced exactly when `old` occurs. -/
theorem replaceAll_count {old : List α} (hold : old ≠ []) (new s : List α) :
    ∃ k, (0 < k ↔ old <:+: s) ∧ ∀ a,
      (replaceAll old new s).count a + k * old.count a = s.count a + k * new.count a := by
  induction s using replace_induction hold with
  | nil =>
    refine ⟨0, ⟨fun h => (by omega), fun h => absurd (List.infix_nil.mp h) hold⟩, fun a => ?_⟩
    show List.count a (replaceAll old new []) + 0 * _ = List.count a [] + 0 * _
    rw [Nat.zero_mul, Nat.zero_mul]
    rfl
  | hit s ih =>
    obtain ⟨k, -, hcount⟩ := ih
    refine ⟨k + 1, ⟨fun _ => List.infix_append_left, fun _ => Nat.succ_pos k⟩, fun a => ?_⟩
    have := hcount a
    rw [replaceAll_append_old hold, List.count_append, List.count_append, Nat.succ_mul, Nat.succ_mul]
    omega
  | miss c s hstarts ih =>
    obtain ⟨k, hk, hcount⟩ := ih
    refine ⟨k, hk.trans ?_, fun a => ?_⟩
    · rw [List.infix_cons_iff]
      exact ⟨Or.inr, fun h => h.resolve_left hstarts⟩
    · have := hcount a
      rw [replaceAll_cons hstarts, List.count_cons, List.count_cons]
      omega

/-- A replacement that takes the letter `a` away leaves fewer of them, if there is anything to
    replace. -/
theorem count_replaceAll_lt {old s : List α} (hold : old ≠ []) (new : List α) (a : α)
    (h : new.count a < old.count a) (hs : old <:+: s) :
    (replaceAll old new s).count a < s.count a := by
  obtain ⟨k, hk, hcount⟩ := replaceAll_count hold new s
  have hmul : k * new.count a < k * old.count a := Nat.mul_lt_mul_of_pos_left h (hk.mpr hs)
  have := hcount a
  omega

/-- A replacement that brings the letter `a` leaves more of them, if there is anything to replace. -/
theorem lt_count_replaceAll {old s : List α} (hold : old ≠ []) (new : List α) (a : α)
    (h : old.count a < new.count a) (hs : old <:+: s) :
    s.count a < (replaceAll old new s).count a := by
  obtain ⟨k, hk, hcount⟩ := replaceAll_count hold new s
  have hmul : k * old.count a < k * new.count a := Nat.mul_lt_mul_of_pos_left h (hk.mpr hs)
  have := hcount a
  omega

/-- A replacement that brings no letter `a` leaves no more of them. -/
theorem count_replaceAll_le {old : List α} (hold : old ≠ []) (new : List α) (a : α)
    (h : new.count a ≤ old.count a) (s : List α) :
    (replaceAll old new s).count a ≤ s.count a := by
  obtain ⟨k, -, hcount⟩ := replaceAll_count hold new s
  have hmul : k * new.count a ≤ k * old.count a := Nat.mul_le_mul_left k h
  have := hcount a
  omega

/-- A letter that is in neither text is left alone. -/
theorem mem_replaceAll_iff {old new : List α} (hold : old ≠ []) {a : α} (ha : a ∉ old) (ha' : a ∉ new)
    (s : List α) : a ∈ replaceAll old new s ↔ a ∈ s := by
  obtain ⟨k, -, hcount⟩ := replaceAll_count hold new s
  have hcount := hcount a
  rw [List.count_eq_zero.mpr ha, List.count_eq_zero.mpr ha', Nat.mul_zero, Nat.add_zero,
    Nat.add_zero] at hcount
  rw [← List.count_pos_iff, ← List.count_pos_iff, hcount]

end Py
