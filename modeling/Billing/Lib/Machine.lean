/-
  MACHINES and their labelled paths.

  A `Machine` is a partial transition function: `next s l` is the state after the label `l`, if `l` is
  possible in `s`.  `Path ok s ls s'` says that the labels `ls`, each admissible for `ok` in the state
  it is taken in, lead from `s` to `s'`; a path remembers its labels, so that they can be counted.

  The rules, each an induction done once:

  * `Path.invariant`  — what holds at first and is kept by every admissible label;
  * `Path.cost_le`    — each label pays its cost out of a measure, so the measure bounds the total;
  * `played_path`     — an executable player of label lists, for concrete paths.
-/
import Mathlib.Algebra.BigOperators.Group.List.Basic
import Mathlib.Algebra.GroupWithZero.Nat

namespace Atomic

/-- States, labels, and the state after a label. -/
structure Machine where
  /-- The states. -/
  State : Type
  /-- The labels. -/
  Label : Type
  /-- The state after a label (`none`: the label is not possible). -/
  next : State → Label → Option State

namespace Machine

variable {M : Machine}

/-- The labels lead from `s` to the last state, each of them admissible where it is taken. -/
inductive Path (M : Machine) (ok : M.State → M.Label → Prop) (s : M.State) :
    List M.Label → M.State → Prop where
  /-- No label. -/
  | nil : Path M ok s [] s
  /-- One more label. -/
  | snoc {ls : List M.Label} {s' s'' : M.State} {l : M.Label} (h : Path M ok s ls s') (hok : ok s' l)
      (hn : M.next s' l = some s'') : Path M ok s (ls ++ [l]) s''

/-- Every label is admissible. -/
def anyLabel : M.State → M.Label → Prop := fun _ _ => True

instance : ∀ (s : M.State) (l : M.Label), Decidable (anyLabel s l) := fun _ _ => isTrue trivial

variable {ok ok' : M.State → M.Label → Prop} {s s' s'' : M.State} {ls ls' : List M.Label}

theorem Path.mono (h : ∀ s l, ok s l → ok' s l) (H : M.Path ok s ls s') : M.Path ok' s ls s' := by
  induction H with
  | nil => exact .nil
  | snoc _ hok hn ih => exact .snoc ih (h _ _ hok) hn

theorem Path.cons {l : M.Label} (hok : ok s l) (hn : M.next s l = some s') (H : M.Path ok s' ls s'') :
    M.Path ok s (l :: ls) s'' := by
  induction H with
  | nil =>
    show M.Path ok s ([] ++ [l]) s'
    exact .snoc .nil hok hn
  | snoc _ hok' hn' ih => exact .snoc ih hok' hn'

/-- **The invariant rule.** -/
theorem Path.invariant {I : M.State → Prop} (H : M.Path ok s ls s') (h0 : I s)
    (hs : ∀ s l s', I s → ok s l → M.next s l = some s' → I s') : I s' := by
  induction H with
  | nil => exact h0
  | snoc _ hok hn ih => exact hs _ _ _ ih hok hn

/-- **The measure rule**: where an invariant holds, each label pays its cost out of the measure. -/
theorem Path.cost_le {I : M.State → Prop} {measure : M.State → Nat} {cost : M.Label → Nat}
    (H : M.Path ok s ls s') (h0 : I s) (hs : ∀ s l s', I s → ok s l → M.next s l = some s' → I s')
    (hpay : ∀ s l s', I s → ok s l → M.next s l = some s' → measure s' + cost l ≤ measure s) :
    measure s' + (ls.map cost).sum ≤ measure s := by
  induction H with
  | nil => exact Nat.le_of_eq (Nat.add_zero _)
  | @snoc ls s₁ s₂ l H hok hn ih =>
    have hI : I s₁ := H.invariant h0 hs
    have := hpay _ _ _ hI hok hn
    rw [List.map_append, List.sum_append, List.map_singleton, List.sum_singleton]
    omega

/-- Play a list of labels, checking that each is admissible. -/
def play (M : Machine) (ok : M.State → M.Label → Prop) [∀ s l, Decidable (ok s l)] (s : M.State) :
    List M.Label → Option M.State
  | [] => some s
  | l :: ls =>
    if ok s l then
      match M.next s l with
      | none => none
      | some s' => M.play ok s' ls
    else none

theorem play_path [∀ s l, Decidable (ok s l)] (h : M.play ok s ls = some s') : M.Path ok s ls s' := by
  induction ls generalizing s with
  | nil => cases h; exact .nil
  | cons l ls ih =>
    simp only [play] at h
    split at h
    · rename_i hok
      split at h
      · cases h
      · rename_i s₁ hn
        exact .cons hok hn (ih h)
    · cases h

/-- The state that a playable list of labels ends in. -/
def played (M : Machine) (ok : M.State → M.Label → Prop) [∀ s l, Decidable (ok s l)] (s : M.State)
    (ls : List M.Label) (h : (M.play ok s ls).isSome = true) : M.State := (M.play ok s ls).get h

theorem played_path [∀ s l, Decidable (ok s l)] (s : M.State) (ls : List M.Label)
    (h : (M.play ok s ls).isSome = true) : M.Path ok s ls (M.played ok s ls h) :=
  play_path (Option.some_get h).symm

end Machine

end Atomic
