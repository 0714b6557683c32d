/-
  REPLAYING AN EVENT LOG.

  A log records what happened to many entities.  `reads e` says which entity the event `e` is about,
  if any, and what it says of it; the JOURNAL of an entity is what the log says of it.  A partial
  automaton `after` runs over a journal: `replay` is where the entity stands, as far as the log alone
  tells, or `none` if the journal makes no sense.

  * `journal_append`, `journal_other` — an event goes to the journal of its own entity and no other;
  * `replay_concat`                   — one more entry is one more step;
  * `replay_invariant`                — what each step keeps of the entries so far, holds of a journal;
  * `replay_mem`                      — the journals that lead to a state are words of a language, if
                                        every step leads from the words of a state to words of the next.
-/
import Mathlib.Computability.RegularExpressions

namespace Replay

variable {E κ A B S : Type} [DecidableEq κ]

/-! ## Journals -/

/-- What the event says of the entity `k`. -/
def said (reads : E → Option (κ × A)) (k : κ) (e : E) : Option A :=
  match reads e with
  | some (k', a) => if k' = k then some a else none
  | none => none

/-- What the log says of the entity `k`. -/
def journal (reads : E → Option (κ × A)) (log : List E) (k : κ) : List A :=
  log.filterMap (said reads k)

variable {reads : E → Option (κ × A)} {log : List E} {k : κ} {e : E} {a : A}

@[simp] theorem journal_nil : journal reads [] k = [] := rfl

theorem journal_append (log log' : List E) :
    journal reads (log ++ log') k = journal reads log k ++ journal reads log' k :=
  List.filterMap_append

theorem journal_own (h : reads e = some (k, a)) : journal reads (log ++ [e]) k =
    journal reads log k ++ [a] := by
  have hsaid : said reads k e = some a := by rw [said, h]; exact if_pos rfl
  rw [journal_append, journal, journal, List.filterMap_cons, hsaid, List.filterMap_nil]

theorem journal_other {k' : κ} (h : reads e = some (k', a)) (hne : k' ≠ k) :
    journal reads (log ++ [e]) k = journal reads log k := by
  have hsaid : said reads k e = none := by rw [said, h]; exact if_neg hne
  rw [journal_append, journal, journal, List.filterMap_cons, hsaid, List.filterMap_nil,
    List.append_nil]

/-! ## Replays -/

variable {after : S → A → Option S} {s₀ s s' : S} {word : List A}

/-- Where the entries of `word` lead from `s₀`. -/
def replay (after : S → A → Option S) (s₀ : S) (word : List A) : Option S := word.foldlM after s₀

@[simp] theorem replay_nil : replay after s₀ [] = some s₀ := rfl

theorem replay_concat_eq_some :
    replay after s₀ (word ++ [a]) = some s' ↔ ∃ s, replay after s₀ word = some s ∧ after s a = some s' := by
  unfold replay
  rw [List.foldlM_append]
  have hlast : ∀ s, List.foldlM after s [a] = after s a := fun s => by
    rw [List.foldlM_cons]
    exact bind_pure _
  constructor
  · intro h
    obtain ⟨s, hs, ha⟩ := Option.bind_eq_some_iff.mp h
    exact ⟨s, hs, (hlast s).symm.trans ha⟩
  · rintro ⟨s, hs, ha⟩
    exact Option.bind_eq_some_iff.mpr ⟨s, hs, (hlast s).trans ha⟩

theorem replay_concat (h : replay after s₀ word = some s) (ha : after s a = some s') :
    replay after s₀ (word ++ [a]) = some s' := replay_concat_eq_some.mpr ⟨s, h, ha⟩

/-- **The invariant rule of replays.** -/
theorem replay_invariant {I : List A → S → Prop} (h0 : I [] s₀)
    (hstep : ∀ word s a s', I word s → after s a = some s' → I (word ++ [a]) s')
    (h : replay after s₀ word = some s) : I word s := by
  induction word using List.reverseRecOn generalizing s with
  | nil => cases h; exact h0
  | append_singleton word a ih =>
    obtain ⟨s', hs', ha⟩ := replay_concat_eq_some.mp h
    exact hstep word s' a s (ih hs') ha

/-- **The language of a replay.** -/
theorem replay_mem {L : S → Language B} {f : A → B} (h0 : [] ∈ L s₀)
    (hstep : ∀ s a s', after s a = some s' → ∀ w ∈ L s, w ++ [f a] ∈ L s')
    (h : replay after s₀ word = some s) : word.map f ∈ L s := by
  refine replay_invariant (I := fun word s => word.map f ∈ L s) h0 ?_ h
  intro word s a s' hw ha
  rw [List.map_append]
  exact hstep s a s' ha _ hw

end Replay
