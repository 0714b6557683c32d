/-
  A pipeline of passes over a dictionary: each normalises one field, or checks some.

  When is a pipeline idempotent?  A pass that is idempotent by itself may be undone by a later one, so
  a `Field` pass says which keys it writes and which keys it needs as they are, and carries the proofs
  of it.  What a pass accepted as it is stays so under any later write of a good value to a key that it
  does not need (`Field.stable`).

  **A pipeline is idempotent** (`runAll_fixed`) when no pass writes what an earlier one needs, a
  condition on the lists of keys alone.
-/
import Billing.Lib.Dict

namespace Py

namespace Passes

variable {α ε : Type}

/-- A pass over a dictionary changes it or refuses it. -/
abbrev Pass (α ε : Type) := Dict α → Except ε (Dict α)

/-- What a pass does to a dictionary: nothing, or it sets one of its keys to a good value, a key that
    is there or one that it may create. -/
inductive Written (good : α → Prop) (keys creates : List String) (d : Dict α) : Dict α → Prop where
  /-- Nothing. -/
  | same : Written good keys creates d d
  /-- A key is set. -/
  | set {key : String} {value : α} (hkey : key ∈ keys)
      (hthere : key ∈ d.map Prod.fst ∨ key ∈ creates) (hvalue : good value) :
    Written good keys creates d (d.set key value)

/-- **A pass over fields**, with what it reads, what it needs as it is, and what it writes. -/
structure Field (α ε : Type) (good : α → Prop) where
  /-- The pass. -/
  run : Pass α ε
  /-- The keys that it reads. -/
  reads : List String
  /-- Those whose values it needs as they are; any good value suits it for the others. -/
  needs : List String
  /-- The keys that it may write. -/
  writes : List String
  /-- Those that it writes even where they are not there. -/
  creates : List String
  /-- What it did it does not do again. -/
  idem : ∀ {d d'}, run d = .ok d' → run d' = .ok d'
  /-- It writes nothing else. -/
  written : ∀ {d d'}, run d = .ok d' → Written good writes creates d d'
  /-- It reads nothing else. -/
  frame : ∀ {d e : Dict α}, (∀ key ∈ reads, d.get? key = e.get? key) → run d = .ok d → run e = .ok e
  /-- What it accepted as it is, it accepts with another good value where it needs none. -/
  stable : ∀ {d : Dict α} {key value}, key ∉ needs → good value → run d = .ok d →
    run (d.set key value) = .ok (d.set key value)

namespace Field

variable {good : α → Prop}

/-- One pass after the other. -/
def runAll : List (Field α ε good) → Pass α ε
  | [], d => .ok d
  | field :: fields, d => do
    let d' ← field.run d
    runAll fields d'

theorem runAll_cons_eq_ok {field : Field α ε good} {fields : List (Field α ε good)} {d d' : Dict α} :
    runAll (field :: fields) d = .ok d' ↔ ∃ e, field.run d = .ok e ∧ runAll fields e = .ok d' := by
  rw [runAll]
  cases field.run d with
  | error e => exact ⟨fun h => (by cases h), fun ⟨_, h, _⟩ => (by cases h)⟩
  | ok e => exact ⟨fun h => ⟨e, rfl, h⟩, fun ⟨_, h, hrest⟩ => Except.ok.inj h ▸ hrest⟩

theorem runAll_append_eq_ok {fields fields' : List (Field α ε good)} {d d' : Dict α} :
    runAll (fields ++ fields') d = .ok d' ↔ ∃ e, runAll fields d = .ok e ∧ runAll fields' e = .ok d' := by
  induction fields generalizing d with
  | nil => exact ⟨fun h => ⟨d, rfl, h⟩, fun ⟨_, h, hrest⟩ => Except.ok.inj h ▸ hrest⟩
  | cons field fields ih =>
    rw [List.cons_append, runAll_cons_eq_ok]
    simp only [ih, runAll_cons_eq_ok]
    constructor
    · rintro ⟨e, hfield, f, hfields, hrest⟩
      exact ⟨f, ⟨e, hfield, hfields⟩, hrest⟩
    · rintro ⟨f, ⟨e, hfield, hfields⟩, hrest⟩
      exact ⟨e, hfield, f, hfields, hrest⟩

/-- No field writes what an earlier one needs. -/
def Ordered (fields : List (Field α ε good)) : Prop :=
  fields.Pairwise fun p q => ∀ key ∈ q.writes, key ∉ p.needs

/-- What a list of passes preserves, when each does. -/
theorem runAll_induction {motive : Dict α → Dict α → Prop} (refl : ∀ d, motive d d)
    (trans : ∀ {d e f}, motive d e → motive e f → motive d f) {fields : List (Field α ε good)}
    (step : ∀ field ∈ fields, ∀ {d d'}, field.run d = .ok d' → motive d d') {d d' : Dict α}
    (h : runAll fields d = .ok d') : motive d d' := by
  induction fields generalizing d with
  | nil =>
    obtain rfl := Except.ok.inj h
    exact refl d
  | cons field fields ih =>
    obtain ⟨e, hfield, hrest⟩ := runAll_cons_eq_ok.mp h
    exact trans (step field List.mem_cons_self hfield)
      (ih (fun field hmem => step field (List.mem_cons_of_mem _ hmem)) hrest)

/-- A field stays accepted when nobody writes what it needs. -/
theorem fixed_runAll {p : Field α ε good} {fields : List (Field α ε good)}
    (hneeds : ∀ q ∈ fields, ∀ key ∈ q.writes, key ∉ p.needs) {d d' : Dict α}
    (h : runAll fields d = .ok d') (hfixed : p.run d = .ok d) : p.run d' = .ok d' := by
  refine runAll_induction (motive := fun d d' => p.run d = .ok d → p.run d' = .ok d')
    (fun _ => id) (fun hde hef hd => hef (hde hd)) ?_ h hfixed
  intro q hq d d' hrun hd
  cases q.written hrun with
  | same => exact hd
  | set hkey _ hvalue => exact p.stable (hneeds q hq _ hkey) hvalue hd

/-- **A pipeline is idempotent** when no field writes what an earlier one needs: in the end every
    single pass has nothing left to do. -/
theorem runAll_fixed {fields : List (Field α ε good)} (hordered : Ordered fields) {d d' : Dict α}
    (h : runAll fields d = .ok d') : ∀ field ∈ fields, field.run d' = .ok d' := by
  induction fields generalizing d with
  | nil => exact fun field hmem => absurd hmem List.not_mem_nil
  | cons p fields ih =>
    obtain ⟨hfirst, hrest⟩ := List.pairwise_cons.mp hordered
    obtain ⟨e, hp, hfields⟩ := runAll_cons_eq_ok.mp h
    intro field hmem
    rcases List.mem_cons.mp hmem with rfl | hmem
    · exact fixed_runAll hfirst hfields (field.idem hp)
    · exact ih hrest hfields field hmem

/-- What every pass accepts as it is, all of them do. -/
theorem runAll_of_fixed {fields : List (Field α ε good)} {d : Dict α}
    (h : ∀ field ∈ fields, field.run d = .ok d) : runAll fields d = .ok d := by
  induction fields with
  | nil => rfl
  | cons field fields ih =>
    have hrest := ih fun field hmem => h field (List.mem_cons_of_mem _ hmem)
    exact runAll_cons_eq_ok.mpr ⟨d, h field List.mem_cons_self, hrest⟩

/-! ## What a pipeline leaves alone -/

variable {fields : List (Field α ε good)} {d d' : Dict α}

/-- The keys stay, where none is created. -/
theorem keys_runAll (hcreates : ∀ field ∈ fields, field.creates = [])
    (h : runAll fields d = .ok d') : d'.map Prod.fst = d.map Prod.fst := by
  refine runAll_induction (motive := fun d d' => d'.map Prod.fst = d.map Prod.fst)
    (fun _ => rfl) (fun hde hef => hef.trans hde) ?_ h
  intro field hmem d d' hrun
  cases field.written hrun with
  | same => rfl
  | set _ hthere _ =>
    rw [hcreates field hmem] at hthere
    exact Dict.keys_set_of_mem (hthere.resolve_right List.not_mem_nil)

/-- A value that nobody writes stays. -/
theorem get?_runAll {key : String} (hkey : ∀ field ∈ fields, key ∉ field.writes)
    (h : runAll fields d = .ok d') : d'.get? key = d.get? key := by
  refine runAll_induction (motive := fun d d' => d'.get? key = d.get? key)
    (fun _ => rfl) (fun hde hef => hef.trans hde) ?_ h
  intro field hmem d d' hrun
  cases field.written hrun with
  | same => rfl
  | set hwrites _ _ =>
    have hne : ∀ {other}, other ∈ field.writes → other ≠ key := by
      rintro other hother rfl
      exact hkey field hmem hother
    rw [Dict.get?_set, if_neg (hne hwrites)]

/-- **The one pass that writes a key**: it finds the value that there was, and what it leaves stays. -/
theorem exists_run_at {n : Nat} {p : Field α ε good} {key : String} (hp : fields[n]? = some p)
    (hothers : ∀ q ∈ fields.eraseIdx n, key ∉ q.writes) (h : runAll fields d = .ok d') :
    ∃ e e', p.run e = .ok e' ∧ e.get? key = d.get? key ∧ d'.get? key = e'.get? key := by
  induction fields generalizing n d with
  | nil => cases hp
  | cons q fields ih =>
    obtain ⟨e, hq, hrest⟩ := runAll_cons_eq_ok.mp h
    cases n with
    | zero =>
      obtain rfl : q = p := Option.some.inj hp
      exact ⟨d, e, hq, rfl, get?_runAll hothers hrest⟩
    | succ n =>
      have hkeeps : e.get? key = d.get? key := by
        have hone : runAll [q] d = .ok e := runAll_cons_eq_ok.mpr ⟨e, hq, rfl⟩
        refine get?_runAll (fun field hmem => ?_) hone
        rw [List.mem_singleton.mp hmem]
        exact hothers q List.mem_cons_self
      obtain ⟨e₁, e₂, hrun, hget, hstays⟩ :=
        ih hp (fun field hmem => hothers field (List.mem_cons_of_mem _ hmem)) hrest
      exact ⟨e₁, e₂, hrun, hget.trans hkeeps, hstays⟩

/-- What is true of the good values and was true of all, is true of all. -/
theorem forall_runAll {P : α → Prop} (hgood : ∀ value, good value → P value)
    (hd : ∀ kv ∈ d, P kv.2) (h : runAll fields d = .ok d') : ∀ kv ∈ d', P kv.2 := by
  refine runAll_induction
    (motive := fun d d' => (∀ kv ∈ d, P kv.2) → ∀ kv ∈ d', P kv.2)
    (fun _ => id) (fun hde hef hd => hef (hde hd)) ?_ h hd
  intro field _ d d' hrun hd kv hkv
  cases field.written hrun with
  | same => exact hd kv hkv
  | set _ _ hvalue =>
    rcases Dict.mem_set hkv with hmem | rfl
    · exact hd kv hmem
    · exact hgood _ hvalue

/-! ## Making fields -/

/-- A check that reads nothing else is not disturbed by a write to something else. -/
theorem stable_of_frame {check : Dict α → Except ε Unit} {reads : List String}
    (frame : ∀ {d e : Dict α}, (∀ key ∈ reads, d.get? key = e.get? key) → check d = .ok () →
      check e = .ok ())
    {key : String} {value : α} (hkey : key ∉ reads) (h : check d = .ok ()) :
    check (d.set key value) = .ok () := by
  refine frame (fun other hother => ?_) h
  have hne : key ≠ other := fun heq => hkey (heq ▸ hother)
  rw [Dict.get?_set, if_neg hne]

/-- A pass over one key. -/
def keyPass (key : String) (value : Option α → Except ε (Option α)) : Pass α ε := fun d =>
  match value (d.get? key) with
  | .error e => .error e
  | .ok none => .ok d
  | .ok (some new) => .ok (d.set key new)

theorem keyPass_eq_ok {key : String} {value : Option α → Except ε (Option α)} :
    keyPass key value d = .ok d' ↔ (value (d.get? key) = .ok none ∧ d' = d) ∨
      ∃ new, value (d.get? key) = .ok (some new) ∧ d' = d.set key new := by
  unfold keyPass
  cases value (d.get? key) with
  | error e => simp
  | ok new =>
    cases new with
    | none => simp [eq_comm]
    | some new => simp [eq_comm]

/-- A pass over one key leaves a dictionary when `value` leaves what the key has. -/
theorem keyPass_fixed_iff {key : String} {value : Option α → Except ε (Option α)} :
    keyPass key value d = .ok d ↔ value (d.get? key) = .ok none ∨
      ∃ new, d.get? key = some new ∧ value (d.get? key) = .ok (some new) := by
  rw [keyPass_eq_ok]
  constructor
  · rintro (⟨hnone, -⟩ | ⟨new, hnew, hset⟩)
    · exact Or.inl hnone
    · have hget := Dict.get?_set d key key new
      rw [← hset, if_pos rfl] at hget
      exact Or.inr ⟨new, hget, hnew⟩
  · rintro (hnone | ⟨new, hget, hnew⟩)
    · exact Or.inl ⟨hnone, rfl⟩
    · exact Or.inr ⟨new, hnew, (Dict.set_eq_self hget).symm⟩

/-- **A field of one key**: `value` says what to do with what the key has, where `none` leaves it. -/
def ofKey (run : Pass α ε) (key : String) (creates : List String)
    (value : Option α → Except ε (Option α))
    (hrun : ∀ {d d'}, run d = .ok d' ↔ keyPass key value d = .ok d')
    (hgood : ∀ {old new}, value old = .ok (some new) → good new ∧ value (some new) = .ok (some new))
    (hthere : ∀ {new}, value none = .ok (some new) → key ∈ creates) : Field α ε good where
  run := run
  reads := [key]
  needs := [key]
  writes := [key]
  creates := creates
  idem := by
    intro d d' h
    rw [hrun] at h ⊢
    obtain ⟨hnone, rfl⟩ | ⟨new, hnew, rfl⟩ := keyPass_eq_ok.mp h
    · exact h
    · have hget : (d.set key new).get? key = some new := by rw [Dict.get?_set, if_pos rfl]
      refine keyPass_fixed_iff.mpr (Or.inr ⟨new, hget, ?_⟩)
      rw [hget, (hgood hnew).2]
  written := by
    intro d d' h
    rw [hrun] at h
    obtain ⟨-, rfl⟩ | ⟨new, hnew, rfl⟩ := keyPass_eq_ok.mp h
    · exact .same
    · refine .set (List.mem_singleton_self key) ?_ (hgood hnew).1
      cases hget : d.get? key with
      | none =>
        rw [hget] at hnew
        exact Or.inr (hthere hnew)
      | some old => exact Or.inl (Dict.mem_keys_iff.mpr (by rw [hget]; rfl))
  frame := by
    intro d e hagree h
    rw [hrun, keyPass_fixed_iff] at h ⊢
    rwa [← hagree key (List.mem_singleton_self key)]
  stable := by
    intro d other value' hother _ h
    have hne : other ≠ key := fun heq => hother (heq ▸ List.mem_singleton_self other)
    rw [hrun, keyPass_fixed_iff] at h ⊢
    rwa [Dict.get?_set, if_neg hne]

/-- A pass that only checks. -/
def checkPass (check : Dict α → Except ε Unit) : Pass α ε := fun d => do
  check d
  return d

theorem checkPass_eq_ok {check : Dict α → Except ε Unit} :
    checkPass check d = .ok d' ↔ check d = .ok () ∧ d' = d := by
  unfold checkPass
  cases check d with
  | error e => exact ⟨fun h => (by cases h), fun h => (by cases h.1)⟩
  | ok u => exact ⟨fun h => ⟨rfl, (Except.ok.inj h).symm⟩, fun h => congrArg _ h.2.symm⟩

/-- **A check**, which writes nothing. -/
def ofCheck (check : Dict α → Except ε Unit) (reads needs : List String)
    (hframe : ∀ {d e : Dict α}, (∀ key ∈ reads, d.get? key = e.get? key) → check d = .ok () →
      check e = .ok ())
    (hstable : ∀ {d : Dict α} {key value}, key ∉ needs → good value → check d = .ok () →
      check (d.set key value) = .ok ()) : Field α ε good where
  run := checkPass check
  reads := reads
  needs := needs
  writes := []
  creates := []
  idem := by
    intro d d' h
    obtain ⟨hcheck, rfl⟩ := checkPass_eq_ok.mp h
    exact h
  written := by
    intro d d' h
    obtain ⟨-, rfl⟩ := checkPass_eq_ok.mp h
    exact .same
  frame := by
    intro d e hagree h
    exact checkPass_eq_ok.mpr ⟨hframe hagree (checkPass_eq_ok.mp h).1, rfl⟩
  stable := by
    intro d key value hkey hvalue h
    exact checkPass_eq_ok.mpr ⟨hstable hkey hvalue (checkPass_eq_ok.mp h).1, rfl⟩

end Field

end Passes

end Py
