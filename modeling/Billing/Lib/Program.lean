/-
  Programs of ATOMIC STEPS.

  A service request is a piece of straight-line code that, every now and then, asks the outside
  world for one indivisible step (a database statement, a network call) and goes on with the
  answer, or with the exception the step raised.  `Program σ ε α` is that shape: a tree whose
  nodes are the steps of a signature `σ`, whose branches are the possible responses, and whose
  leaves return an `α` or raise an `ε`.

  Nothing here says what a step DOES: a meaning is given later, by a `System` (`Billing.Lib.Pool`),
  so the same program can be run alone, interleaved with others, or over another store.

  What can be said of a program without a meaning is a property of every point it can get to,
  whatever the responses were.  `Program.Always P Q` is the logic for that: `P h o` holds at every
  point where the steps `h` have been done and `o` is asked for next, and `Q h r` at every end.
  Its rules follow the structure of the program (`always_bind`, `always_perform_bind`, `always_embed`).
  `Only P` is the part of it that does not look at what was done before, and `Relies A G` is the
  assume–guarantee form: the steps asked for satisfy `G` as long as the answers satisfy `A`.
-/
import Mathlib.Logic.Basic

namespace Atomic

/-! ## Signatures and programs -/

/-- A signature: the atomic steps that may be asked for, and the type each one answers with. -/
structure Sig where
  /-- The steps. -/
  Op : Type
  /-- What a step answers when it does not raise. -/
  Res : Op → Type

/-- A program over the steps of `σ`, raising exceptions of type `ε`, returning an `α`. -/
inductive Program (σ : Sig) (ε α : Type) where
  /-- Return a value. -/
  | ret (a : α)
  /-- Raise an exception. -/
  | raise (e : ε)
  /-- Ask for the step `o` and continue with its response. -/
  | step (o : σ.Op) (k : Except ε (σ.Res o) → Program σ ε α)

/-- A step that has been done: which one it was and how it was answered. -/
structure Done (σ : Sig) (ε : Type) where
  /-- The step. -/
  op : σ.Op
  /-- Its response. -/
  res : Except ε (σ.Res op)

namespace Program

variable {σ τ : Sig} {ε α β : Type}

/-- Sequencing: an exception skips the rest. -/
def bind : Program σ ε α → (α → Program σ ε β) → Program σ ε β
  | ret a, f => f a
  | raise e, _ => raise e
  | step o k, f => step o fun r => (k r).bind f

instance : Monad (Program σ ε) where
  pure := ret
  bind := bind

/-- Ask for one step; its exception, if it raises one, is not caught. -/
def perform (o : σ.Op) : Program σ ε (σ.Res o) :=
  step o fun
    | .ok a => ret a
    | .error e => raise e

/-- A pure computation that may raise. -/
def ofExcept : Except ε α → Program σ ε α
  | .ok a => ret a
  | .error e => raise e

/-- Run a program of the signature `σ` inside the larger signature `τ`: `f` names its steps there
    and `g` reads their answers back. -/
def embed (f : σ.Op → τ.Op) (g : ∀ o, τ.Res (f o) → σ.Res o) : Program σ ε α → Program τ ε α
  | ret a => ret a
  | raise e => raise e
  | step o k => step (f o) fun r => (k (r.map (g o))).embed f g

@[simp] theorem ret_bind (a : α) (f : α → Program σ ε β) : (ret a : Program σ ε α) >>= f = f a := rfl

@[simp] theorem pure_eq (a : α) : (pure a : Program σ ε α) = ret a := rfl

@[simp] theorem raise_bind (e : ε) (f : α → Program σ ε β) :
    (raise e : Program σ ε α) >>= f = raise e := rfl

@[simp] theorem ofExcept_ok (a : α) : (ofExcept (.ok a) : Program σ ε α) = ret a := rfl

@[simp] theorem ofExcept_error (e : ε) : (ofExcept (.error e) : Program σ ε α) = raise e := rfl

theorem bind_assoc {γ : Type} (p : Program σ ε α) (f : α → Program σ ε β) (g : β → Program σ ε γ) :
    (p >>= f) >>= g = p >>= fun a => f a >>= g := by
  show (p.bind f).bind g = p.bind fun a => (f a).bind g
  induction p with
  | ret a => rfl
  | raise e => rfl
  | step o k ih => exact congrArg (step o) (funext fun r => ih r)

theorem embed_bind {f : σ.Op → τ.Op} {g : ∀ o, τ.Res (f o) → σ.Res o} (p : Program σ ε α)
    (k : α → Program σ ε β) : (p >>= k).embed f g = p.embed f g >>= fun a => (k a).embed f g := by
  show (p.bind k).embed f g = (p.embed f g).bind fun a => (k a).embed f g
  induction p with
  | ret a => rfl
  | raise e => rfl
  | step o k' ih => exact congrArg (step (f o)) (funext fun r => ih _)

theorem embed_ofExcept {f : σ.Op → τ.Op} {g : ∀ o, τ.Res (f o) → σ.Res o} (x : Except ε α) :
    (ofExcept x : Program σ ε α).embed f g = ofExcept x := by
  cases x with
  | ok a => rfl
  | error e => rfl

/-- Is the program still asking for something? -/
def running : Program σ ε α → Bool
  | step _ _ => true
  | _ => false

theorem running_iff {p : Program σ ε α} : p.running = true ↔ ∃ o k, p = step o k := by
  cases p with
  | ret a => simp [running]
  | raise e => simp [running]
  | step o k => simp [running]

/-! ## What a program can return -/

/-- Some responses make the program return `a`. -/
def CanReturn : Program σ ε α → α → Prop
  | ret a', a => a' = a
  | raise _, _ => False
  | step _ k, a => ∃ r, (k r).CanReturn a

theorem canReturn_ofExcept {x : Except ε α} {a : α} :
    (ofExcept x : Program σ ε α).CanReturn a ↔ x = .ok a := by
  cases x with
  | ok a' => exact ⟨fun h => congrArg _ h, Except.ok.inj⟩
  | error e => exact ⟨fun h => h.elim, fun h => by cases h⟩

theorem canReturn_bind {p : Program σ ε α} {f : α → Program σ ε β} {b : β} :
    (p >>= f).CanReturn b ↔ ∃ a, p.CanReturn a ∧ (f a).CanReturn b := by
  show (p.bind f).CanReturn b ↔ _
  induction p with
  | ret a => exact ⟨fun h => ⟨a, rfl, h⟩, fun ⟨_, ha, h⟩ => by cases ha; exact h⟩
  | raise e => exact ⟨fun h => h.elim, fun ⟨_, ha, _⟩ => ha.elim⟩
  | step o k ih =>
    constructor
    · rintro ⟨r, h⟩
      obtain ⟨a, ha, hb⟩ := (ih r).mp h
      exact ⟨a, ⟨r, ha⟩, hb⟩
    · rintro ⟨a, ⟨r, ha⟩, hb⟩
      exact ⟨r, (ih r).mpr ⟨a, ha, hb⟩⟩

/-! ## Properties of every point of a program -/

/-- `Always P Q h p`: when the steps `h` have been done and `p` is what remains, `P` holds of every
    step that will be asked for (with what was done before it) and `Q` of every end, whatever the
    steps answer. -/
def Always (P : List (Done σ ε) → σ.Op → Prop) (Q : List (Done σ ε) → Except ε α → Prop) :
    List (Done σ ε) → Program σ ε α → Prop
  | h, ret a => Q h (.ok a)
  | h, raise e => Q h (.error e)
  | h, step o k => P h o ∧ ∀ r, Always P Q (h ++ [⟨o, r⟩]) (k r)

section Always

variable {P : List (Done σ ε) → σ.Op → Prop} {Q : List (Done σ ε) → Except ε α → Prop}
  {R : List (Done σ ε) → Except ε β → Prop} {h : List (Done σ ε)}

@[simp] theorem always_ret {a : α} : Always P Q h (ret a) ↔ Q h (.ok a) := Iff.rfl

@[simp] theorem always_raise {e : ε} : Always P Q h (raise e) ↔ Q h (.error e) := Iff.rfl

theorem always_step {o : σ.Op} {k : Except ε (σ.Res o) → Program σ ε α} :
    Always P Q h (step o k) ↔ P h o ∧ ∀ r, Always P Q (h ++ [⟨o, r⟩]) (k r) := Iff.rfl

/-- The post-condition that goes on with `f` when a value came back. -/
def thenAlways (P : List (Done σ ε) → σ.Op → Prop) (R : List (Done σ ε) → Except ε β → Prop)
    (f : α → Program σ ε β) (h : List (Done σ ε)) : Except ε α → Prop
  | .ok a => Always P R h (f a)
  | .error e => R h (.error e)

/-- **The sequencing rule.** -/
theorem always_bind {p : Program σ ε α} {f : α → Program σ ε β} :
    Always P R h (p >>= f) ↔ Always P (thenAlways P R f) h p := by
  show Always P R h (p.bind f) ↔ _
  induction p generalizing h with
  | ret a => exact Iff.rfl
  | raise e => exact Iff.rfl
  | step o k ih =>
    show (P h o ∧ ∀ r, Always P R (h ++ [⟨o, r⟩]) ((k r).bind f)) ↔ _
    rw [always_step]
    exact and_congr_right fun _ => forall_congr' fun r => ih r

/-- The rule of one step followed by the rest. -/
theorem always_perform_bind {o : σ.Op} {f : σ.Res o → Program σ ε β} :
    Always P R h (perform o >>= f) ↔
      P h o ∧ (∀ a, Always P R (h ++ [⟨o, .ok a⟩]) (f a)) ∧ ∀ e, R (h ++ [⟨o, .error e⟩]) (.error e) := by
  rw [always_bind]
  show (P h o ∧ ∀ r, Always P (thenAlways P R f) (h ++ [⟨o, r⟩]) _) ↔ _
  refine and_congr_right fun _ => ⟨fun H => ⟨fun a => H (.ok a), fun e => H (.error e)⟩, ?_⟩
  rintro ⟨hok, herr⟩ (e | a)
  · exact herr e
  · exact hok a

theorem always_ofExcept_bind {x : Except ε α} {f : α → Program σ ε β} :
    Always P R h (ofExcept x >>= f) ↔
      (∀ a, x = .ok a → Always P R h (f a)) ∧ ∀ e, x = .error e → R h (.error e) := by
  cases x with
  | ok a => simp
  | error e => simp

/-- Weakening, with the steps done so far in hand. -/
theorem Always.mono {P' : List (Done σ ε) → σ.Op → Prop} {Q' : List (Done σ ε) → Except ε α → Prop}
    {p : Program σ ε α} (hP : ∀ h' o, P h' o → P' h' o) (hQ : ∀ h' r, Q h' r → Q' h' r)
    (H : Always P Q h p) : Always P' Q' h p := by
  induction p generalizing h with
  | ret a => exact hQ _ _ H
  | raise e => exact hQ _ _ H
  | step o k ih => exact ⟨hP _ _ H.1, fun r => ih r (H.2 r)⟩

/-- What holds everywhere holds at every point of a program. -/
theorem Always.of_forall (hP : ∀ h o, P h o) (hQ : ∀ h r, Q h r) (p : Program σ ε α) :
    Always P Q h p := by
  induction p generalizing h with
  | ret a => exact hQ _ _
  | raise e => exact hQ _ _
  | step o k ih => exact ⟨hP _ _, fun r => ih r⟩

/-- **The rule of an embedded program**: it only adds steps of its own signature, so it is enough
    that `P` allows those and `Q` holds after any number of them, of every value it can return. -/
theorem always_embed {f : σ.Op → τ.Op} {g : ∀ o, τ.Res (f o) → σ.Res o}
    {P : List (Done τ ε) → τ.Op → Prop} {Q : List (Done τ ε) → Except ε α → Prop}
    {h : List (Done τ ε)} (p : Program σ ε α)
    (hP : ∀ h', (∀ d ∈ h', ∃ o, d.op = f o) → ∀ o, P (h ++ h') (f o))
    (hQ : ∀ h', (∀ d ∈ h', ∃ o, d.op = f o) → ∀ r, (∀ a, r = .ok a → p.CanReturn a) →
      Q (h ++ h') r) :
    Always P Q h (p.embed f g) := by
  -- the steps done inside the embedded program so far are the accumulator `h'` of the induction
  suffices H : ∀ h', (∀ d ∈ h', ∃ o, d.op = f o) → Always P Q (h ++ h') (p.embed f g) by
    have := H [] (fun d hd => absurd hd List.not_mem_nil)
    rwa [List.append_nil] at this
  induction p with
  | ret a =>
    intro h' hh
    refine hQ h' hh (.ok a) ?_
    rintro a' ⟨⟩
    exact rfl
  | raise e =>
    intro h' hh
    refine hQ h' hh (.error e) ?_
    rintro a' ⟨⟩
  | step o k ih =>
    intro h' hh
    refine ⟨hP h' hh o, fun r => ?_⟩
    rw [List.append_assoc]
    refine ih (r.map (g o)) (fun h'' hh'' r' hr' => hQ h'' hh'' r' fun a ha => ⟨_, hr' a ha⟩)
      (h' ++ [⟨f o, r⟩]) ?_
    intro d hd
    rcases List.mem_append.mp hd with hd | hd
    · exact hh d hd
    · exact ⟨o, by rw [List.mem_singleton.mp hd]⟩

end Always

/-! ## Properties of the steps alone -/

/-- Every step that the program can ask for satisfies `P`. -/
def Only (P : σ.Op → Prop) (p : Program σ ε α) : Prop :=
  ∀ h, Always (fun _ o => P o) (fun _ _ => True) h p

section Only

variable {P : σ.Op → Prop}

theorem Only.ret (a : α) : Only P (.ret a : Program σ ε α) := fun _ => trivial

theorem Only.perform_bind {o : σ.Op} {f : σ.Res o → Program σ ε α} (ho : P o)
    (hf : ∀ a, Only P (f a)) : Only P (perform o >>= f) := by
  intro h
  rw [always_perform_bind]
  exact ⟨ho, fun a => hf a _, fun _ => trivial⟩

theorem Only.ofExcept_bind {x : Except ε α} {f : α → Program σ ε β}
    (hf : ∀ a, x = .ok a → Only P (f a)) : Only P (ofExcept x >>= f) := by
  intro h
  rw [always_ofExcept_bind]
  exact ⟨fun a ha => hf a ha h, fun _ _ => trivial⟩

theorem Only.bind {p : Program σ ε α} {f : α → Program σ ε β} (hp : Only P p)
    (hf : ∀ a, Only P (f a)) : Only P (p >>= f) := by
  intro h
  rw [always_bind]
  refine (hp h).mono (fun _ _ ho => ho) fun h' r _ => ?_
  cases r with
  | error e => exact trivial
  | ok a => exact hf a h'

theorem Only.embed {P : τ.Op → Prop} {f : σ.Op → τ.Op} {g : ∀ o, τ.Res (f o) → σ.Res o}
    (p : Program σ ε α) (hP : ∀ o, P (f o)) : Only P (p.embed f g) :=
  fun _ => always_embed p (fun _ _ o => hP o) fun _ _ _ _ => trivial

/-- What is done by a program that only asks for steps of `P`. -/
theorem Only.done {p : Program σ ε α} {h : List (Done σ ε)} (hp : Only P p) :
    Always (fun _ _ => True) (fun h' _ => ∃ h₁, h' = h ++ h₁ ∧ ∀ d ∈ h₁, P d.op) h p := by
  -- the steps done so far are the accumulator `h₁` of the induction
  suffices H : ∀ h₁, (∀ d ∈ h₁, P d.op) → (Always (fun _ o => P o) (fun _ _ => True) (h ++ h₁) p) →
      Always (fun _ _ => True) (fun h' _ => ∃ h₁, h' = h ++ h₁ ∧ ∀ d ∈ h₁, P d.op) (h ++ h₁) p by
    have := H [] (fun d hd => absurd hd List.not_mem_nil)
    rw [List.append_nil] at this
    exact this (hp h)
  clear hp
  induction p with
  | ret a => exact fun h₁ hh _ => ⟨h₁, rfl, hh⟩
  | raise e => exact fun h₁ hh _ => ⟨h₁, rfl, hh⟩
  | step o k ih =>
    intro h₁ hh H
    refine ⟨trivial, fun r => ?_⟩
    have hrest := H.2 r
    rw [List.append_assoc] at hrest ⊢
    refine ih r (h₁ ++ [⟨o, r⟩]) ?_ hrest
    intro d hd
    rcases List.mem_append.mp hd with hd | hd
    · exact hh d hd
    · rw [List.mem_singleton.mp hd]
      exact H.1

end Only

/-! ## Relying on the answers -/

/-- `Relies A G p`: as long as the answers satisfy `A`, every step that `p` asks for satisfies `G`. -/
def Relies (A : (o : σ.Op) → σ.Res o → Prop) (G : σ.Op → Prop) : Program σ ε α → Prop
  | ret _ => True
  | raise _ => True
  | step o k => G o ∧ ∀ r, (∀ a, r = .ok a → A o a) → Relies A G (k r)

section Relies

variable {A : (o : σ.Op) → σ.Res o → Prop} {G : σ.Op → Prop}

theorem Relies.ret (a : α) : Relies A G (.ret a : Program σ ε α) := trivial

/-- What holds whatever is answered needs nothing to rely on. -/
theorem Relies.of_always {p : Program σ ε α} {Q : List (Done σ ε) → Except ε α → Prop}
    {h : List (Done σ ε)} (H : Always (fun _ o => G o) Q h p) : Relies A G p := by
  induction p generalizing h with
  | ret a => exact trivial
  | raise e => exact trivial
  | step o k ih => exact ⟨H.1, fun r _ => ih r (H.2 r)⟩

theorem Relies.bind {p : Program σ ε α} {f : α → Program σ ε β} (hp : Relies A G p)
    (hf : ∀ a, Relies A G (f a)) : Relies A G (p >>= f) := by
  show Relies A G (p.bind f)
  induction p with
  | ret a => exact hf a
  | raise e => exact trivial
  | step o k ih => exact ⟨hp.1, fun r hr => ih r (hp.2 r hr)⟩

theorem Relies.perform_bind {o : σ.Op} {f : σ.Res o → Program σ ε α} (ho : G o)
    (hf : ∀ a, A o a → Relies A G (f a)) : Relies A G (perform o >>= f) := by
  refine ⟨ho, fun r hr => ?_⟩
  cases r with
  | ok a => exact hf a (hr a rfl)
  | error e => exact trivial

theorem Relies.ofExcept_bind {x : Except ε α} {f : α → Program σ ε β}
    (hf : ∀ a, x = .ok a → Relies A G (f a)) : Relies A G (ofExcept x >>= f) := by
  cases x with
  | ok a => exact hf a rfl
  | error e => exact trivial

theorem Relies.embed {A : (o : τ.Op) → τ.Res o → Prop} {G : τ.Op → Prop} {f : σ.Op → τ.Op}
    {g : ∀ o, τ.Res (f o) → σ.Res o} (p : Program σ ε α) (hG : ∀ o, G (f o)) :
    Relies A G (p.embed f g) := by
  induction p with
  | ret a => exact trivial
  | raise e => exact trivial
  | step o k ih => exact ⟨hG o, fun r _ => ih _⟩

end Relies

end Program

end Atomic
