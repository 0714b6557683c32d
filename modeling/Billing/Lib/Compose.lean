/-
  PROGRAMS PUT TOGETHER from smaller ones.

  `σ.sum τ` has the steps of two signatures; `left` and `right` take a program over one of them there.
  `attempt` is `try` (the end of a program becomes a value, so what comes after it decides), and
  `ensuring` is `try … finally`.  `yields_attempt` and `yields_ensuring` say what they do alone.
-/
import Billing.Lib.Pool

namespace Atomic

/-- The steps of `σ` and those of `τ`. -/
abbrev Sig.sum (σ τ : Sig) : Sig := ⟨σ.Op ⊕ τ.Op, Sum.elim σ.Res τ.Res⟩

namespace Program

variable {σ τ : Sig} {ε α β : Type}

/-- A program over `σ` as one over more steps. -/
def left : Program σ ε α → Program (σ.sum τ) ε α
  | ret a => ret a
  | raise e => raise e
  | step o k => step (.inl o) fun r => (k r).left

/-- A program over `τ` as one over more steps. -/
def right : Program τ ε α → Program (σ.sum τ) ε α
  | ret a => ret a
  | raise e => raise e
  | step o k => step (.inr o) fun r => (k r).right

/-- `try`: the end of a program as a value. -/
def attempt : Program σ ε α → Program σ ε (Except ε α)
  | ret a => ret (.ok a)
  | raise e => ret (.error e)
  | step o k => step o fun r => (k r).attempt

/-- `try … finally`: the cleanup is done in either case, and its own exception takes over. -/
def ensuring (p : Program σ ε α) (cleanup : Program σ ε Unit) : Program σ ε α :=
  p.attempt >>= fun r => cleanup >>= fun _ => ofExcept r

end Program

section Alone

variable {σ : Sig} {ε α β : Type} {M : System σ ε α} {ok : σ.Op → M.Choice → Prop} {s s' : M.State}

theorem yields_attempt {p : Program σ ε β} {res : Except ε (Except ε β)} :
    M.Yields ok p.attempt s res s' ↔ ∃ r, M.Yields ok p s r s' ∧ res = .ok r := by
  induction p generalizing s with
  | ret b => exact ⟨fun ⟨hres, hs⟩ => ⟨.ok b, ⟨rfl, hs⟩, hres⟩, fun ⟨_, ⟨hr, hs⟩, hres⟩ => ⟨hr ▸ hres, hs⟩⟩
  | raise e =>
    exact ⟨fun ⟨hres, hs⟩ => ⟨.error e, ⟨rfl, hs⟩, hres⟩, fun ⟨_, ⟨hr, hs⟩, hres⟩ => ⟨hr ▸ hres, hs⟩⟩
  | step o k ih =>
    constructor
    · rintro ⟨ch, r, s₁, hok, hx, h⟩
      obtain ⟨r', h', hres⟩ := (ih r).mp h
      exact ⟨r', ⟨ch, r, s₁, hok, hx, h'⟩, hres⟩
    · rintro ⟨r', ⟨ch, r, s₁, hok, hx, h'⟩, hres⟩
      exact ⟨ch, r, s₁, hok, hx, (ih r).mpr ⟨r', h', hres⟩⟩

/-- **The rule of `try … finally`.** -/
theorem yields_ensuring {p : Program σ ε β} {cleanup : Program σ ε Unit} {res : Except ε β} :
    M.Yields ok (p.ensuring cleanup) s res s' ↔ ∃ r s₁ r', M.Yields ok p s r s₁ ∧
      M.Yields ok cleanup s₁ r' s' ∧ res = r'.bind fun _ => r := by
  unfold Program.ensuring
  rw [System.yields_bind]
  constructor
  · rintro ⟨x, s₁, hx, hrest⟩
    obtain ⟨r, hp, rfl⟩ := yields_attempt.mp hx
    obtain ⟨r', s₂, hcleanup, hend⟩ := System.yields_bind.mp (show M.Yields ok _ s₁ res s' from hrest)
    cases r' with
    | error e =>
      obtain ⟨rfl, rfl⟩ := hend
      exact ⟨r, s₁, .error e, hp, hcleanup, rfl⟩
    | ok u =>
      cases r with
      | ok b =>
        obtain ⟨rfl, rfl⟩ := hend
        exact ⟨.ok b, s₁, .ok u, hp, hcleanup, rfl⟩
      | error e =>
        obtain ⟨rfl, rfl⟩ := hend
        exact ⟨.error e, s₁, .ok u, hp, hcleanup, rfl⟩
  · rintro ⟨r, s₁, r', hp, hcleanup, rfl⟩
    refine ⟨.ok r, s₁, yields_attempt.mpr ⟨r, hp, rfl⟩, ?_⟩
    refine (System.yields_bind (p := cleanup)).mpr ⟨r', s', hcleanup, ?_⟩
    cases r' with
    | error e => exact ⟨rfl, rfl⟩
    | ok u =>
      cases r with
      | ok b => exact ⟨rfl, rfl⟩
      | error e => exact ⟨rfl, rfl⟩

end Alone

end Atomic
