/-
  A FRONT END: what is done with the end of every request.

  `M.behind F` serves each request of the system `M` by its own program first.  Whether that returned or
  raised, `F.finish` goes on with what the request came to; its steps are of another signature and only
  touch a state of the front end's own (counters, say).

  * `Runs.behind`   — seen from inside, every run of the whole is a run of `M`: `Behind` is the simulation,
                      which says of each thread whether it still is at its own program or what that came to;
  * `always_behind` — what the program logic says of the program of a request, carried over to the whole.
-/
import Billing.Lib.Compose
import Mathlib.Data.List.Forall2

namespace Atomic

open Program Relation Atomic.System

variable {σ τ : Sig} {ε α β : Type} {M : System σ ε α}

/-- What is done with the end of the requests of `M`. -/
structure FrontEnd (M : System σ ε α) (τ : Sig) (β : Type) where
  /-- The state of the front end. -/
  State : Type
  /-- What is done after a request came to this end. -/
  finish : M.Req → Except ε α → Program τ ε β
  /-- One step of it. -/
  exec : (o : τ.Op) → State → Except ε (τ.Res o) × State

/-- What remains of a request when `p` remains of its own program. -/
def FrontEnd.served (F : FrontEnd M τ β) (req : M.Req) (p : Program σ ε α) : Program (σ.sum τ) ε β :=
  (p.left (τ := τ)).attempt >>= fun r => (F.finish req r).right

/-- `M` behind a front end. -/
abbrev System.behind (M : System σ ε α) (F : FrontEnd M τ β) : System (σ.sum τ) ε β where
  State := M.State × F.State
  Req := M.Req
  Choice := Option M.Choice
  program := fun req => F.served req (M.program req)
  arrive := fun s req => (M.arrive s.1 req).map fun s₁ => (s₁, s.2)
  exec := fun o ch s => match o, ch, s with
    | .inl o, some ch, (s, x) => (M.exec o ch s).map fun r => (r.1, (r.2, x))
    | .inr o, none, (s, x) => some ((F.exec o x).1, (s, (F.exec o x).2))
    | _, _, _ => none

variable {F : FrontEnd M τ β}

/-! ## What a step of the whole is -/

theorem served_ended (req : M.Req) (r : Except ε α) :
    F.served req (ended r) = (F.finish req r).right := by
  cases r with
  | ok a => rfl
  | error e => rfl

theorem exec_inside {o : σ.Op} {ch : (M.behind F).Choice} {s s' : (M.behind F).State}
    {r : Except ε (σ.Res o)} (hx : (M.behind F).exec (.inl o) ch s = some (r, s')) :
    ∃ ch' s₁, ch = some ch' ∧ M.exec o ch' s.1 = some (r, s₁) ∧ s' = (s₁, s.2) := by
  cases ch with
  | none => cases hx
  | some ch =>
    obtain ⟨⟨r', s₁⟩, hx', heq⟩ := Option.map_eq_some_iff.mp hx
    cases heq
    exact ⟨ch, s₁, rfl, hx', rfl⟩

theorem exec_outside {o : τ.Op} {ch : (M.behind F).Choice} {s s' : (M.behind F).State}
    {r : Except ε (τ.Res o)} (hx : (M.behind F).exec (.inr o) ch s = some (r, s')) :
    r = (F.exec o s.2).1 ∧ s' = (s.1, (F.exec o s.2).2) := by
  cases ch with
  | none => cases hx; exact ⟨rfl, rfl⟩
  | some ch => cases hx

/-! ## The simulation -/

/-- The thread `t` of `M` is what is inside the thread `u` of the whole. -/
structure Inside (u : Thread (M.behind F)) (t : Thread M) : Prop where
  req : u.req = t.req
  /-- It still is at its own program, or `finish` has gone on with what that came to. -/
  rest : (t.running = true ∧ u.rest = F.served t.req t.rest) ∨
    ∃ r, ∃ q : Program τ ε β, t.rest = ended r ∧ u.rest = q.right ∧
      ∀ b, q.CanReturn b → (F.finish t.req r).CanReturn b

/-- The configuration `c` of `M` is what is inside the configuration `d` of the whole. -/
structure Behind (d : Config (M.behind F)) (c : Config M) : Prop where
  state : d.state.1 = c.state
  threads : List.Forall₂ Inside d.threads c.threads

/-- A thread whose program has this left is inside one that goes on so. -/
theorem Inside.of_served {req : M.Req} {h : List (Done (σ.sum τ) ε)} {h' : List (Done σ ε)}
    (p : Program σ ε α) : Inside (⟨req, h, F.served req p⟩ : Thread (M.behind F)) ⟨req, h', p⟩ := by
  refine ⟨rfl, ?_⟩
  cases p with
  | ret a => exact Or.inr ⟨.ok a, F.finish req (.ok a), rfl, rfl, fun _ hb => hb⟩
  | raise e => exact Or.inr ⟨.error e, F.finish req (.error e), rfl, rfl, fun _ hb => hb⟩
  | step o k => exact Or.inl ⟨rfl, rfl⟩

theorem Behind.getElem? {d : Config (M.behind F)} {c : Config M} (h : Behind d c) {i : Nat}
    {u : Thread (M.behind F)} (hi : d.threads[i]? = some u) :
    ∃ t, c.threads[i]? = some t ∧ Inside u t := by
  obtain ⟨hlt, rfl⟩ := List.getElem?_eq_some_iff.mp hi
  have hlen := h.threads.length_eq
  refine ⟨c.threads.get ⟨i, hlen ▸ hlt⟩, List.getElem?_eq_getElem _, ?_⟩
  exact List.forall₂_iff_get.mp h.threads |>.2 i hlt (hlen ▸ hlt)

theorem forall₂_set {γ δ : Type} {R : γ → δ → Prop} {l : List γ} {l' : List δ}
    (h : List.Forall₂ R l l') (i : Nat) {x : γ} {y : δ} (hxy : R x y) :
    List.Forall₂ R (l.set i x) (l'.set i y) := by
  induction h generalizing i with
  | nil => exact List.Forall₂.nil
  | cons hab hrest ih =>
    cases i with
    | zero => exact List.Forall₂.cons hxy hrest
    | succ i => exact List.Forall₂.cons hab (ih i)

/-- Writing what is there changes nothing. -/
theorem set_of_getElem? {γ : Type} {l : List γ} {i : Nat} {x : γ} (h : l[i]? = some x) :
    l.set i x = l := by
  obtain ⟨hlt, rfl⟩ := List.getElem?_eq_some_iff.mp h
  exact List.set_getElem_self hlt

/-- **An action of the whole is an action inside, or nothing is done there.** -/
theorem Behind.next {d d' : Config (M.behind F)} {c : Config M} (h : Behind d c)
    {a : Action (M.behind F)} (hn : d.next a = some d') :
    ∃ c', (c' = c ∨ ∃ a', c.next a' = some c') ∧ Behind d' c' := by
  cases a with
  | start req =>
    obtain ⟨s, harr, rfl⟩ := Config.next_start hn
    obtain ⟨s₁, harr', rfl⟩ := Option.map_eq_some_iff.mp harr
    rw [h.state] at harr'
    refine ⟨_, Or.inr ⟨.start req, Config.next_start_of harr'⟩, rfl, ?_⟩
    exact List.rel_append h.threads (List.Forall₂.cons (Inside.of_served _) List.Forall₂.nil)
  | abort i e =>
    obtain ⟨u, hi, hrun, rfl⟩ := Config.next_abort hn
    obtain ⟨t, hti, hin⟩ := h.getElem? hi
    rcases hin.rest with ⟨hrunt, -⟩ | ⟨r, q, hr, hq, hret⟩
    · obtain ⟨o, k, hk⟩ := running_iff.mp hrunt
      obtain ⟨req, hist, rest⟩ := t
      obtain rfl : rest = .step o k := hk
      have hnext : c.next (.abort i e) = some ⟨c.state, c.threads.set i ⟨req, hist, .raise e⟩⟩ := by
        simp only [Config.next, hti]
      refine ⟨_, Or.inr ⟨.abort i e, hnext⟩, h.state, forall₂_set h.threads i ⟨hin.req, Or.inr ?_⟩⟩
      exact ⟨.error e, .raise e, rfl, rfl, fun b hb => hb.elim⟩
    · refine ⟨c, Or.inl rfl, h.state, ?_⟩
      have hset : c.threads = c.threads.set i t := (set_of_getElem? hti).symm
      rw [hset]
      exact forall₂_set h.threads i ⟨hin.req, Or.inr ⟨r, .raise e, hr, rfl, fun b hb => hb.elim⟩⟩
  | step i ch =>
    obtain ⟨u, o, k, res, s, hi, hr, hx, rfl⟩ := Config.next_step hn
    obtain ⟨t, hti, hin⟩ := h.getElem? hi
    rcases hin.rest with ⟨hrunt, hserved⟩ | ⟨r, q, hend, hq, hret⟩
    · -- a step of the request's own program
      obtain ⟨o', k', hk'⟩ := running_iff.mp hrunt
      rw [hk'] at hserved
      obtain ⟨rfl, hk⟩ : o = .inl o' ∧ HEq k _ := Program.step.inj (hr.symm.trans hserved)
      obtain rfl := eq_of_heq hk
      obtain ⟨ch', s₁, -, hx', rfl⟩ := exec_inside hx
      rw [h.state] at hx'
      obtain ⟨req, hist, rest⟩ := t
      obtain rfl : rest = .step o' k' := hk'
      refine ⟨_, Or.inr ⟨.step i ch', Config.next_step_of hti hx'⟩, rfl, forall₂_set h.threads i ?_⟩
      obtain ⟨req', hist', rest'⟩ := u
      obtain rfl : req' = req := hin.req
      exact Inside.of_served _
    · -- a step of what is done with its end
      cases q with
      | ret b => cases hr.symm.trans hq
      | raise e => cases hr.symm.trans hq
      | step o' k' =>
        obtain ⟨rfl, hk⟩ : o = .inr o' ∧ HEq k _ := Program.step.inj (hr.symm.trans hq)
        obtain rfl := eq_of_heq hk
        obtain ⟨-, rfl⟩ := exec_outside hx
        refine ⟨c, Or.inl rfl, h.state, ?_⟩
        have hset : c.threads = c.threads.set i t := (set_of_getElem? hti).symm
        rw [hset]
        refine forall₂_set h.threads i ⟨hin.req, Or.inr ⟨r, k' res, hend, rfl, fun b hb => ?_⟩⟩
        exact hret b ⟨res, hb⟩

/-- **Seen from inside, a run of the whole is a run of `M`.** -/
theorem Runs.behind {ok : Config (M.behind F) → Action (M.behind F) → Prop}
    {d d' : Config (M.behind F)} (H : Runs ok d d') {c : Config M} (h : Behind d c) :
    ∃ c', Runs anyOrder c c' ∧ Behind d' c' := by
  induction H with
  | refl => exact ⟨c, ReflTransGen.refl, h⟩
  | tail _ hm ih =>
    obtain ⟨c₁, hruns, hbehind⟩ := ih
    obtain ⟨a, -, hn⟩ := hm
    obtain ⟨c₂, rfl | ⟨a', hn'⟩, hbehind'⟩ := hbehind.next hn
    · exact ⟨c₂, hruns, hbehind'⟩
    · exact ⟨c₂, hruns.tail ⟨a', trivial, hn'⟩, hbehind'⟩

/-- A program over `τ` returns what it returns. -/
theorem canReturn_right {q : Program τ ε β} {b : β} (h : q.right (σ := σ) = .ret b) : q.CanReturn b := by
  cases q with
  | ret b' => cases h; exact rfl
  | raise e => cases h
  | step o k => cases h

/-- **What a request was answered** is what `finish` makes of what it came to. -/
theorem Behind.returned {d : Config (M.behind F)} {c : Config M} (h : Behind d c) {i : Nat} {b : β}
    (hi : d.returned i = some b) :
    ∃ t r, c.threads[i]? = some t ∧ t.rest = ended r ∧ (F.finish t.req r).CanReturn b := by
  obtain ⟨u, hu, hrest⟩ := Config.returned_eq_some.mp hi
  obtain ⟨t, ht, hin⟩ := h.getElem? hu
  rcases hin.rest with ⟨hrun, hserved⟩ | ⟨r, q, hend, hq, hret⟩
  · obtain ⟨o, k, hk⟩ := running_iff.mp hrun
    rw [hrest, hk] at hserved
    cases hserved
  · exact ⟨t, r, ht, hend, hret b (canReturn_right (hq.symm.trans hrest))⟩

/-! ## The program logic -/

/-- A step of `M` as one of the whole. -/
def Done.left (d : Done σ ε) : Done (σ.sum τ) ε := ⟨.inl d.op, d.res⟩

/-- **What holds of the program of a request is carried over to the whole**, where `finish` goes on with
    what held at its end. -/
theorem always_behind {P : List (Done σ ε) → σ.Op → Prop} {Q : List (Done σ ε) → Except ε α → Prop}
    {P' : List (Done (σ.sum τ) ε) → (σ.sum τ).Op → Prop}
    {Q' : List (Done (σ.sum τ) ε) → Except ε β → Prop} {req : M.Req} {h : List (Done σ ε)}
    {p : Program σ ε α} (H : Always P Q h p) (hP : ∀ h o, P h o → P' (h.map Done.left) (.inl o))
    (hQ : ∀ h r, Q h r → Always P' Q' (h.map Done.left) (F.finish req r).right) :
    Always P' Q' (h.map Done.left) (F.served req p) := by
  induction p generalizing h with
  | ret a => exact hQ h _ H
  | raise e => exact hQ h _ H
  | step o k ih =>
    refine ⟨hP h o H.1, fun r => ?_⟩
    have hrest := ih r (H.2 r)
    rw [List.map_append] at hrest
    exact hrest

end Atomic
