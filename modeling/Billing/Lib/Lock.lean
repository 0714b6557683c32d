/-
  ONE LOCK around everything that a request does.

  `withLock p` is the program `with lock: p`: it takes the lock, runs `p`, gives the lock back whether
  `p` returned or raised, and then ends as `p` did.  `M.locked` is the system `M` in which every request
  is served so; `acquire` is only possible while the lock is free, so a thread that finds it taken
  waits.

  `Runs.in_turn`: in every interleaving in which no thread is cut off, the requests that were served took
  turns.  There is an order of them in which each ran alone, from the state that the one before it left,
  to its own answer, and the last one left the state there is.  The invariant behind it, `Held`, says
  what the one thread inside the lock still has to do.
-/
import Billing.Lib.Compose

namespace Atomic

open Program Atomic.System

variable {σ : Sig} {ε α : Type} {M : System σ ε α}

/-! ## Programs under the lock -/

/-- The steps of a lock. -/
inductive LockOp where
  /-- Wait until it is free, and take it. -/
  | acquire
  /-- Give it back. -/
  | release

/-- The signature of a lock. -/
abbrev lock : Sig := ⟨LockOp, fun _ => Unit⟩

/-- What remains of `with lock:` when `p` remains of its body. -/
def inside (p : Program σ ε α) : Program (σ.sum lock) ε α :=
  (p.left (τ := lock)).attempt >>= fun r =>
    perform (σ := σ.sum lock) (.inr .release) >>= fun _ => ofExcept r

/-- `with lock: p`. -/
def withLock (p : Program σ ε α) : Program (σ.sum lock) ε α :=
  perform (σ := σ.sum lock) (.inr .acquire) >>= fun _ => inside p

/-- `M` with a lock around every request. -/
abbrev System.locked (M : System σ ε α) : System (σ.sum lock) ε α where
  State := M.State × Bool
  Req := M.Req
  Choice := Option M.Choice
  program := fun req => withLock (M.program req)
  arrive := fun s req => (M.arrive s.1 req).map fun s₁ => (s₁, s.2)
  exec := fun o ch s => match o, ch, s with
    | .inl o, some ch, (s, held) => (M.exec o ch s).map fun x => (x.1, (x.2, held))
    | .inr .acquire, none, (s, false) => some (.ok (), (s, true))
    | .inr .release, none, (s, _) => some (.ok (), (s, false))
    | _, _, _ => none

/-! ## Turns -/

/-- Every choice is possible. -/
def anyChoice : σ.Op → M.Choice → Prop := fun _ _ => True

/-- The requests run one after the other, each of them alone and to this end. -/
inductive System.InTurn (M : System σ ε α) (s₀ : M.State) :
    List (M.Req × Except ε α) → M.State → Prop
  | nothing : M.InTurn s₀ [] s₀
  | next {turns : List (M.Req × Except ε α)} {s s' : M.State} {req : M.Req} {res : Except ε α} :
    M.InTurn s₀ turns s → M.Yields anyChoice (M.program req) s res s' →
      M.InTurn s₀ (turns ++ [(req, res)]) s'

/-- **The rule of turns**: what holds at first and is kept by every request that runs alone. -/
theorem System.InTurn.keeps {I : List (M.Req × Except ε α) → M.State → Prop} {s₀ s : M.State}
    {turns : List (M.Req × Except ε α)} (h : M.InTurn s₀ turns s) (h0 : I [] s₀)
    (hs : ∀ turns s req res s', I turns s → M.Yields anyChoice (M.program req) s res s' →
      I (turns ++ [(req, res)]) s') : I turns s := by
  induction h with
  | nothing => exact h0
  | next _ hy ih => exact hs _ _ _ _ _ ih hy

/-- What has become of the request of a thread that has ended. -/
def Thread.outcome (t : Thread M) : Option (M.Req × Except ε α) :=
  match t.rest with
  | .ret a => some (t.req, .ok a)
  | .raise e => some (t.req, .error e)
  | .step _ _ => none

/-- The requests that were served, with what became of them. -/
def Config.outcomes (c : Config M) : List (M.Req × Except ε α) := c.threads.filterMap Thread.outcome

/-- No thread is cut off. -/
def uninterrupted (_ : Config M) : Action M → Prop
  | .abort _ _ => False
  | _ => True

instance : ∀ (c : Config M) (a : Action M), Decidable (uninterrupted c a)
  | _, .start _ => isTrue trivial
  | _, .step _ _ => isTrue trivial
  | _, .abort _ _ => isFalse id

theorem Thread.outcome_ended (req : M.Req) (h : List (Done σ ε)) (res : Except ε α) :
    (⟨req, h, ended res⟩ : Thread M).outcome = some (req, res) := by
  cases res with
  | ok a => rfl
  | error e => rfl

theorem Thread.outcome_of_running {t : Thread M} (h : t.running = true) : t.outcome = none := by
  obtain ⟨o, k, hr⟩ := running_iff.mp h
  rw [Thread.outcome, hr]

/-- One entry more is read off a list in which an entry that said nothing was replaced. -/
theorem filterMap_set {β γ : Type} {f : β → Option γ} {l : List β} {i : Nat} {b b' : β} {x : γ}
    (hi : l[i]? = some b) (hb : f b = none) (hb' : f b' = some x) :
    ((l.set i b').filterMap f).Perm (x :: l.filterMap f) := by
  induction l generalizing i with
  | nil => cases hi
  | cons y ys ih =>
    cases i with
    | zero =>
      obtain rfl : y = b := Option.some.inj hi
      rw [List.set_cons_zero, List.filterMap_cons_some hb', List.filterMap_cons_none hb]
    | succ i =>
      have hrest := ih (i := i) hi
      rw [List.set_cons_succ]
      cases hy : f y with
      | none => rw [List.filterMap_cons_none hy, List.filterMap_cons_none hy]; exact hrest
      | some z =>
        rw [List.filterMap_cons_some hy, List.filterMap_cons_some hy]
        exact (hrest.cons z).trans (List.Perm.swap x z _)

theorem filterMap_set_none {β γ : Type} {f : β → Option γ} {l : List β} {i : Nat} {b b' : β}
    (hi : l[i]? = some b) (hb : f b = none) (hb' : f b' = none) :
    (l.set i b').filterMap f = l.filterMap f := by
  induction l generalizing i with
  | nil => cases hi
  | cons y ys ih =>
    cases i with
    | zero =>
      obtain rfl : y = b := Option.some.inj hi
      rw [List.set_cons_zero, List.filterMap_cons_none hb', List.filterMap_cons_none hb]
    | succ i =>
      rw [List.set_cons_succ, List.filterMap_cons, List.filterMap_cons, ih hi]

/-! ## The thread inside -/

/-- The body of a lock is at its end, or asks for a step. -/
theorem ended_or_step (p : Program σ ε α) : (∃ res, p = ended res) ∨ ∃ o k, p = .step o k := by
  cases p with
  | ret a => exact Or.inl ⟨.ok a, rfl⟩
  | raise e => exact Or.inl ⟨.error e, rfl⟩
  | step o k => exact Or.inr ⟨o, k, rfl⟩

/-- A body at its end gives the lock back. -/
theorem inside_ended (res : Except ε α) :
    inside (ended (σ := σ) res) = .step (.inr .release) fun r => match r with
      | .ok _ => ended res
      | .error e => .raise e := by
  cases res with
  | ok a =>
    refine congrArg (Program.step (σ := σ.sum lock) (.inr .release)) (funext fun r => ?_)
    cases r with
    | ok u => rfl
    | error e => rfl
  | error e =>
    refine congrArg (Program.step (σ := σ.sum lock) (.inr .release)) (funext fun r => ?_)
    cases r with
    | ok u => rfl
    | error e' => rfl

/-- Whoever has the lock still asks for a step. -/
theorem inside_running (p : Program σ ε α) : (inside p).running = true := by
  rcases ended_or_step p with ⟨res, rfl⟩ | ⟨o, k, rfl⟩
  · rw [inside_ended]
    rfl
  · rfl

/-- Whoever waits for the lock has done nothing yet. -/
def Thread.Waiting (t : Thread M.locked) : Prop := t.rest = withLock (M.program t.req)

/-- Thread `i` has the lock: `p` remains of its body, and what `p` can do from here on is what the
    request can do from the state `s` that it found. -/
structure Held (c : Config M.locked) (s : M.State) (i : Nat) (t : Thread M.locked)
    (p : Program σ ε α) : Prop where
  thread : c.threads[i]? = some t
  rest : t.rest = inside p
  whole : ∀ res s', M.Yields anyChoice p c.state.1 res s' →
    M.Yields anyChoice (M.program t.req) s res s'
  others : ∀ j u, c.threads[j]? = some u → u.running = true → j ≠ i → u.Waiting

/-- Nobody has the lock, and the state is `s`. -/
structure Free (c : Config M.locked) (s : M.State) : Prop where
  state : c.state = (s, false)
  others : ∀ u ∈ c.threads, u.running = true → u.Waiting

/-- **The invariant of a lock.** -/
def Locked (s₀ : M.State) (c : Config M.locked) : Prop :=
  ∃ turns s, M.InTurn s₀ turns s ∧ turns.Perm c.outcomes ∧
    (Free c s ∨ (c.state.2 = true ∧ ∃ i t p, Held c s i t p))

/-! ## One action -/

section Next

/-- The lock is only taken while it is free. -/
theorem exec_acquire {ch : M.locked.Choice} {st st' : M.locked.State} {r : Except ε Unit}
    (hx : M.locked.exec (.inr .acquire) ch st = some (r, st')) :
    st.2 = false ∧ r = .ok () ∧ st' = (st.1, true) := by
  obtain ⟨s, held⟩ := st
  cases ch with
  | some ch => cases hx
  | none =>
    cases held with
    | true => cases hx
    | false => cases hx; exact ⟨rfl, rfl, rfl⟩

theorem exec_release {ch : M.locked.Choice} {st st' : M.locked.State} {r : Except ε Unit}
    (hx : M.locked.exec (.inr .release) ch st = some (r, st')) :
    r = .ok () ∧ st' = (st.1, false) := by
  cases ch with
  | some ch => cases hx
  | none => cases hx; exact ⟨rfl, rfl⟩

/-- A step of the body is one of `M`. -/
theorem exec_body {o : σ.Op} {ch : M.locked.Choice} {st st' : M.locked.State}
    {r : Except ε (σ.Res o)} (hx : M.locked.exec (.inl o) ch st = some (r, st')) :
    ∃ ch' s', M.exec o ch' st.1 = some (r, s') ∧ st' = (s', st.2) := by
  cases ch with
  | none => cases hx
  | some ch =>
    obtain ⟨⟨r', s'⟩, hx', heq⟩ := Option.map_eq_some_iff.mp hx
    cases heq
    exact ⟨ch, s', hx', rfl⟩

variable {s₀ s : M.State} {c c' : Config M.locked}

/-- A request that arrives waits. -/
theorem waiting_of_new (req : M.Req) : (⟨req, [], M.locked.program req⟩ : Thread M.locked).Waiting := rfl

/-- **A request arrives**, which leaves the state alone. -/
theorem Locked.start (hquiet : ∀ s req s₁, M.arrive s req = some s₁ → s₁ = s) (h : Locked s₀ c)
    {req : M.Req} (hn : c.next (.start req) = some c') : Locked s₀ c' := by
  obtain ⟨turns, s, hturns, hperm, hstate⟩ := h
  obtain ⟨st, harr, rfl⟩ := Config.next_start hn
  have hsame : st = c.state := by
    obtain ⟨s₁, hs₁, rfl⟩ := Option.map_eq_some_iff.mp harr
    obtain rfl := hquiet _ _ _ hs₁
    rfl
  subst hsame
  have hnew : (⟨req, [], M.locked.program req⟩ : Thread M.locked).outcome = none := rfl
  refine ⟨turns, s, hturns, ?_, ?_⟩
  · unfold Config.outcomes
    rw [List.filterMap_append, List.filterMap_cons_none hnew, List.filterMap_nil, List.append_nil]
    exact hperm
  · rcases hstate with hfree | ⟨hheld, i, t, p, hp⟩
    · refine Or.inl ⟨hfree.state, fun u hu hrun => ?_⟩
      rcases List.mem_append.mp hu with hu | hu
      · exact hfree.others u hu hrun
      · rw [List.mem_singleton.mp hu]
        exact waiting_of_new req
    · refine Or.inr ⟨hheld, i, t, p, ?_, hp.rest, hp.whole, fun j u hj hrun hne => ?_⟩
      · exact (List.getElem?_append_left (List.getElem?_eq_some_iff.mp hp.thread).1).trans hp.thread
      · rcases getElem?_append_cases hj with hj | ⟨-, rfl⟩
        · exact hp.others j u hj hrun hne
        · exact waiting_of_new req

/-- **A thread that waited takes the lock**, which nobody has. -/
theorem Free.taken (h : Free c s) {i : Nat} {ch : M.locked.Choice} (hn : c.next (.step i ch) = some c') :
    c'.state.2 = true ∧ c'.outcomes = c.outcomes ∧ ∃ t p, Held c' s i t p := by
  obtain ⟨t, o, k, r, st, hi, hr, hx, rfl⟩ := Config.next_step hn
  have hrun : t.running = true := running_iff.mpr ⟨o, k, hr⟩
  have hwait : t.rest = withLock (M.program t.req) := h.others t (List.mem_of_getElem? hi) hrun
  obtain ⟨rfl, hk⟩ : o = .inr .acquire ∧ HEq k _ := Program.step.inj (hr.symm.trans hwait)
  obtain rfl := eq_of_heq hk
  obtain ⟨-, rfl, rfl⟩ := exec_acquire hx
  have hstate : c.state.1 = s := congrArg Prod.fst h.state
  refine ⟨rfl, ?_, _, M.program t.req, List.getElem?_set_self (List.getElem?_eq_some_iff.mp hi).1, rfl,
    fun res s' hy => ?_, fun j u hj hrunu hne => ?_⟩
  · exact filterMap_set_none hi (Thread.outcome_of_running hrun)
      (Thread.outcome_of_running (inside_running _))
  · rwa [← hstate]
  · rcases getElem?_set_cases hj with ⟨rfl, -⟩ | ⟨-, hj⟩
    · exact absurd rfl hne
    · exact h.others u (List.mem_of_getElem? hj) hrunu

/-- **While the lock is taken, only its thread does anything**: a step of its body, or the last one,
    which gives the lock back. -/
theorem Held.next {i : Nat} {t : Thread M.locked} {p : Program σ ε α} (h : Held c s i t p)
    (hheld : c.state.2 = true) {j : Nat} {ch : M.locked.Choice}
    (hn : c.next (.step j ch) = some c') :
    (c'.state.2 = true ∧ c'.outcomes = c.outcomes ∧ ∃ t' p', Held c' s i t' p') ∨
      ∃ res s', M.Yields anyChoice (M.program t.req) s res s' ∧ Free c' s' ∧
        c'.outcomes.Perm ((t.req, res) :: c.outcomes) := by
  obtain ⟨u, o, k, r, st, hj, hr, hx, rfl⟩ := Config.next_step hn
  have hrun : u.running = true := running_iff.mpr ⟨o, k, hr⟩
  by_cases hij : j = i
  · subst hij
    obtain rfl : u = t := Option.some.inj (hj.symm.trans h.thread)
    have hlt := (List.getElem?_eq_some_iff.mp hj).1
    have hothers : ∀ (v : Thread M.locked) (j' : Nat) (w : Thread M.locked),
        (c.threads.set j v)[j']? = some w → w.running = true → j' ≠ j → w.Waiting := by
      intro v j' w hw hrunw hne
      rcases getElem?_set_cases hw with ⟨rfl, -⟩ | ⟨-, hw⟩
      · exact absurd rfl hne
      · exact h.others j' w hw hrunw hne
    rcases ended_or_step p with ⟨res, rfl⟩ | ⟨o', k', rfl⟩
    · -- the body has ended, and the lock is given back
      right
      have hrest := h.rest
      rw [inside_ended] at hrest
      obtain ⟨rfl, hk⟩ : o = .inr .release ∧ HEq k _ := Program.step.inj (hr.symm.trans hrest)
      obtain rfl := eq_of_heq hk
      obtain ⟨rfl, rfl⟩ := exec_release hx
      have hyields : M.Yields anyChoice (ended (σ := σ) res) c.state.1 res c.state.1 := by
        cases res with
        | ok a => exact ⟨rfl, rfl⟩
        | error e => exact ⟨rfl, rfl⟩
      refine ⟨res, c.state.1, h.whole res _ hyields, ⟨rfl, fun v hv hrunv => ?_⟩, ?_⟩
      · obtain ⟨j', hj'⟩ := List.getElem?_of_mem hv
        refine hothers _ j' v hj' hrunv ?_
        rintro rfl
        obtain rfl := Option.some.inj ((List.getElem?_set_self hlt).symm.trans hj')
        cases res with
        | ok a => cases hrunv
        | error e => cases hrunv
      · exact filterMap_set hj (Thread.outcome_of_running hrun) (Thread.outcome_ended _ _ res)
    · -- a step of the body
      left
      obtain ⟨rfl, hk⟩ : o = .inl o' ∧ HEq k _ := Program.step.inj (hr.symm.trans h.rest)
      obtain rfl := eq_of_heq hk
      obtain ⟨ch', s', hx', rfl⟩ := exec_body hx
      refine ⟨hheld, ?_, _, k' r, List.getElem?_set_self hlt, rfl, fun res s'' hy => ?_, hothers _⟩
      · exact filterMap_set_none hj (Thread.outcome_of_running hrun)
          (Thread.outcome_of_running (inside_running (k' r)))
      · exact h.whole res s'' ⟨ch', r, s', trivial, hx', hy⟩
  · -- another thread finds the lock taken
    have hwait : u.rest = withLock (M.program u.req) := h.others j u hj hrun hij
    obtain ⟨rfl, -⟩ : o = .inr .acquire ∧ HEq k _ := Program.step.inj (hr.symm.trans hwait)
    obtain ⟨hfree, -, -⟩ := exec_acquire hx
    exact absurd (hheld.symm.trans hfree) (by decide)

end Next

/-! ## Runs -/

theorem locked_start (s₀ : M.State) : Locked s₀ (⟨(s₀, false), []⟩ : Config M.locked) :=
  ⟨[], s₀, .nothing, List.Perm.nil, Or.inl ⟨rfl, fun _ hu => absurd hu List.not_mem_nil⟩⟩

theorem Locked.step {s₀ : M.State} {c c' : Config M.locked} (h : Locked s₀ c) {i : Nat}
    {ch : M.locked.Choice} (hn : c.next (.step i ch) = some c') : Locked s₀ c' := by
  obtain ⟨turns, s, hturns, hperm, hfree | ⟨hheld, j, t, p, hp⟩⟩ := h
  · obtain ⟨hheld, hout, t, p, hp⟩ := hfree.taken hn
    exact ⟨turns, s, hturns, hout ▸ hperm, Or.inr ⟨hheld, i, t, p, hp⟩⟩
  · rcases hp.next hheld hn with ⟨hheld', hout, t', p', hp'⟩ | ⟨res, s', hyields, hfree, hout⟩
    · exact ⟨turns, s, hturns, hout ▸ hperm, Or.inr ⟨hheld', j, t', p', hp'⟩⟩
    · refine ⟨turns ++ [(t.req, res)], s', hturns.next hyields, ?_, Or.inl hfree⟩
      exact (List.perm_append_singleton _ _).trans ((hperm.cons _).trans hout.symm)

/-- **The lock makes its requests take turns.**  Whenever it is free, the requests that were served so
    far ran one after the other, each of them alone. -/
theorem Runs.in_turn (hquiet : ∀ s req s₁, M.arrive s req = some s₁ → s₁ = s) {s₀ : M.State}
    {c : Config M.locked} (H : Runs uninterrupted ⟨(s₀, false), []⟩ c) (hfree : c.state.2 = false) :
    ∃ turns, M.InTurn s₀ turns c.state.1 ∧ turns.Perm c.outcomes := by
  have hlocked : Locked s₀ c := H.invariant (locked_start s₀) fun c a c' hc hok hn => by
    cases a with
    | start req => exact hc.start hquiet hn
    | step i ch => exact hc.step hn
    | abort i e => exact hok.elim
  obtain ⟨turns, s, hturns, hperm, hstate | ⟨hheld, -⟩⟩ := hlocked
  · refine ⟨turns, ?_, hperm⟩
    rw [hstate.state]
    exact hturns
  · exact absurd (hheld.symm.trans hfree) (by decide)

end Atomic
