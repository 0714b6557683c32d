/-
  INTERLEAVED RUNS of programs of atomic steps over one shared state.

  A `System` gives the steps of a signature their meaning: `exec o ch s` is what the step `o` does
  to the shared state `s` when the environment makes the choice `ch` (answer so, fail, fail after
  the write took effect, …).  A configuration is the shared state and a pool of threads; a thread
  keeps the request it serves, the steps it has done and the program that remains.  One action is

  * `start req`   — a request arrives and its thread joins the pool;
  * `step i ch`   — thread `i` does its next step under the choice `ch`;
  * `abort i e`   — thread `i` is cut off between two steps (its process stopped).

  `Runs ok c c'` is any sequence of actions, each admissible for `ok` in the configuration it is
  taken in.  With `ok` = everything, these are all interleavings; with `oneAtATime`, a request is
  only started when no thread is running.

  The rules for reasoning about runs, each an induction done once:

  * `Runs.invariant`      — what holds at first and is kept by every admissible action;
  * `Runs.always`         — what the program logic `Program.Always` proved of the requests' programs
                            holds of every thread, whatever the others do;
  * `Runs.relies`         — assume–guarantee: what the programs rely on of the state, and keep;
  * `Knows.next`          — what a step established and every action keeps, is still true of all the
                            steps that any thread has done;
  * `Runs.running_knows`  — when requests come one at a time, the running thread's steps are all that
                            happened since it started, so knowledge its own steps keep is kept;
  * `Runs.origin`         — every step in a thread's history was done in some configuration of the run;
  * `System.Yields`       — what a program does when it runs alone, a run of the pool by `Yields.runs`;
  * `Runs.sequence`       — and the other way round: when requests come one at a time, a run of the pool
                            is a sequence of requests that run alone;
  * `play_runs`           — an executable player of action lists, for concrete runs.
-/
import Billing.Lib.Program
import Mathlib.Logic.Relation
import Mathlib.Data.List.Basic

namespace Atomic

open Relation

/-- A meaning for the steps of `σ`, and the requests that are served with them. -/
structure System (σ : Sig) (ε α : Type) where
  /-- The state that all threads share. -/
  State : Type
  /-- The requests. -/
  Req : Type
  /-- What the environment decides about one step. -/
  Choice : Type
  /-- The program that serves a request. -/
  program : Req → Program σ ε α
  /-- A request arrives (`none`: it cannot arrive in this state). -/
  arrive : State → Req → Option State
  /-- One atomic step: its response and the state after it (`none`: not a possible choice). -/
  exec : (o : σ.Op) → Choice → State → Option (Except ε (σ.Res o) × State)

variable {σ : Sig} {ε α : Type}

/-- A request being served: the steps done for it, and what remains. -/
structure Thread (M : System σ ε α) where
  /-- The request. -/
  req : M.Req
  /-- The steps done so far. -/
  history : List (Done σ ε)
  /-- The rest of its program. -/
  rest : Program σ ε α

/-- The shared state and the pool of threads, in the order in which they arrived. -/
structure Config (M : System σ ε α) where
  /-- The shared state. -/
  state : M.State
  /-- The threads. -/
  threads : List (Thread M)

/-- What can happen next. -/
inductive Action (M : System σ ε α) where
  /-- A request arrives. -/
  | start (req : M.Req)
  /-- Thread `i` does its next step. -/
  | step (i : Nat) (ch : M.Choice)
  /-- Thread `i` is cut off between two steps. -/
  | abort (i : Nat) (e : ε)

variable {M : System σ ε α}

/-- A thread is running while its program still asks for a step. -/
def Thread.running (t : Thread M) : Bool := t.rest.running

/-- No thread is running. -/
def Config.atRest (c : Config M) : Bool := c.threads.all fun t => !t.running

/-- The configuration after an action, if the action is possible. -/
def Config.next (c : Config M) : Action M → Option (Config M)
  | .start req =>
    match M.arrive c.state req with
    | none => none
    | some s => some ⟨s, c.threads ++ [⟨req, [], M.program req⟩]⟩
  | .step i ch =>
    match c.threads[i]? with
    | some ⟨req, h, .step o k⟩ =>
      match M.exec o ch c.state with
      | none => none
      | some (r, s) => some ⟨s, c.threads.set i ⟨req, h ++ [⟨o, r⟩], k r⟩⟩
    | _ => none
  | .abort i e =>
    match c.threads[i]? with
    | some ⟨req, h, .step _ _⟩ => some ⟨c.state, c.threads.set i ⟨req, h, .raise e⟩⟩
    | _ => none

/-- What thread `i` has returned. -/
def Config.returned (c : Config M) (i : Nat) : Option α :=
  match c.threads[i]? with
  | some ⟨_, _, .ret a⟩ => some a
  | _ => none

theorem Config.returned_eq_some {c : Config M} {i : Nat} {a : α} :
    c.returned i = some a ↔ ∃ t, c.threads[i]? = some t ∧ t.rest = .ret a := by
  unfold Config.returned
  constructor
  · intro h
    split at h
    · rename_i req hist a' ht
      exact ⟨_, ht, congrArg _ (Option.some.inj h)⟩
    · cases h
  · rintro ⟨⟨req, hist, rest⟩, ht, hr⟩
    cases hr
    rw [ht]

/-- Thread `i` is `t`, and it asks for the step `o`. -/
def Config.Asks (c : Config M) (i : Nat) (t : Thread M) (o : σ.Op) : Prop :=
  c.threads[i]? = some t ∧ ∃ k, t.rest = .step o k

theorem Config.Asks.mem {c : Config M} {i : Nat} {t : Thread M} {o : σ.Op} (h : c.Asks i t o) :
    t ∈ c.threads := List.mem_of_getElem? h.1

/-- A thread asks for one step. -/
theorem Config.Asks.unique {c : Config M} {i : Nat} {t t' : Thread M} {o o' : σ.Op}
    {k : Except ε (σ.Res o') → Program σ ε α} (h : c.Asks i t o) (ht : c.threads[i]? = some t')
    (hr : t'.rest = .step o' k) : t' = t ∧ o' = o := by
  obtain ⟨ht', k', hr'⟩ := h
  obtain rfl := Option.some.inj (ht.symm.trans ht')
  rw [hr] at hr'
  cases hr'
  exact ⟨rfl, rfl⟩

/-- What an action is about to do for which request, after which steps. -/
def Config.doing (c : Config M) : Action M → Option (M.Req × List (Done σ ε) × σ.Op)
  | .step i _ =>
    match c.threads[i]? with
    | some ⟨req, h, .step o _⟩ => some (req, h, o)
    | _ => none
  | _ => none

theorem Config.Asks.doing {c : Config M} {i : Nat} {t : Thread M} {o : σ.Op} (h : c.Asks i t o)
    (ch : M.Choice) : c.doing (.step i ch) = some (t.req, t.history, o) := by
  obtain ⟨ht, k, hk⟩ := h
  obtain ⟨req, hist, rest⟩ := t
  cases hk
  simp only [Config.doing, ht]

theorem Config.asks_of_doing {c : Config M} {a : Action M} {req : M.Req} {h : List (Done σ ε)}
    {o : σ.Op} (hd : c.doing a = some (req, h, o)) :
    ∃ i ch t, a = .step i ch ∧ c.Asks i t o ∧ t.req = req ∧ t.history = h := by
  cases a with
  | start req' => cases hd
  | abort i e => cases hd
  | step i ch =>
    simp only [Config.doing] at hd
    split at hd
    · rename_i req' h' o' k ht
      cases hd
      exact ⟨i, ch, _, rfl, ⟨ht, k, rfl⟩, rfl, rfl⟩
    · cases hd

/-! ## What one action does, said once -/

theorem Config.next_start {c c' : Config M} {req : M.Req} (h : c.next (.start req) = some c') :
    ∃ s, M.arrive c.state req = some s ∧ c' = ⟨s, c.threads ++ [⟨req, [], M.program req⟩]⟩ := by
  simp only [Config.next] at h
  cases hs : M.arrive c.state req with
  | none => rw [hs] at h; cases h
  | some s => rw [hs] at h; exact ⟨s, rfl, (Option.some.inj h).symm⟩

theorem Config.next_step {c c' : Config M} {i : Nat} {ch : M.Choice}
    (h : c.next (.step i ch) = some c') :
    ∃ t o k r s, c.threads[i]? = some t ∧ t.rest = .step o k ∧ M.exec o ch c.state = some (r, s) ∧
      c' = ⟨s, c.threads.set i ⟨t.req, t.history ++ [⟨o, r⟩], k r⟩⟩ := by
  simp only [Config.next] at h
  split at h
  · rename_i req hist o k ht
    split at h
    · cases h
    · rename_i r s hx
      exact ⟨⟨req, hist, .step o k⟩, o, k, r, s, ht, rfl, hx, (Option.some.inj h).symm⟩
  · cases h

theorem Config.next_abort {c c' : Config M} {i : Nat} {e : ε} (h : c.next (.abort i e) = some c') :
    ∃ t, c.threads[i]? = some t ∧ t.running = true ∧
      c' = ⟨c.state, c.threads.set i ⟨t.req, t.history, .raise e⟩⟩ := by
  simp only [Config.next] at h
  split at h
  · rename_i req hist o k ht
    exact ⟨⟨req, hist, .step o k⟩, ht, rfl, (Option.some.inj h).symm⟩
  · cases h

/-- A step of thread `i`, put together again from its parts. -/
theorem Config.next_start_of {c : Config M} {req : M.Req} {s : M.State}
    (h : M.arrive c.state req = some s) :
    c.next (.start req) = some ⟨s, c.threads ++ [⟨req, [], M.program req⟩]⟩ := by
  simp only [Config.next, h]

theorem Config.next_step_of {c : Config M} {i : Nat} {ch : M.Choice} {req : M.Req}
    {h : List (Done σ ε)} {o : σ.Op} {k : Except ε (σ.Res o) → Program σ ε α}
    {r : Except ε (σ.Res o)} {s : M.State} (ht : c.threads[i]? = some ⟨req, h, .step o k⟩)
    (hx : M.exec o ch c.state = some (r, s)) :
    c.next (.step i ch) = some ⟨s, c.threads.set i ⟨req, h ++ [⟨o, r⟩], k r⟩⟩ := by
  simp only [Config.next, ht, hx]

/-! ## Runs -/

/-- An action that `ok` allows takes `c` to `c'`. -/
def Moves (ok : Config M → Action M → Prop) (c c' : Config M) : Prop :=
  ∃ a, ok c a ∧ c.next a = some c'

/-- A sequence of admissible actions takes `c` to `c'`. -/
def Runs (ok : Config M → Action M → Prop) : Config M → Config M → Prop := ReflTransGen (Moves ok)

/-- Every action is admissible: all interleavings, all failures. -/
def anyOrder : Config M → Action M → Prop := fun _ _ => True

/-- Requests are served one at a time: one only arrives when no other is running. -/
def oneAtATime (c : Config M) : Action M → Prop
  | .start _ => c.atRest = true
  | _ => True

instance : ∀ (c : Config M) (a : Action M), Decidable (oneAtATime c a)
  | c, .start _ => inferInstanceAs (Decidable (c.atRest = true))
  | _, .step _ _ => isTrue trivial
  | _, .abort _ _ => isTrue trivial

instance : ∀ (c : Config M) (a : Action M), Decidable (anyOrder c a) := fun _ _ => isTrue trivial

theorem Runs.mono {ok ok' : Config M → Action M → Prop} (h : ∀ c a, ok c a → ok' c a)
    {c c' : Config M} (H : Runs ok c c') : Runs ok' c c' :=
  H.lift id fun _ _ ⟨a, ha, hn⟩ => ⟨a, h _ a ha, hn⟩

theorem Runs.any {ok : Config M → Action M → Prop} {c c' : Config M} (H : Runs ok c c') :
    Runs anyOrder c c' := H.mono fun _ _ _ => trivial

theorem Runs.single {ok : Config M → Action M → Prop} {c c' : Config M} {a : Action M}
    (ha : ok c a) (hn : c.next a = some c') : Runs ok c c' := ReflTransGen.single ⟨a, ha, hn⟩

/-- A run whose actions all satisfy more than was asked of them. -/
theorem Runs.strengthen {ok ok' : Config M → Action M → Prop} {c₀ c : Config M} (H : Runs ok c₀ c)
    (h : ∀ c a c', Runs ok c₀ c → ok c a → c.next a = some c' → ok' c a) : Runs ok' c₀ c := by
  induction H with
  | refl => exact ReflTransGen.refl
  | tail hr hm ih =>
    obtain ⟨a, ha, hn⟩ := hm
    exact ReflTransGen.tail ih ⟨a, h _ a _ hr ha hn, hn⟩

/-- **The invariant rule.** -/
theorem Runs.invariant {ok : Config M → Action M → Prop} {I : Config M → Prop} {c₀ c : Config M}
    (H : Runs ok c₀ c) (h0 : I c₀)
    (hs : ∀ c a c', I c → ok c a → c.next a = some c' → I c') : I c := by
  induction H with
  | refl => exact h0
  | tail _ hm ih =>
    obtain ⟨a, ha, hn⟩ := hm
    exact hs _ a _ ih ha hn

/-- The invariant rule, with the run so far in hand. -/
theorem Runs.invariant_reached {ok : Config M → Action M → Prop} {I : Config M → Prop}
    {c₀ c : Config M} (H : Runs ok c₀ c) (h0 : I c₀)
    (hs : ∀ c a c', Runs ok c₀ c → I c → ok c a → c.next a = some c' → I c') : I c := by
  induction H with
  | refl => exact h0
  | tail hr hm ih =>
    obtain ⟨a, ha, hn⟩ := hm
    exact hs _ a _ hr ih ha hn

/-- The invariant rule for a relation between an earlier configuration and a later one, when the
    step of the induction may use an invariant `I` of the configuration it starts in. -/
theorem Runs.relation {ok : Config M → Action M → Prop} {I : Config M → Prop}
    {R : Config M → Config M → Prop} {c₀ c : Config M} (H : Runs ok c₀ c)
    (hI : ∀ c, Runs ok c₀ c → I c) (hrefl : ∀ c, R c c) (htrans : ∀ a b c, R a b → R b c → R a c)
    (hs : ∀ c a c', I c → ok c a → c.next a = some c' → R c c') : R c₀ c := by
  induction H with
  | refl => exact hrefl _
  | tail hr hm ih =>
    obtain ⟨a, ha, hn⟩ := hm
    exact htrans _ _ _ ih (hs _ a _ (hI _ hr) ha hn)

/-! ## Threads: membership after an action -/

/-- After an action, a thread is one of the old ones or the one the action touched. -/
theorem Config.mem_next {c c' : Config M} {a : Action M} (h : c.next a = some c') {t : Thread M}
    (ht : t ∈ c'.threads) :
    t ∈ c.threads ∨ (∃ req, a = .start req ∧ t = ⟨req, [], M.program req⟩) ∨
    (∃ i ch t₀ o k r, a = .step i ch ∧ c.threads[i]? = some t₀ ∧ t₀.rest = .step o k ∧
      M.exec o ch c.state = some (r, c'.state) ∧ t = ⟨t₀.req, t₀.history ++ [⟨o, r⟩], k r⟩) ∨
    (∃ i e t₀, a = .abort i e ∧ c.threads[i]? = some t₀ ∧ t₀.running = true ∧
      t = ⟨t₀.req, t₀.history, .raise e⟩) := by
  cases a with
  | start req =>
    obtain ⟨s, _, rfl⟩ := Config.next_start h
    rcases List.mem_append.mp ht with ht | ht
    · exact Or.inl ht
    · exact Or.inr (Or.inl ⟨req, rfl, List.mem_singleton.mp ht⟩)
  | step i ch =>
    obtain ⟨t₀, o, k, r, s, hi, hr, hx, rfl⟩ := Config.next_step h
    rcases List.mem_or_eq_of_mem_set ht with ht | ht
    · exact Or.inl ht
    · exact Or.inr (Or.inr (Or.inl ⟨i, ch, t₀, o, k, r, rfl, hi, hr, hx, ht⟩))
  | abort i e =>
    obtain ⟨t₀, hi, hrun, rfl⟩ := Config.next_abort h
    rcases List.mem_or_eq_of_mem_set ht with ht | ht
    · exact Or.inl ht
    · exact Or.inr (Or.inr (Or.inr ⟨i, e, t₀, rfl, hi, hrun, ht⟩))

/-- The shared state after an action: a request arrived, a step was done, or it was left alone. -/
theorem Config.state_next {c c' : Config M} {a : Action M} (h : c.next a = some c') :
    (∃ req, a = .start req ∧ M.arrive c.state req = some c'.state) ∨
    (∃ i ch t o k r, a = .step i ch ∧ c.threads[i]? = some t ∧ t.rest = .step o k ∧
      M.exec o ch c.state = some (r, c'.state)) ∨
    (∃ i e, a = .abort i e ∧ c'.state = c.state) := by
  cases a with
  | start req =>
    obtain ⟨s, hs, rfl⟩ := Config.next_start h
    exact Or.inl ⟨req, rfl, hs⟩
  | step i ch =>
    obtain ⟨t, o, k, r, s, hi, hr, hx, rfl⟩ := Config.next_step h
    exact Or.inr (Or.inl ⟨i, ch, t, o, k, r, rfl, hi, hr, hx⟩)
  | abort i e =>
    obtain ⟨t, _, _, rfl⟩ := Config.next_abort h
    exact Or.inr (Or.inr ⟨i, e, rfl, rfl⟩)

/-- The requests of the pool, in the order in which they arrived. -/
def Config.reqs (c : Config M) : List M.Req := c.threads.map Thread.req

theorem Config.reqs_set {c : Config M} {i : Nat} {t t' : Thread M} (h : c.threads[i]? = some t)
    (hreq : t'.req = t.req) : (c.threads.set i t').map Thread.req = c.reqs := by
  unfold Config.reqs
  refine List.ext_getElem? fun j => ?_
  rw [List.getElem?_map, List.getElem?_map]
  by_cases hij : i = j
  · subst hij
    have hlt : i < c.threads.length := List.getElem?_eq_some_iff.mp h |>.1
    rw [List.getElem?_set_self hlt, h, Option.map_some, Option.map_some, hreq]
  · rw [List.getElem?_set_ne hij]

/-- Actions only ever add requests at the end. -/
theorem Config.reqs_next {c c' : Config M} {a : Action M} (h : c.next a = some c') :
    c'.reqs = c.reqs ∨ ∃ req, a = .start req ∧ c'.reqs = c.reqs ++ [req] := by
  cases a with
  | start req =>
    obtain ⟨s, _, rfl⟩ := Config.next_start h
    exact Or.inr ⟨req, rfl, List.map_append⟩
  | step i ch =>
    obtain ⟨t, o, k, r, s, hi, _, _, rfl⟩ := Config.next_step h
    exact Or.inl (Config.reqs_set hi rfl)
  | abort i e =>
    obtain ⟨t, hi, _, rfl⟩ := Config.next_abort h
    exact Or.inl (Config.reqs_set hi rfl)

/-- Requests that draw different values are told apart by them. -/
theorem Config.index_unique {β : Type} {f : M.Req → β} {c : Config M}
    (hnd : (c.reqs.map f).Nodup) {i j : Nat} {t u : Thread M} (hi : c.threads[i]? = some t)
    (hj : c.threads[j]? = some u) (h : f t.req = f u.req) : i = j := by
  have hti : (c.reqs.map f)[i]? = some (f t.req) := by
    rw [Config.reqs, List.map_map, List.getElem?_map, hi]; rfl
  have huj : (c.reqs.map f)[j]? = some (f t.req) := by
    rw [h, Config.reqs, List.map_map, List.getElem?_map, hj]; rfl
  obtain ⟨hlt, _⟩ := List.getElem?_eq_some_iff.mp hti
  exact (List.getElem?_inj hlt hnd).mp (hti.trans huj.symm)

theorem Config.mem_reqs {c : Config M} {t : Thread M} (h : t ∈ c.threads) : t.req ∈ c.reqs :=
  List.mem_map_of_mem h

/-! ## What the program logic says about threads -/

/-- A thread that was cut off, or whose remaining program satisfies `Always` at its history. -/
def Thread.Follows (P : M.Req → List (Done σ ε) → σ.Op → Prop)
    (Q : M.Req → List (Done σ ε) → Except ε α → Prop) (t : Thread M) : Prop :=
  (∃ e, t.rest = .raise e) ∨ Program.Always (P t.req) (Q t.req) t.history t.rest

theorem Config.follows_next {P : M.Req → List (Done σ ε) → σ.Op → Prop}
    {Q : M.Req → List (Done σ ε) → Except ε α → Prop}
    (hprog : ∀ req, Program.Always (P req) (Q req) [] (M.program req)) {c c' : Config M}
    {a : Action M} (hn : c.next a = some c') (ih : ∀ t ∈ c.threads, t.Follows P Q) :
    ∀ t ∈ c'.threads, t.Follows P Q := by
  intro t ht
  rcases Config.mem_next hn ht with ht | ⟨req, _, rfl⟩ | ⟨i, ch, t₀, o, k, r, _, hi, hr, _, rfl⟩ |
    ⟨i, e, t₀, _, _, _, rfl⟩
  · exact ih t ht
  · exact Or.inr (hprog req)
  · rcases ih t₀ (List.mem_of_getElem? hi) with ⟨e, he⟩ | hA
    · rw [hr] at he; cases he
    · rw [hr] at hA
      exact Or.inr (hA.2 r)
  · exact Or.inl ⟨e, rfl⟩

/-- **Threads follow their programs.**  What holds at every point of the requests' programs holds of
    every thread of every run, whatever the other threads and the environment do. -/
theorem Runs.always {P : M.Req → List (Done σ ε) → σ.Op → Prop}
    {Q : M.Req → List (Done σ ε) → Except ε α → Prop} {ok : Config M → Action M → Prop}
    {c₀ c : Config M} (H : Runs ok c₀ c)
    (hprog : ∀ req, Program.Always (P req) (Q req) [] (M.program req))
    (h0 : ∀ t ∈ c₀.threads, t.Follows P Q) : ∀ t ∈ c.threads, t.Follows P Q :=
  H.invariant (I := fun c => ∀ t ∈ c.threads, t.Follows P Q) h0
    fun _ _ _ ih _ hn => Config.follows_next hprog hn ih

/-- A thread that asks for a step is not one that was cut off. -/
theorem Thread.Follows.at_step {P : M.Req → List (Done σ ε) → σ.Op → Prop}
    {Q : M.Req → List (Done σ ε) → Except ε α → Prop} {t : Thread M} (h : t.Follows P Q)
    {o : σ.Op} {k : Except ε (σ.Res o) → Program σ ε α} (hr : t.rest = .step o k) :
    P t.req t.history o ∧
      ∀ r, Program.Always (P t.req) (Q t.req) (t.history ++ [⟨o, r⟩]) (k r) := by
  rcases h with ⟨e, he⟩ | hA
  · rw [hr] at he; cases he
  · rw [hr] at hA; exact hA

/-- A thread that has returned satisfies the post-condition. -/
theorem Thread.Follows.at_ret {P : M.Req → List (Done σ ε) → σ.Op → Prop}
    {Q : M.Req → List (Done σ ε) → Except ε α → Prop} {t : Thread M} (h : t.Follows P Q)
    {a : α} (hr : t.rest = .ret a) : Q t.req t.history (.ok a) := by
  rcases h with ⟨e, he⟩ | hA
  · rw [hr] at he; cases he
  · rw [hr] at hA; exact hA

/-- **The assume–guarantee rule.**  If the requests that arrive rely on the answers `A` to ask for
    steps of `G` only, and in a state of `I` a step of `G` keeps `I` and answers within `A`, then `I`
    holds all along and no thread ever asks for anything else. -/
theorem Runs.relies {I : M.State → Prop} {A : (o : σ.Op) → σ.Res o → Prop} {G : σ.Op → Prop}
    {ok : Config M → Action M → Prop} {c₀ c : Config M} (H : Runs ok c₀ c)
    (hstart : ∀ c req s, ok c (.start req) → M.arrive c.state req = some s → I c.state →
      I s ∧ (M.program req).Relies A G)
    (hstep : ∀ s s' o ch r, I s → G o → M.exec o ch s = some (r, s') →
      I s' ∧ ∀ a, r = .ok a → A o a)
    (h0 : I c₀.state) (ht : ∀ t ∈ c₀.threads, t.rest.Relies A G) :
    I c.state ∧ ∀ t ∈ c.threads, t.rest.Relies A G := by
  refine H.invariant (I := fun c => I c.state ∧ ∀ t ∈ c.threads, t.rest.Relies A G) ⟨h0, ht⟩ ?_
  rintro c a c' ⟨hI, hthreads⟩ ha hn
  cases a with
  | start req =>
    obtain ⟨s, hs, rfl⟩ := Config.next_start hn
    obtain ⟨hI', hprog⟩ := hstart c req s ha hs hI
    refine ⟨hI', fun t ht => ?_⟩
    rcases List.mem_append.mp ht with ht | ht
    · exact hthreads t ht
    · rw [List.mem_singleton.mp ht]; exact hprog
  | step i ch =>
    obtain ⟨t₀, o, k, r, s, hi, hr, hx, rfl⟩ := Config.next_step hn
    have hrest := hthreads t₀ (List.mem_of_getElem? hi)
    rw [hr] at hrest
    obtain ⟨hI', hans⟩ := hstep c.state s o ch r hI hrest.1 hx
    refine ⟨hI', fun t ht => ?_⟩
    rcases List.mem_or_eq_of_mem_set ht with ht | rfl
    · exact hthreads t ht
    · exact hrest.2 r hans
  | abort i e =>
    obtain ⟨t₀, hi, _, rfl⟩ := Config.next_abort hn
    refine ⟨hI, fun t ht => ?_⟩
    rcases List.mem_or_eq_of_mem_set ht with ht | rfl
    · exact hthreads t ht
    · exact trivial

/-! ## Lasting knowledge: what the steps done so far tell about the state -/

/-- `F d s` for every step `d` that any thread has done. -/
def Config.Knows (F : Done σ ε → M.State → Prop) (c : Config M) : Prop :=
  ∀ t ∈ c.threads, ∀ d ∈ t.history, F d c.state

/-- **Knowledge lasts**: if each step establishes `F` of itself and no action of this moment spoils
    `F`, then all steps done so far are known after the action as well. -/
theorem Config.Knows.next {F : Done σ ε → M.State → Prop} {c c' : Config M} {a : Action M}
    (hk : c.Knows F) (hn : c.next a = some c') (hkeep : ∀ d, F d c.state → F d c'.state)
    (hnew : ∀ i ch t o k r, a = .step i ch → c.threads[i]? = some t → t.rest = .step o k →
      M.exec o ch c.state = some (r, c'.state) → F ⟨o, r⟩ c'.state) : c'.Knows F := by
  intro t ht d hd
  rcases Config.mem_next hn ht with ht | ⟨req, _, rfl⟩ | ⟨i, ch, t₀, o, k, r, ha, hi, hr, hx, rfl⟩ |
    ⟨i, e, t₀, _, hi, _, rfl⟩
  · exact hkeep d (hk t ht d hd)
  · exact absurd hd List.not_mem_nil
  · rcases List.mem_append.mp hd with hd | hd
    · exact hkeep d (hk t₀ (List.mem_of_getElem? hi) d hd)
    · rw [List.mem_singleton.mp hd]
      exact hnew i ch t₀ o k r ha hi hr hx
  · exact hkeep d (hk t₀ (List.mem_of_getElem? hi) d hd)

/-! ## Requests served one at a time -/

/-- At most one thread is running. -/
def Config.Solo (c : Config M) : Prop :=
  ∀ (i j : Nat) (t u : Thread M), c.threads[i]? = some t → c.threads[j]? = some u →
    t.running = true → u.running = true → i = j

theorem Config.atRest_iff {c : Config M} :
    c.atRest = true ↔ ∀ t ∈ c.threads, t.running = false := by
  simp [Config.atRest]

theorem Config.Solo.of_atRest {c : Config M} (h : c.atRest = true) : c.Solo := by
  intro i j t u ht _ hrun _
  have := Config.atRest_iff.mp h t (List.mem_of_getElem? ht)
  rw [hrun] at this; cases this

/-- The two ways of finding a thread after thread `i` was replaced. -/
theorem getElem?_set_cases {l : List (Thread M)} {i j : Nat} {t u : Thread M}
    (h : (l.set i t)[j]? = some u) : (i = j ∧ u = t) ∨ (i ≠ j ∧ l[j]? = some u) := by
  rw [List.getElem?_set] at h
  by_cases hij : i = j
  · rw [if_pos hij] at h
    split at h
    · exact Or.inl ⟨hij, (Option.some.inj h).symm⟩
    · cases h
  · rw [if_neg hij] at h
    exact Or.inr ⟨hij, h⟩

/-- The two ways of finding a thread after one joined the pool. -/
theorem getElem?_append_cases {l : List (Thread M)} {j : Nat} {t u : Thread M}
    (h : (l ++ [t])[j]? = some u) : l[j]? = some u ∨ (j = l.length ∧ u = t) := by
  rw [List.getElem?_append] at h
  split at h
  · exact Or.inl h
  · rename_i hj
    have hj0 : j - l.length = 0 := by
      rcases Nat.eq_zero_or_pos (j - l.length) with h0 | h0
      · exact h0
      · rw [List.getElem?_eq_none (show [t].length ≤ _ from h0)] at h; cases h
    rw [hj0] at h
    exact Or.inr ⟨by omega, (Option.some.inj h).symm⟩

theorem Config.Solo.next {ok : Config M → Action M → Prop}
    (hok : ∀ c a, ok c a → oneAtATime c a) {c c' : Config M} {a : Action M} (hs : c.Solo)
    (ha : ok c a) (hn : c.next a = some c') : c'.Solo := by
  intro i j t u ht hu hrt hru
  cases a with
  | start req =>
    -- nothing was running before, so only the new thread can be running now
    have hrest : c.atRest = true := hok c _ ha
    obtain ⟨s, _, rfl⟩ := Config.next_start hn
    have hidle := Config.atRest_iff.mp hrest
    rcases getElem?_append_cases ht with ht | ⟨hi, _⟩
    · rw [hidle t (List.mem_of_getElem? ht)] at hrt; cases hrt
    · rcases getElem?_append_cases hu with hu | ⟨hj, _⟩
      · rw [hidle u (List.mem_of_getElem? hu)] at hru; cases hru
      · rw [hi, hj]
  | step n ch =>
    obtain ⟨t₀, o, k, r, s, hn0, hr, _, rfl⟩ := Config.next_step hn
    have hrun0 : t₀.running = true := by rw [Thread.running, hr]; rfl
    rcases getElem?_set_cases ht with ⟨hi, _⟩ | ⟨_, ht⟩
    · rcases getElem?_set_cases hu with ⟨hj, _⟩ | ⟨hne, hu⟩
      · rw [← hi, ← hj]
      · exact absurd (hs n j t₀ u hn0 hu hrun0 hru) hne
    · rcases getElem?_set_cases hu with ⟨hj, _⟩ | ⟨_, hu⟩
      · rw [← hj]; exact hs i n t t₀ ht hn0 hrt hrun0
      · exact hs i j t u ht hu hrt hru
  | abort n e =>
    obtain ⟨t₀, hn0, hrun0, rfl⟩ := Config.next_abort hn
    rcases getElem?_set_cases ht with ⟨hi, rfl⟩ | ⟨_, ht⟩
    · cases hrt
    · rcases getElem?_set_cases hu with ⟨hj, rfl⟩ | ⟨_, hu⟩
      · cases hru
      · exact hs i j t u ht hu hrt hru

theorem Runs.solo {ok : Config M → Action M → Prop} (hok : ∀ c a, ok c a → oneAtATime c a)
    {c₀ c : Config M} (H : Runs ok c₀ c) (h0 : c₀.Solo) : c.Solo :=
  H.invariant h0 fun _ _ _ hs ha hn => hs.next hok ha hn

/-- **The rule of undisturbed knowledge.**  When requests are served one at a time, nothing happens
    between two steps of the running thread; so if `G` holds of a request that arrives and each step
    of a thread extends it, `G` holds of the running thread's history in the current state. -/
theorem Runs.running_knows {ok : Config M → Action M → Prop}
    (hok : ∀ c a, ok c a → oneAtATime c a) {G : M.Req → List (Done σ ε) → M.State → Prop}
    {c₀ c : Config M}
    (hstart : ∀ c req s, Runs ok c₀ c → ok c (.start req) → M.arrive c.state req = some s →
      G req [] s)
    (hstep : ∀ req h s o ch r s', G req h s → M.exec o ch s = some (r, s') →
      G req (h ++ [⟨o, r⟩]) s')
    (H : Runs ok c₀ c) (h0 : c₀.threads = []) :
    ∀ t ∈ c.threads, t.running = true → G t.req t.history c.state := by
  have hsolo : ∀ c, Runs ok c₀ c → c.Solo := fun c hc =>
    hc.solo hok (by intro i j t u ht; rw [h0] at ht; cases ht)
  refine H.invariant_reached (I := fun c =>
    ∀ t ∈ c.threads, t.running = true → G t.req t.history c.state)
    (by rw [h0]; intro t ht; cases ht) ?_
  intro c a c' hc ih ha hn t ht hrun
  obtain ⟨j, hj⟩ := List.getElem?_of_mem ht
  cases a with
  | start req =>
    have hrest : c.atRest = true := hok c _ ha
    obtain ⟨s, hs, rfl⟩ := Config.next_start hn
    rcases List.mem_append.mp ht with ht | ht
    · rw [Config.atRest_iff.mp hrest t ht] at hrun; cases hrun
    · rw [List.mem_singleton.mp ht]; exact hstart c req s hc ha hs
  | step n ch =>
    obtain ⟨t₀, o, k, r, s, hn0, hr, hx, rfl⟩ := Config.next_step hn
    have hrun0 : t₀.running = true := by rw [Thread.running, hr]; rfl
    rcases getElem?_set_cases hj with ⟨_, rfl⟩ | ⟨hne, hj⟩
    · exact hstep _ _ _ o ch r s (ih t₀ (List.mem_of_getElem? hn0) hrun0) hx
    · exact absurd (hsolo c hc n j t₀ t hn0 hj hrun0 hrun) hne
  | abort n e =>
    obtain ⟨t₀, _, _, rfl⟩ := Config.next_abort hn
    rcases List.mem_or_eq_of_mem_set ht with ht | rfl
    · exact ih t ht hrun
    · cases hrun

/-- Where a thread of the pool comes from: it was there, or it is the one that the action touched. -/
theorem Config.at_next {c c' : Config M} {a : Action M} (hn : c.next a = some c') {j : Nat}
    {t : Thread M} (ht : c'.threads[j]? = some t) :
    c.threads[j]? = some t ∨
    (∃ req, a = .start req ∧ j = c.threads.length ∧ t = ⟨req, [], M.program req⟩) ∨
    (∃ ch t₀ o k r, a = .step j ch ∧ c.threads[j]? = some t₀ ∧ t₀.rest = .step o k ∧
      M.exec o ch c.state = some (r, c'.state) ∧ t = ⟨t₀.req, t₀.history ++ [⟨o, r⟩], k r⟩) ∨
    (∃ e t₀, a = .abort j e ∧ c.threads[j]? = some t₀ ∧ t₀.running = true ∧
      t = ⟨t₀.req, t₀.history, .raise e⟩) := by
  cases a with
  | start req =>
    obtain ⟨s, _, rfl⟩ := Config.next_start hn
    rcases getElem?_append_cases ht with ht | ⟨hj, rfl⟩
    · exact Or.inl ht
    · exact Or.inr (Or.inl ⟨req, rfl, hj, rfl⟩)
  | step n ch =>
    obtain ⟨t₀, o, k, r, s, hn0, hr, hx, rfl⟩ := Config.next_step hn
    rcases getElem?_set_cases ht with ⟨rfl, rfl⟩ | ⟨_, ht⟩
    · exact Or.inr (Or.inr (Or.inl ⟨ch, t₀, o, k, r, rfl, hn0, hr, hx, rfl⟩))
    · exact Or.inl ht
  | abort n e =>
    obtain ⟨t₀, hn0, hrun, rfl⟩ := Config.next_abort hn
    rcases getElem?_set_cases ht with ⟨rfl, rfl⟩ | ⟨_, ht⟩
    · exact Or.inr (Or.inr (Or.inr ⟨e, t₀, rfl, hn0, hrun, rfl⟩))
    · exact Or.inl ht

/-- Where a thread of the pool goes: it stays as it is, does its step, or is cut off. -/
theorem Config.after_next {c c' : Config M} {a : Action M} (hn : c.next a = some c') {j : Nat}
    {t : Thread M} (ht : c.threads[j]? = some t) :
    c'.threads[j]? = some t ∨
    (∃ ch o k r, a = .step j ch ∧ t.rest = .step o k ∧ M.exec o ch c.state = some (r, c'.state) ∧
      c'.threads[j]? = some ⟨t.req, t.history ++ [⟨o, r⟩], k r⟩) ∨
    (∃ e, a = .abort j e ∧ t.running = true ∧
      c'.threads[j]? = some ⟨t.req, t.history, .raise e⟩) := by
  have hlt : j < c.threads.length := (List.getElem?_eq_some_iff.mp ht).1
  cases a with
  | start req =>
    obtain ⟨s, _, rfl⟩ := Config.next_start hn
    refine Or.inl ?_
    rw [List.getElem?_append_left hlt]
    exact ht
  | step n ch =>
    obtain ⟨t₀, o, k, r, s, hn0, hr, hx, rfl⟩ := Config.next_step hn
    by_cases hnj : n = j
    · subst hnj
      obtain rfl := Option.some.inj (hn0.symm.trans ht)
      exact Or.inr (Or.inl ⟨ch, o, k, r, rfl, hr, hx, List.getElem?_set_self hlt⟩)
    · refine Or.inl ?_
      show (c.threads.set n _)[j]? = some t
      rw [List.getElem?_set_ne hnj]
      exact ht
  | abort n e =>
    obtain ⟨t₀, hn0, hrun, rfl⟩ := Config.next_abort hn
    by_cases hnj : n = j
    · subst hnj
      obtain rfl := Option.some.inj (hn0.symm.trans ht)
      exact Or.inr (Or.inr ⟨e, rfl, hrun, List.getElem?_set_self hlt⟩)
    · refine Or.inl ?_
      show (c.threads.set n _)[j]? = some t
      rw [List.getElem?_set_ne hnj]
      exact ht

/-! ## Where the steps of a history were done -/

/-- A thread keeps its request, and its history only grows. -/
theorem Runs.history_grows {ok : Config M → Action M → Prop} {c c' : Config M} (H : Runs ok c c')
    {i : Nat} {t : Thread M} (ht : c.threads[i]? = some t) :
    ∃ t', c'.threads[i]? = some t' ∧ t'.req = t.req ∧ t.history <+: t'.history := by
  refine H.invariant (I := fun c' => ∃ t', c'.threads[i]? = some t' ∧ t'.req = t.req ∧
    t.history <+: t'.history) ⟨t, ht, rfl, List.prefix_refl _⟩ ?_
  rintro c a c' ⟨t', ht', hreq, hpre⟩ _ hn
  rcases Config.after_next hn ht' with ht' | ⟨_, _, _, _, _, _, _, ht'⟩ | ⟨_, _, _, ht'⟩
  · exact ⟨t', ht', hreq, hpre⟩
  · exact ⟨_, ht', hreq, hpre.trans (List.prefix_append _ _)⟩
  · exact ⟨_, ht', hreq, hpre⟩

/-- A thread stays in the pool. -/
theorem Config.thread_next {c c' : Config M} {a : Action M} (hn : c.next a = some c') {i : Nat}
    {t : Thread M} (ht : c.threads[i]? = some t) :
    ∃ t', c'.threads[i]? = some t' ∧ t'.req = t.req ∧ t.history <+: t'.history := by
  have H : Runs anyOrder c c' := Runs.single trivial hn
  exact H.history_grows ht

/-- A thread that has ended stays as it is. -/
theorem Config.ended_next {c c' : Config M} {a : Action M} (hn : c.next a = some c') {i : Nat}
    {t : Thread M} (ht : c.threads[i]? = some t) (hend : t.running = false) :
    c'.threads[i]? = some t := by
  rcases Config.after_next hn ht with ht' | ⟨_, o, k, _, _, hr, _⟩ | ⟨_, _, hrun, _⟩
  · exact ht'
  · rw [Thread.running, hr] at hend; cases hend
  · rw [hend] at hrun; cases hrun

/-- What a thread of the pool has done, it has done after an action as well. -/
theorem Config.mem_kept {c c' : Config M} {a : Action M} (hn : c.next a = some c') {t : Thread M}
    (ht : t ∈ c.threads) : ∃ t' ∈ c'.threads, t'.req = t.req ∧ t.history <+: t'.history := by
  obtain ⟨i, hi⟩ := List.getElem?_of_mem ht
  obtain ⟨t', hi', hreq, hpre⟩ := Config.thread_next hn hi
  exact ⟨t', List.mem_of_getElem? hi', hreq, hpre⟩

/-- What a thread has done, it had done before the action, or it is the step that was taken. -/
theorem Config.history_next {c c' : Config M} {a : Action M} (hn : c.next a = some c') {j : Nat}
    {u : Thread M} {d : Done σ ε} (hu : c'.threads[j]? = some u) (hd : d ∈ u.history) :
    (∃ u₀, c.threads[j]? = some u₀ ∧ u₀.req = u.req ∧ d ∈ u₀.history) ∨
      ∃ ch t, a = .step j ch ∧ c.Asks j t d.op ∧ t.req = u.req ∧
        M.exec d.op ch c.state = some (d.res, c'.state) := by
  cases a with
  | start req =>
    obtain ⟨s, _, rfl⟩ := Config.next_start hn
    rcases getElem?_append_cases hu with hu | ⟨_, rfl⟩
    · exact Or.inl ⟨u, hu, rfl, hd⟩
    · exact absurd hd List.not_mem_nil
  | step n ch =>
    obtain ⟨t, o, k, r, s, hn0, hr, hx, rfl⟩ := Config.next_step hn
    rcases getElem?_set_cases hu with ⟨rfl, rfl⟩ | ⟨_, hu⟩
    · rcases List.mem_append.mp hd with hd | hd
      · exact Or.inl ⟨t, hn0, rfl, hd⟩
      · rw [List.mem_singleton.mp hd]
        exact Or.inr ⟨ch, t, rfl, ⟨hn0, k, hr⟩, rfl, hx⟩
    · exact Or.inl ⟨u, hu, rfl, hd⟩
  | abort n e =>
    obtain ⟨t, hn0, _, rfl⟩ := Config.next_abort hn
    rcases getElem?_set_cases hu with ⟨rfl, rfl⟩ | ⟨_, hu⟩
    · exact Or.inl ⟨t, hn0, rfl, hd⟩
    · exact Or.inl ⟨u, hu, rfl, hd⟩

/-- **Every step of a history was done in some configuration of the run**, by that thread, at the
    point of its program where exactly the steps before it had been done. -/
theorem Runs.origin {ok : Config M → Action M → Prop} {c₀ c : Config M} (H : Runs ok c₀ c)
    (h0 : c₀.threads = []) {i : Nat} {t : Thread M} (ht : c.threads[i]? = some t)
    {h₁ h₂ : List (Done σ ε)} {d : Done σ ε} (hd : t.history = h₁ ++ d :: h₂) :
    ∃ c₁ c₂ ch k, Runs ok c₀ c₁ ∧ ok c₁ (.step i ch) ∧ c₁.next (.step i ch) = some c₂ ∧
      Runs ok c₂ c ∧ c₁.threads[i]? = some ⟨t.req, h₁, .step d.op k⟩ ∧
      M.exec d.op ch c₁.state = some (d.res, c₂.state) := by
  induction H generalizing t h₂ with
  | refl => rw [h0] at ht; cases ht
  | @tail b c hr hm ih =>
    obtain ⟨a, ha, hn⟩ := hm
    -- either the step is already in the history before the last action, or it is that action
    have later : ∀ {t' : Thread M} {h₂'}, b.threads[i]? = some t' → t'.req = t.req →
        t'.history = h₁ ++ d :: h₂' → ∃ c₁ c₂ ch k, Runs ok c₀ c₁ ∧ ok c₁ (.step i ch) ∧
          c₁.next (.step i ch) = some c₂ ∧ Runs ok c₂ c ∧
          c₁.threads[i]? = some ⟨t.req, h₁, .step d.op k⟩ ∧
          M.exec d.op ch c₁.state = some (d.res, c₂.state) := by
      intro t' h₂' ht' hreq hd'
      obtain ⟨c₁, c₂, ch, k, h1, h2, h3, h4, h5, h6⟩ := ih ht' hd'
      exact ⟨c₁, c₂, ch, k, h1, h2, h3, ReflTransGen.tail h4 ⟨a, ha, hn⟩, hreq ▸ h5, h6⟩
    cases a with
    | start req =>
      obtain ⟨s, _, rfl⟩ := Config.next_start hn
      rcases getElem?_append_cases ht with ht | ⟨_, rfl⟩
      · exact later ht rfl hd
      · cases h₁ <;> cases hd
    | step n ch =>
      obtain ⟨t₀, o, k, r, s, hn0, hrest, hx, rfl⟩ := Config.next_step hn
      rcases getElem?_set_cases ht with ⟨rfl, rfl⟩ | ⟨_, ht⟩
      · rcases List.eq_nil_or_concat h₂ with rfl | ⟨h₂', d', rfl⟩
        · obtain ⟨hh, hdd⟩ := List.append_inj' hd rfl
          obtain rfl := (List.cons.inj hdd).1
          refine ⟨b, _, ch, k, hr, ha, hn, ReflTransGen.refl, ?_, hx⟩
          rw [hn0, ← hh, ← hrest]
        · rw [List.concat_eq_append, ← List.cons_append, ← List.append_assoc] at hd
          obtain ⟨hh, _⟩ := List.append_inj' hd rfl
          exact later hn0 rfl hh
      · exact later ht rfl hd
    | abort n e =>
      obtain ⟨t₀, hn0, _, rfl⟩ := Config.next_abort hn
      rcases getElem?_set_cases ht with ⟨rfl, rfl⟩ | ⟨_, ht⟩
      · exact later hn0 rfl hd
      · exact later ht rfl hd

/-! ## Concrete runs -/

/-- Play a list of actions, checking that each is admissible. -/
def Config.play (ok : Config M → Action M → Prop) [∀ c a, Decidable (ok c a)] (c : Config M) :
    List (Action M) → Option (Config M)
  | [] => some c
  | a :: as =>
    if ok c a then
      match c.next a with
      | none => none
      | some c' => c'.play ok as
    else none

theorem Config.play_runs {ok : Config M → Action M → Prop} [∀ c a, Decidable (ok c a)]
    {as : List (Action M)} {c c' : Config M} (h : c.play ok as = some c') : Runs ok c c' := by
  induction as generalizing c with
  | nil => cases h; exact ReflTransGen.refl
  | cons a as ih =>
    simp only [Config.play] at h
    split at h
    · rename_i ha
      split at h
      · cases h
      · rename_i c₁ hn
        exact ReflTransGen.head ⟨a, ha, hn⟩ (ih h)
    · cases h

/-- A test of what thread `i` asks for. -/
def Config.asking (c : Config M) (i : Nat) (test : M.Req → σ.Op → Bool) : Bool :=
  match c.threads[i]? with
  | some ⟨req, _, .step o _⟩ => test req o
  | _ => false

theorem Config.asks_of_asking {c : Config M} {i : Nat} {test : M.Req → σ.Op → Bool}
    (h : c.asking i test = true) : ∃ t o, c.Asks i t o ∧ test t.req o = true := by
  unfold Config.asking at h
  split at h
  · rename_i req hist o k ht
    exact ⟨_, o, ⟨ht, k, rfl⟩, h⟩
  · cases h

/-- The configuration that a playable list of actions ends in. -/
def Config.played (ok : Config M → Action M → Prop) [∀ c a, Decidable (ok c a)] (c : Config M)
    (as : List (Action M)) (h : (c.play ok as).isSome = true) : Config M := (c.play ok as).get h

theorem Config.played_runs {ok : Config M → Action M → Prop} [∀ c a, Decidable (ok c a)]
    (c : Config M) (as : List (Action M)) (h : (c.play ok as).isSome = true) :
    Runs ok c (c.played ok as h) := Config.play_runs (Option.some_get h).symm

/-! ## Programs run alone -/

namespace System

variable {β γ : Type} {ok : σ.Op → M.Choice → Prop} {s s' : M.State}

/-- Run alone, under choices that `ok` allows, the program can take `s` to `s'` and end in `res`. -/
def Yields (M : System σ ε α) (ok : σ.Op → M.Choice → Prop) :
    Program σ ε β → M.State → Except ε β → M.State → Prop
  | .ret b, s, res, s' => res = .ok b ∧ s' = s
  | .raise e, s, res, s' => res = .error e ∧ s' = s
  | .step o k, s, res, s' => ∃ ch r s₁, ok o ch ∧ M.exec o ch s = some (r, s₁) ∧
      M.Yields ok (k r) s₁ res s'

/-- How a sequence goes on after its first part. -/
def YieldsThen (M : System σ ε α) (ok : σ.Op → M.Choice → Prop) (f : β → Program σ ε γ)
    (res : Except ε γ) (s' : M.State) : Except ε β → M.State → Prop
  | .ok b, s₁ => M.Yields ok (f b) s₁ res s'
  | .error e, s₁ => res = .error e ∧ s' = s₁

/-- **The sequencing rule.** -/
theorem yields_bind {p : Program σ ε β} {f : β → Program σ ε γ} {res : Except ε γ} :
    M.Yields ok (p >>= f) s res s' ↔
      ∃ r s₁, M.Yields ok p s r s₁ ∧ M.YieldsThen ok f res s' r s₁ := by
  show M.Yields ok (p.bind f) s res s' ↔ _
  induction p generalizing s with
  | ret b =>
    constructor
    · intro h
      exact ⟨.ok b, s, ⟨rfl, rfl⟩, h⟩
    · rintro ⟨r, s₁, ⟨rfl, rfl⟩, h⟩
      exact h
  | raise e =>
    constructor
    · intro h
      exact ⟨.error e, s, ⟨rfl, rfl⟩, h⟩
    · rintro ⟨r, s₁, ⟨rfl, rfl⟩, h⟩
      exact h
  | step o k ih =>
    constructor
    · rintro ⟨ch, r, s₁, hok, hx, h⟩
      obtain ⟨r', s₂, hp, hf⟩ := (ih r).mp h
      exact ⟨r', s₂, ⟨ch, r, s₁, hok, hx, hp⟩, hf⟩
    · rintro ⟨r', s₂, ⟨ch, r, s₁, hok, hx, hp⟩, hf⟩
      exact ⟨ch, r, s₁, hok, hx, (ih r).mpr ⟨r', s₂, hp, hf⟩⟩

/-- The rule of one step followed by the rest. -/
theorem yields_perform_bind {o : σ.Op} {f : σ.Res o → Program σ ε γ} {res : Except ε γ} :
    M.Yields ok (Program.perform o >>= f) s res s' ↔
      ∃ ch r s₁, ok o ch ∧ M.exec o ch s = some (r, s₁) ∧ M.YieldsThen ok f res s' r s₁ := by
  show (∃ ch r s₁, _ ∧ _ ∧ _) ↔ _
  refine exists_congr fun ch => exists_congr fun r => exists_congr fun s₁ =>
    and_congr_right fun _ => and_congr_right fun _ => ?_
  cases r with
  | ok a => exact Iff.rfl
  | error e => exact Iff.rfl

/-- The program alone, under the given choices. -/
def alone (M : System σ ε α) (ok : σ.Op → M.Choice → Prop) [∀ o ch, Decidable (ok o ch)] :
    Program σ ε β → List M.Choice → M.State → Option (Except ε β × M.State)
  | .ret b, _, s => some (.ok b, s)
  | .raise e, _, s => some (.error e, s)
  | .step _ _, [], _ => none
  | .step o k, ch :: chs, s =>
    if ok o ch then
      match M.exec o ch s with
      | none => none
      | some (r, s₁) => M.alone ok (k r) chs s₁
    else none

theorem yields_of_alone [∀ o ch, Decidable (ok o ch)] {p : Program σ ε β} {chs : List M.Choice}
    {res : Except ε β} (h : M.alone ok p chs s = some (res, s')) : M.Yields ok p s res s' := by
  induction p generalizing chs s with
  | ret b => cases h; exact ⟨rfl, rfl⟩
  | raise e => cases h; exact ⟨rfl, rfl⟩
  | step o k ih =>
    cases chs with
    | nil => cases h
    | cons ch chs =>
      simp only [alone] at h
      split at h
      · rename_i hok
        split at h
        · cases h
        · rename_i r s₁ hx
          exact ⟨ch, r, s₁, hok, hx, ih r h⟩
      · cases h

/-- What is left of a program that ended so. -/
def ended : Except ε β → Program σ ε β
  | .ok b => .ret b
  | .error e => .raise e

/-- **A program run alone is a run of the pool** in which only its thread takes actions. -/
theorem Yields.runs {req : M.Req} {p : Program σ ε α} {res : Except ε α}
    (h : M.Yields ok p s res s') (ts : List (Thread M)) (hist : List (Done σ ε)) :
    ∃ hist', Runs anyOrder ⟨s, ts ++ [⟨req, hist, p⟩]⟩ ⟨s', ts ++ [⟨req, hist', ended res⟩]⟩ := by
  induction p generalizing s hist with
  | ret a =>
    obtain ⟨rfl, rfl⟩ := h
    exact ⟨hist, ReflTransGen.refl⟩
  | raise e =>
    obtain ⟨rfl, rfl⟩ := h
    exact ⟨hist, ReflTransGen.refl⟩
  | step o k ih =>
    obtain ⟨ch, r, s₁, _, hx, h⟩ := h
    obtain ⟨hist', hrun⟩ := ih r h (hist ++ [⟨o, r⟩])
    refine ⟨hist', ReflTransGen.head ⟨.step ts.length ch, trivial, ?_⟩ hrun⟩
    have hget : (ts ++ [(⟨req, hist, .step o k⟩ : Thread M)])[ts.length]? =
        some ⟨req, hist, .step o k⟩ := by simp
    have hn := Config.next_step_of (c := ⟨s, ts ++ [⟨req, hist, .step o k⟩]⟩) hget hx
    rw [hn]
    simp

end System

/-! ## Requests that run to their end, one after the other -/

variable {β : Type} {ok : σ.Op → M.Choice → Prop}

/-- `ok` allows the next step of the thread, if it asks for one. -/
def Thread.allowed (ok : σ.Op → M.Choice → Prop) (ch : M.Choice) : Option (Thread M) → Prop
  | some ⟨_, _, .step o _⟩ => ok o ch
  | _ => True

/-- One at a time, each request to its end, by steps that `ok` allows. -/
def sequentially (ok : σ.Op → M.Choice → Prop) (c : Config M) : Action M → Prop
  | .start _ => c.atRest = true
  | .step i ch => Thread.allowed ok ch c.threads[i]?
  | .abort _ _ => False

theorem sequentially_oneAtATime {c : Config M} {a : Action M} (h : sequentially ok c a) :
    oneAtATime c a := by
  cases a with
  | start req => exact h
  | step i ch => trivial
  | abort i e => trivial

theorem sequentially_step {c : Config M} {i : Nat} {ch : M.Choice}
    (h : sequentially ok c (.step i ch)) {t : Thread M} {o : σ.Op}
    {k : Except ε (σ.Res o) → Program σ ε α} (ht : c.threads[i]? = some t)
    (hr : t.rest = .step o k) : ok o ch := by
  obtain ⟨req, hist, rest⟩ := t
  obtain rfl : rest = .step o k := hr
  have hallowed : Thread.allowed ok ch c.threads[i]? := h
  rw [ht] at hallowed
  exact hallowed

/-- A request that `P` allows arrives and runs alone to its end. -/
def System.Serves (M : System σ ε α) (ok : σ.Op → M.Choice → Prop) (P : M.State → M.Req → Prop)
    (s s' : M.State) : Prop :=
  ∃ req s₁ res, P s req ∧ M.arrive s req = some s₁ ∧ M.Yields ok (M.program req) s₁ res s'

/-- A request that arrived in `s` is being served: what its rest can do is what it can do as a
    whole. -/
def Underway (ok : σ.Op → M.Choice → Prop) (P : M.State → M.Req → Prop) (s : M.State)
    (c : Config M) (t : Thread M) : Prop :=
  P s t.req ∧ ∃ s₁, M.arrive s t.req = some s₁ ∧
    ∀ res s', M.Yields ok t.rest c.state res s' → M.Yields ok (M.program t.req) s₁ res s'

/-- A program that asks for no more steps has yielded its end. -/
theorem yields_of_not_running (ok : σ.Op → M.Choice → Prop) {p : Program σ ε β}
    (h : p.running = false) (s : M.State) :
    ∃ res, M.Yields ok p s res s := by
  cases p with
  | ret b => exact ⟨.ok b, rfl, rfl⟩
  | raise e => exact ⟨.error e, rfl, rfl⟩
  | step o k => cases h

/-- **A run of requests one at a time is a sequence of requests that run alone**, up to the one that
    is being served. -/
theorem Runs.sequence {ok' : Config M → Action M → Prop} {P : M.State → M.Req → Prop}
    (hok : ∀ c a, ok' c a → sequentially ok c a)
    (hP : ∀ c req, ok' c (.start req) → P c.state req) {c₀ c : Config M} (H : Runs ok' c₀ c)
    (h0 : c₀.threads = []) :
    ∃ s, ReflTransGen (M.Serves ok P) c₀.state s ∧ (c.atRest = true → c.state = s) ∧
      ∀ t ∈ c.threads, t.running = true → Underway ok P s c t := by
  have hsolo : ∀ c, Runs ok' c₀ c → c.Solo := fun c hc =>
    hc.solo (fun c a h => sequentially_oneAtATime (hok c a h))
      (by intro i j t u ht; rw [h0] at ht; cases ht)
  refine H.invariant_reached (I := fun c => ∃ s, ReflTransGen (M.Serves ok P) c₀.state s ∧
    (c.atRest = true → c.state = s) ∧ ∀ t ∈ c.threads, t.running = true → Underway ok P s c t)
    ⟨c₀.state, ReflTransGen.refl, fun _ => rfl, by rw [h0]; intro t ht; cases ht⟩ ?_
  rintro c a c' hc ⟨s, hs, hrest, hrunning⟩ ha hn
  cases a with
  | abort i e => exact (hok c _ ha).elim
  | start req =>
    have hidle : c.atRest = true := hok c _ ha
    obtain rfl := hrest hidle
    obtain ⟨s₁, harr, rfl⟩ := Config.next_start hn
    have hwhole : Underway ok P c.state ⟨s₁, c.threads ++ [⟨req, [], M.program req⟩]⟩
        (⟨req, [], M.program req⟩ : Thread M) :=
      ⟨hP c req ha, s₁, harr, fun _ _ h => h⟩
    have hold : ∀ t ∈ c.threads, t.running = true → False := fun t ht hrun => by
      rw [Config.atRest_iff.mp hidle t ht] at hrun; cases hrun
    cases hprog : (M.program req).running with
    | true =>
      refine ⟨c.state, hs, fun hrest' => ?_, fun t ht hrun => ?_⟩
      · have hended := Config.atRest_iff.mp hrest' ⟨req, [], M.program req⟩
          (List.mem_append_right _ List.mem_cons_self)
        exact absurd (hprog.symm.trans hended) (by decide)
      · rcases List.mem_append.mp ht with ht | ht
        · exact (hold t ht hrun).elim
        · rw [List.mem_singleton.mp ht]; exact hwhole
    | false =>
      -- a request that does no step at all is over when it arrives
      obtain ⟨res, hres⟩ := yields_of_not_running ok hprog s₁
      refine ⟨s₁, hs.tail ⟨req, s₁, res, hP c req ha, harr, hres⟩, fun _ => rfl, fun t ht hrun => ?_⟩
      rcases List.mem_append.mp ht with ht | ht
      · exact (hold t ht hrun).elim
      · rw [List.mem_singleton.mp ht] at hrun
        exact absurd (hprog.symm.trans hrun) (by decide)
  | step i ch =>
    obtain ⟨t, o, k, r, s₂, hi, hr, hx, rfl⟩ := Config.next_step hn
    have hrun : t.running = true := by rw [Thread.running, hr]; rfl
    obtain ⟨hPs, s₁, harr, hwhole⟩ := hrunning t (List.mem_of_getElem? hi) hrun
    have hstep : ∀ res s', M.Yields ok (k r) s₂ res s' → M.Yields ok (M.program t.req) s₁ res s' := by
      intro res s' h
      refine hwhole res s' ?_
      rw [hr]
      exact ⟨ch, r, s₂, sequentially_step (hok c _ ha) hi hr, hx, h⟩
    -- no other thread is running
    have hother : ∀ u ∈ c.threads.set i ⟨t.req, t.history ++ [⟨o, r⟩], k r⟩, u.running = true →
        u = ⟨t.req, t.history ++ [⟨o, r⟩], k r⟩ := by
      intro u hu hrunu
      obtain ⟨j, hj⟩ := List.getElem?_of_mem hu
      rcases getElem?_set_cases hj with ⟨_, rfl⟩ | ⟨hne, hj⟩
      · rfl
      · exact absurd (hsolo c hc i j t u hi hj hrun hrunu) hne
    cases hkr : (k r).running with
    | true =>
      refine ⟨s, hs, fun hrest' => ?_, fun u hu hrunu => ?_⟩
      · have hlt : i < c.threads.length := (List.getElem?_eq_some_iff.mp hi).1
        have hended := Config.atRest_iff.mp hrest' _
          (List.mem_of_getElem? (List.getElem?_set_self hlt))
        exact absurd (hkr.symm.trans hended) (by decide)
      · rw [hother u hu hrunu]
        exact ⟨hPs, s₁, harr, hstep⟩
    | false =>
      obtain ⟨res, hres⟩ := yields_of_not_running ok hkr s₂
      refine ⟨s₂, hs.tail ⟨t.req, s₁, res, hPs, harr, hstep res s₂ hres⟩, fun _ => rfl,
        fun u hu hrunu => ?_⟩
      rw [hother u hu hrunu] at hrunu
      exact absurd (hkr.symm.trans hrunu) (by decide)

/-- What every request that runs alone keeps, holds whenever no request is being served. -/
theorem Runs.at_rest {ok' : Config M → Action M → Prop} {P : M.State → M.Req → Prop}
    (hok : ∀ c a, ok' c a → sequentially ok c a)
    (hP : ∀ c req, ok' c (.start req) → P c.state req) {c₀ c : Config M} (H : Runs ok' c₀ c)
    (h0 : c₀.threads = []) {I : M.State → Prop} (hI : I c₀.state)
    (hs : ∀ s s', I s → M.Serves ok P s s' → I s') (hrest : c.atRest = true) : I c.state := by
  obtain ⟨s, hreach, hstate, -⟩ := H.sequence hok hP h0
  rw [hstate hrest]
  clear hstate
  induction hreach with
  | refl => exact hI
  | tail _ hserve ih => exact hs _ _ ih hserve

end Atomic
