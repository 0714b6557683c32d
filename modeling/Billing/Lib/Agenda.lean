/-
  WHAT THE THREADS HAVE DONE, all together, and in which order each of them.

  `Config.steps` are all steps that were done, by whatever thread.  One action adds one at most, so a
  counter or a log of the state is compared with the steps that it counts one action at a time.

  `Program.Agenda label L` says that the steps of a program to which `label` gives a label come from the
  list `L`, in its order and each entry once, whatever the steps answer.  `Runs.agenda` carries that
  over to the threads of a run.  A list of kinds bounds how much a request does of each; a list of names
  that differ from those of other requests makes all names of a run differ (`Runs.labels_nodup`).
-/
import Billing.Lib.Pool
import Mathlib.Data.List.Flatten

namespace Atomic

open Program

variable {σ τ : Sig} {ε α β κ : Type} {M : System σ ε α}

/-! ## All steps of a run -/

/-- The steps that the threads have done. -/
def Config.steps (c : Config M) : List (Done σ ε) := c.threads.flatMap Thread.history

/-- One more entry of a list that is replaced by a longer one. -/
theorem flatMap_set {γ δ : Type} {f : γ → List δ} {l : List γ} {i : Nat} {x y : γ} {d : δ}
    (hi : l[i]? = some x) (hxy : f y = f x ++ [d]) :
    ((l.set i y).flatMap f).Perm (l.flatMap f ++ [d]) := by
  induction l generalizing i with
  | nil => cases hi
  | cons z zs ih =>
    cases i with
    | zero =>
      obtain rfl : z = x := Option.some.inj hi
      rw [List.set_cons_zero, List.flatMap_cons, List.flatMap_cons, hxy, List.append_assoc,
        List.append_assoc]
      exact (List.perm_append_comm).append_left _
    | succ i =>
      rw [List.set_cons_succ, List.flatMap_cons, List.flatMap_cons, List.append_assoc]
      exact (ih (i := i) hi).append_left _

theorem flatMap_set_same {γ δ : Type} {f : γ → List δ} {l : List γ} {i : Nat} {x y : γ}
    (hi : l[i]? = some x) (hxy : f y = f x) : (l.set i y).flatMap f = l.flatMap f := by
  induction l generalizing i with
  | nil => cases hi
  | cons z zs ih =>
    cases i with
    | zero =>
      obtain rfl : z = x := Option.some.inj hi
      rw [List.set_cons_zero, List.flatMap_cons, List.flatMap_cons, hxy]
    | succ i =>
      rw [List.set_cons_succ, List.flatMap_cons, List.flatMap_cons, ih hi]

/-- **One action adds the step that it does**, if it does one. -/
theorem Config.steps_next {c c' : Config M} {a : Action M} (hn : c.next a = some c') :
    (c'.steps = c.steps ∧ (c'.state = c.state ∨ ∃ req, M.arrive c.state req = some c'.state)) ∨
      ∃ i ch t o k r, a = .step i ch ∧ c.threads[i]? = some t ∧ t.rest = .step o k ∧
        M.exec o ch c.state = some (r, c'.state) ∧ c'.steps.Perm (c.steps ++ [⟨o, r⟩]) := by
  cases a with
  | start req =>
    obtain ⟨s, harr, rfl⟩ := Config.next_start hn
    refine Or.inl ⟨?_, Or.inr ⟨req, harr⟩⟩
    unfold Config.steps
    rw [List.flatMap_append]
    exact List.append_nil _
  | abort i e =>
    obtain ⟨t, hi, -, rfl⟩ := Config.next_abort hn
    exact Or.inl ⟨flatMap_set_same hi rfl, Or.inl rfl⟩
  | step i ch =>
    obtain ⟨t, o, k, r, s, hi, hr, hx, rfl⟩ := Config.next_step hn
    exact Or.inr ⟨i, ch, t, o, k, r, rfl, hi, hr, hx, flatMap_set hi rfl⟩

/-- What is at most as frequent in each thread is so in all of them. -/
theorem Config.countP_steps_le {c : Config M} {p q : Done σ ε → Bool}
    (h : ∀ t ∈ c.threads, t.history.countP p ≤ t.history.countP q) :
    c.steps.countP p ≤ c.steps.countP q := by
  unfold Config.steps
  generalize c.threads = ts at h
  induction ts with
  | nil => exact Nat.le_refl _
  | cons t ts ih =>
    rw [List.flatMap_cons, List.countP_append, List.countP_append]
    have hhead := h t List.mem_cons_self
    have htail := ih fun u hu => h u (List.mem_cons_of_mem _ hu)
    omega

/-! ## Agendas -/

namespace Program

/-- The labelled steps of the program come from this list, in its order. -/
def Agenda (label : σ.Op → Option κ) : List κ → Program σ ε α → Prop
  | _, ret _ => True
  | _, raise _ => True
  | L, step o k =>
    match label o with
    | none => ∀ r, Agenda label L (k r)
    | some x => ∃ L₁ L₂, L = L₁ ++ x :: L₂ ∧ ∀ r, Agenda label L₂ (k r)

section Agenda

variable {label : σ.Op → Option κ} {L L' : List κ}

theorem agenda_step_none {o : σ.Op} {k : Except ε (σ.Res o) → Program σ ε α} (h : label o = none) :
    Agenda label L (step o k) ↔ ∀ r, Agenda label L (k r) := by
  rw [Agenda, h]

theorem agenda_step_some {o : σ.Op} {k : Except ε (σ.Res o) → Program σ ε α} {x : κ}
    (h : label o = some x) : Agenda label L (step o k) ↔
      ∃ L₁ L₂, L = L₁ ++ x :: L₂ ∧ ∀ r, Agenda label L₂ (k r) := by
  rw [Agenda, h]

/-- More may be put in front of an agenda. -/
theorem Agenda.before {p : Program σ ε α} (h : Agenda label L p) (L₀ : List κ) :
    Agenda label (L₀ ++ L) p := by
  induction p with
  | ret a => exact trivial
  | raise e => exact trivial
  | step o k ih =>
    cases hlabel : label o with
    | none =>
      rw [agenda_step_none hlabel] at h ⊢
      exact fun r => ih r (h r)
    | some x =>
      rw [agenda_step_some hlabel] at h ⊢
      obtain ⟨L₁, L₂, rfl, hrest⟩ := h
      exact ⟨L₀ ++ L₁, L₂, (List.append_assoc ..).symm, hrest⟩

/-- **The sequencing rule**: one agenda after the other. -/
theorem Agenda.bind {p : Program σ ε α} {f : α → Program σ ε β} (hp : Agenda label L p)
    (hf : ∀ a, Agenda label L' (f a)) : Agenda label (L ++ L') (p >>= f) := by
  show Agenda label (L ++ L') (p.bind f)
  induction p generalizing L with
  | ret a => exact (hf a).before L
  | raise e => exact trivial
  | step o k ih =>
    show Agenda label (L ++ L') (step o fun r => (k r).bind f)
    cases hlabel : label o with
    | none =>
      rw [agenda_step_none hlabel] at hp ⊢
      exact fun r => ih r (hp r)
    | some x =>
      rw [agenda_step_some hlabel] at hp ⊢
      obtain ⟨L₁, L₂, rfl, hrest⟩ := hp
      exact ⟨L₁, L₂ ++ L', List.append_assoc .., fun r => ih r (hrest r)⟩

/-- What a program returns may be wrapped. -/
theorem Agenda.map {p : Program σ ε α} (hp : Agenda label L p) (f : α → β) :
    Agenda label L (p >>= fun a => ret (f a)) := by
  have hwrap : ∀ a, Agenda label [] (ret (f a) : Program σ ε β) := fun a => trivial
  have hbind := hp.bind hwrap
  rwa [List.append_nil] at hbind

/-- The rule of a step with the label that is next. -/
theorem Agenda.perform_bind {o : σ.Op} {x : κ} {f : σ.Res o → Program σ ε α} (ho : label o = some x)
    (hf : ∀ a, Agenda label L (f a)) : Agenda label (x :: L) (perform o >>= f) := by
  refine (agenda_step_some ho).mpr ⟨[], L, rfl, fun r => ?_⟩
  cases r with
  | ok a => exact hf a
  | error e => exact trivial

/-- The rule of a step without a label. -/
theorem Agenda.perform_bind_none {o : σ.Op} {f : σ.Res o → Program σ ε α} (ho : label o = none)
    (hf : ∀ a, Agenda label L (f a)) : Agenda label L (perform o >>= f) := by
  refine (agenda_step_none ho).mpr fun r => ?_
  cases r with
  | ok a => exact hf a
  | error e => exact trivial

theorem Agenda.ofExcept_bind {x : Except ε α} {f : α → Program σ ε β}
    (hf : ∀ a, x = .ok a → Agenda label L (f a)) : Agenda label L (ofExcept x >>= f) := by
  cases x with
  | ok a => exact hf a rfl
  | error e => exact trivial

theorem Agenda.ofExcept (x : Except ε α) : Agenda label L (Program.ofExcept x : Program σ ε α) := by
  cases x with
  | ok a => exact trivial
  | error e => exact trivial

/-- Nothing is on the agenda of a program whose steps have no label. -/
theorem Agenda.of_none (h : ∀ o, label o = none) (p : Program σ ε α) : Agenda label L p := by
  induction p with
  | ret a => exact trivial
  | raise e => exact trivial
  | step o k ih => exact (agenda_step_none (h o)).mpr ih

/-- The rule of an embedded program. -/
theorem Agenda.embed {f : σ.Op → τ.Op} {g : ∀ o, τ.Res (f o) → σ.Res o} {label : τ.Op → Option κ}
    {p : Program σ ε α} (h : Agenda (label ∘ f) L p) : Agenda label L (p.embed f g) := by
  induction p generalizing L with
  | ret a => exact trivial
  | raise e => exact trivial
  | step o k ih =>
    cases hlabel : label (f o) with
    | none =>
      have hnone : (label ∘ f) o = none := hlabel
      have h' := (agenda_step_none hnone).mp h
      exact (agenda_step_none hlabel).mpr fun r => ih _ (h' _)
    | some x =>
      have hsome : (label ∘ f) o = some x := hlabel
      obtain ⟨L₁, L₂, hL, h'⟩ := (agenda_step_some hsome).mp h
      exact (agenda_step_some hlabel).mpr ⟨L₁, L₂, hL, fun r => ih _ (h' _)⟩

end Agenda

end Program

/-- The labels of the steps that were done. -/
def labels (label : σ.Op → Option κ) (h : List (Done σ ε)) : List κ := h.filterMap fun d => label d.op

section Agendas

variable {label : σ.Op → Option κ} {L : M.Req → List κ} {c c₀ : Config M}
  {ok : Config M → Action M → Prop}

theorem labels_append (h h' : List (Done σ ε)) : labels label (h ++ h') = labels label h ++ labels label h' :=
  List.filterMap_append

/-- What a thread has done and what its program has left of the agenda. -/
def Thread.OnAgenda (label : σ.Op → Option κ) (L : M.Req → List κ) (t : Thread M) : Prop :=
  ∃ rest, (labels label t.history ++ rest).Sublist (L t.req) ∧ t.rest.Agenda label rest

theorem Thread.OnAgenda.step {t : Thread M} (h : t.OnAgenda label L) {o : σ.Op}
    {k : Except ε (σ.Res o) → Program σ ε α} (hr : t.rest = .step o k) (r : Except ε (σ.Res o)) :
    (⟨t.req, t.history ++ [⟨o, r⟩], k r⟩ : Thread M).OnAgenda label L := by
  obtain ⟨rest, hsub, hagenda⟩ := h
  rw [hr] at hagenda
  cases hlabel : label o with
  | none =>
    refine ⟨rest, ?_, (agenda_step_none hlabel).mp hagenda r⟩
    have hnone : labels label [(⟨o, r⟩ : Done σ ε)] = [] := by simp [labels, hlabel]
    rw [labels_append, hnone, List.append_nil]
    exact hsub
  | some x =>
    obtain ⟨L₁, L₂, rfl, hrest⟩ := (agenda_step_some hlabel).mp hagenda
    refine ⟨L₂, ?_, hrest r⟩
    have hsome : labels label [(⟨o, r⟩ : Done σ ε)] = [x] := by simp [labels, hlabel]
    rw [labels_append, hsome, List.append_assoc, List.singleton_append]
    exact (List.Sublist.append_left (List.sublist_append_right L₁ (x :: L₂)) _).trans hsub

/-- **Every thread keeps to its agenda.** -/
theorem Runs.agenda (H : Runs ok c₀ c) (hprog : ∀ req, (M.program req).Agenda label (L req))
    (h0 : c₀.threads = []) : ∀ t ∈ c.threads, (labels label t.history).Sublist (L t.req) := by
  have hc : ∀ t ∈ c.threads, t.OnAgenda label L := by
    refine H.invariant (I := fun c => ∀ t ∈ c.threads, t.OnAgenda label L) ?_ ?_
    · rw [h0]
      exact fun _ ht => absurd ht List.not_mem_nil
    · intro c a c' ih _ hn t ht
      rcases Config.mem_next hn ht with ht | ⟨req, -, rfl⟩ | ⟨i, ch, t₀, o, k, r, -, hi, hr, -, rfl⟩ |
        ⟨i, e, t₀, -, hi, -, rfl⟩
      · exact ih t ht
      · exact ⟨L req, List.Sublist.refl _, hprog req⟩
      · exact (ih t₀ (List.mem_of_getElem? hi)).step hr r
      · obtain ⟨rest, hsub, -⟩ := ih t₀ (List.mem_of_getElem? hi)
        exact ⟨rest, hsub, trivial⟩
  intro t ht
  obtain ⟨rest, hsub, -⟩ := hc t ht
  exact (List.sublist_append_left _ rest).trans hsub

/-- The labels of all steps are a part of all agendas. -/
theorem labels_steps_sublist (h : ∀ t ∈ c.threads, (labels label t.history).Sublist (L t.req)) :
    (labels label c.steps).Sublist (c.reqs.flatMap L) := by
  have hsteps : labels label c.steps = c.threads.flatMap fun t => labels label t.history :=
    List.filterMap_flatMap ..
  have hreqs : c.reqs.flatMap L = c.threads.flatMap fun t => L t.req := List.flatMap_map ..
  rw [hsteps, hreqs]
  exact List.Sublist.flatMap_right _ h

/-- **Labels that no two requests share occur once in a run.** -/
theorem Runs.labels_nodup (H : Runs ok c₀ c) (hprog : ∀ req, (M.program req).Agenda label (L req))
    (h0 : c₀.threads = []) (hnd : (c.reqs.flatMap L).Nodup) : (labels label c.steps).Nodup :=
  (labels_steps_sublist (H.agenda hprog h0)).nodup hnd

end Agendas

end Atomic
