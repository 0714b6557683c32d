/-
  THREADS THAT KEEP TO PLACES OF THEIR OWN.

  The shared state is looked at as a map from places to values.  `Places` says that a system is local:
  a step concerns one place at most, changes no other, and what it answers and makes of its place
  depends on nothing else.  A program is `Confined` to a list of places if, run alone from a state, it
  only asks for steps at these.

  What the environment decides is fixed for each request (`fixed`), so a request that runs alone does
  one thing (`Alone`).  For requests with separate places:

  * `Confined.frame`, `Confined.transfer` — alone, a request changes its own places only, and does the
                                            same wherever these hold the same;
  * `Runs.apart`                          — in every interleaving each thread does what its request does
                                            alone from the first state, and each place ends as its owner
                                            leaves it;
  * `Serially.apart`, `Serially.exists`   — so it is when they run one after the other, and they can;
  * `interleaving_eq_serial`              — hence every interleaving ends like every sequence.

  The induction over an interleaving keeps, for each thread, the state it would be in alone.
-/
import Billing.Lib.Pool

namespace Atomic

open Relation

variable {σ : Sig} {ε α : Type}

/-- A way to look at the state of a system as places, which its steps respect. -/
structure Places (M : System σ ε α) where
  /-- The places. -/
  Place : Type
  /-- What a place can hold. -/
  Val : Place → Type
  /-- What the place holds in a state. -/
  look : M.State → (l : Place) → Val l
  /-- The place that a step concerns. -/
  place : σ.Op → Option Place
  /-- A step leaves all other places alone. -/
  frame : ∀ {o ch s r s' l}, M.exec o ch s = some (r, s') → place o ≠ some l → look s' l = look s l
  /-- What a step does depends on its place alone. -/
  depends : ∀ {o ch s t r s'}, (∀ l, place o = some l → look t l = look s l) →
    M.exec o ch s = some (r, s') →
    ∃ t', M.exec o ch t = some (r, t') ∧ ∀ l, place o = some l → look t' l = look s' l
  /-- A request that arrives changes no place. -/
  arrives : ∀ {s req s' l}, M.arrive s req = some s' → look s' l = look s l

variable {M : System σ ε α} {P : Places M} {β γ : Type}

/-- The two states hold the same at these places. -/
def Places.Agree (P : Places M) (F : List P.Place) (s t : M.State) : Prop :=
  ∀ l ∈ F, P.look s l = P.look t l

/-! ## One request alone -/

/-- Run alone, with the environment's decisions fixed, the program takes `s` to `s'` and ends in `res`. -/
abbrev System.Alone (M : System σ ε α) (ch : σ.Op → M.Choice) (p : Program σ ε β) (s : M.State)
    (res : Except ε β) (s' : M.State) : Prop := M.Yields (fun o c => c = ch o) p s res s'

section Alone

variable {ch : σ.Op → M.Choice} {s s' t : M.State} {res : Except ε β} {F : List P.Place}

/-- The program asks for steps at the places `F` only, when it runs alone from `s`. -/
def Places.Confined (P : Places M) (ch : σ.Op → M.Choice) (F : List P.Place) :
    Program σ ε β → M.State → Prop
  | .step o k, s => (∀ l, P.place o = some l → l ∈ F) ∧
      ∀ r s', M.exec o (ch o) s = some (r, s') → P.Confined ch F (k r) s'
  | .ret _, _ => True
  | .raise _, _ => True

/-- **Alone, a confined program changes its own places only.** -/
theorem Confined.frame {p : Program σ ε β} (hp : P.Confined ch F p s) (h : M.Alone ch p s res s')
    {l : P.Place} (hl : l ∉ F) : P.look s' l = P.look s l := by
  induction p generalizing s with
  | ret b => rw [h.2]
  | raise e => rw [h.2]
  | step o k ih =>
    obtain ⟨c, r, s₁, rfl, hx, hrest⟩ := h
    have hne : P.place o ≠ some l := fun ho => hl (hp.1 l ho)
    exact (ih r (hp.2 r s₁ hx) hrest).trans (P.frame hx hne)

/-- One step from two states that agree. -/
theorem Places.Agree.step {o : σ.Op} {c : M.Choice} {r : Except ε (σ.Res o)} {s₁ t₁ : M.State}
    (h : P.Agree F t s) (hs : M.exec o c s = some (r, s₁)) (ht : M.exec o c t = some (r, t₁))
    (hown : ∀ l, P.place o = some l → P.look t₁ l = P.look s₁ l) : P.Agree F t₁ s₁ := by
  intro l hl
  by_cases ho : P.place o = some l
  · exact hown l ho
  · rw [P.frame ht ho, P.frame hs ho]
    exact h l hl

/-- **A confined program does the same wherever its places hold the same.** -/
theorem Confined.transfer {p : Program σ ε β} (hp : P.Confined ch F p s)
    (h : M.Alone ch p s res s') (hagree : P.Agree F t s) :
    ∃ t', M.Alone ch p t res t' ∧ P.Agree F t' s' := by
  induction p generalizing s t with
  | ret b =>
    obtain ⟨rfl, rfl⟩ := h
    exact ⟨t, ⟨rfl, rfl⟩, hagree⟩
  | raise e =>
    obtain ⟨rfl, rfl⟩ := h
    exact ⟨t, ⟨rfl, rfl⟩, hagree⟩
  | step o k ih =>
    obtain ⟨c, r, s₁, rfl, hx, hrest⟩ := h
    obtain ⟨t₁, ht, hown⟩ := P.depends (fun l hl => hagree l (hp.1 l hl)) hx
    obtain ⟨t', ht', hagree'⟩ := ih r (hp.2 r s₁ hx) hrest (hagree.step hx ht hown)
    exact ⟨t', ⟨_, r, t₁, rfl, ht, ht'⟩, hagree'⟩

/-- What happens alone is determined. -/
theorem alone_unique {p : Program σ ε β} {res' : Except ε β} {s'' : M.State}
    (h : M.Alone ch p s res s') (h' : M.Alone ch p s res' s'') : res' = res ∧ s'' = s' := by
  induction p generalizing s with
  | ret b => exact ⟨h'.1.trans h.1.symm, h'.2.trans h.2.symm⟩
  | raise e => exact ⟨h'.1.trans h.1.symm, h'.2.trans h.2.symm⟩
  | step o k ih =>
    obtain ⟨c, r, s₁, rfl, hx, hrest⟩ := h
    obtain ⟨c', r', s₂, rfl, hx', hrest'⟩ := h'
    obtain ⟨rfl, rfl⟩ := Prod.mk.inj (Option.some.inj (hx.symm.trans hx'))
    exact ih r hrest hrest'

/-! ### Rules for confined programs -/

theorem confined_bind {p : Program σ ε β} {f : β → Program σ ε γ} (hp : P.Confined ch F p s)
    (hf : ∀ b s', P.Confined ch F (f b) s') : P.Confined ch F (p >>= f) s := by
  show P.Confined ch F (p.bind f) s
  induction p generalizing s with
  | ret b => exact hf b s
  | raise e => trivial
  | step o k ih => exact ⟨hp.1, fun r s' hx => ih r (hp.2 r s' hx)⟩

theorem confined_perform_bind {o : σ.Op} {f : σ.Res o → Program σ ε β}
    (ho : ∀ l, P.place o = some l → l ∈ F)
    (hf : ∀ a s', M.exec o (ch o) s = some (.ok a, s') → P.Confined ch F (f a) s') :
    P.Confined ch F (Program.perform o >>= f) s := by
  refine ⟨ho, fun r s' hx => ?_⟩
  cases r with
  | ok a => exact hf a s' hx
  | error e => trivial

theorem confined_ofExcept_bind {x : Except ε β} {f : β → Program σ ε γ}
    (hf : ∀ b, x = .ok b → P.Confined ch F (f b) s) :
    P.Confined ch F (Program.ofExcept x >>= f) s := by
  cases x with
  | ok b => exact hf b rfl
  | error e => trivial

/-- Steps that concern no place are confined to any. -/
theorem confined_embed {τ : Sig} {f : τ.Op → σ.Op} {g : ∀ o, σ.Res (f o) → τ.Res o}
    (hf : ∀ o, P.place (f o) = none) (p : Program τ ε β) (s : M.State) :
    P.Confined ch F (p.embed f g) s := by
  induction p generalizing s with
  | ret b => trivial
  | raise e => trivial
  | step o k ih =>
    refine ⟨fun l hl => ?_, fun r s' _ => ih _ s'⟩
    rw [hf o] at hl
    cases hl

end Alone

/-! ## Many requests with separate places -/

variable {choices : M.Req → σ.Op → M.Choice} {F : M.Req → List P.Place}

/-- The choice is the one that is fixed for the next step of the thread, if it asks for one. -/
def Thread.takes (choices : M.Req → σ.Op → M.Choice) (ch : M.Choice) : Option (Thread M) → Prop
  | some ⟨req, _, .step o _⟩ => ch = choices req o
  | _ => True

/-- All interleavings, when the environment's decisions are fixed for each request. -/
def fixed (choices : M.Req → σ.Op → M.Choice) (c : Config M) : Action M → Prop
  | .start _ => True
  | .step i ch => Thread.takes choices ch c.threads[i]?
  | .abort _ _ => False

theorem fixed_step {c : Config M} {i : Nat} {ch : M.Choice} (h : fixed choices c (.step i ch))
    {t : Thread M} {o : σ.Op} {k : Except ε (σ.Res o) → Program σ ε α}
    (ht : c.threads[i]? = some t) (hr : t.rest = .step o k) : ch = choices t.req o := by
  obtain ⟨req, hist, rest⟩ := t
  obtain rfl : rest = .step o k := hr
  have htakes : Thread.takes choices ch c.threads[i]? := h
  rw [ht] at htakes
  exact htakes

/-- The requests have no place in common. -/
abbrev Places.Separate (P : Places M) (F : M.Req → List P.Place) (req req' : M.Req) : Prop :=
  ∀ l ∈ F req, l ∉ F req'

theorem separate_of_ne {c : Config M} (h : c.reqs.Pairwise (P.Separate F)) {i j : Nat}
    {t u : Thread M} (ht : c.threads[i]? = some t) (hu : c.threads[j]? = some u) (hij : i ≠ j) :
    P.Separate F t.req u.req := by
  have hti : c.reqs[i]? = some t.req := by rw [Config.reqs, List.getElem?_map, ht]; rfl
  have huj : c.reqs[j]? = some u.req := by rw [Config.reqs, List.getElem?_map, hu]; rfl
  obtain ⟨hi, hti⟩ := List.getElem?_eq_some_iff.mp hti
  obtain ⟨hj, huj⟩ := List.getElem?_eq_some_iff.mp huj
  rcases Nat.lt_or_gt_of_ne hij with hlt | hgt
  · have hsep := List.pairwise_iff_getElem.mp h i j hi hj hlt
    rw [hti, huj] at hsep
    exact hsep
  · have hsep := List.pairwise_iff_getElem.mp h j i hj hi hgt
    rw [hti, huj] at hsep
    exact fun l hl hl' => hsep l hl' hl

/-- The thread does what its request would do alone from `s`: in some state that holds the same at
    its places, its rest is what is left to do alone. -/
def Places.OnTrack (P : Places M) (choices : M.Req → σ.Op → M.Choice) (F : M.Req → List P.Place)
    (s : M.State) (c : Config M) (t : Thread M) : Prop :=
  ∃ own, P.Confined (choices t.req) (F t.req) t.rest own ∧ P.Agree (F t.req) c.state own ∧
    ∀ res s', M.Alone (choices t.req) t.rest own res s' →
      M.Alone (choices t.req) (M.program t.req) s res s'

/-- All threads do what they would do alone, and what is nobody's is as it was. -/
def Places.Apart (P : Places M) (choices : M.Req → σ.Op → M.Choice) (F : M.Req → List P.Place)
    (s : M.State) (c : Config M) : Prop :=
  (∀ t ∈ c.threads, P.OnTrack choices F s c t) ∧
    ∀ l, (∀ req ∈ c.reqs, l ∉ F req) → P.look c.state l = P.look s l

section Interleaved

variable {s : M.State} (hconf : ∀ req, P.Confined (choices req) (F req) (M.program req) s)
include hconf

/-- A request that arrives finds its places as they were. -/
theorem Places.Apart.start {c c' : Config M} {req : M.Req} (h : P.Apart choices F s c)
    (hsep : c'.reqs.Pairwise (P.Separate F)) (hn : c.next (.start req) = some c') :
    P.Apart choices F s c' := by
  obtain ⟨s₁, harr, rfl⟩ := Config.next_start hn
  have hreqs : (⟨s₁, c.threads ++ [⟨req, [], M.program req⟩]⟩ : Config M).reqs = c.reqs ++ [req] := by
    simp only [Config.reqs, List.map_append, List.map_cons, List.map_nil]
  rw [hreqs] at hsep
  refine ⟨fun t ht => ?_, fun l hl => ?_⟩
  · rcases List.mem_append.mp ht with ht | ht
    · obtain ⟨own, hown, hagree, hwhole⟩ := h.1 t ht
      exact ⟨own, hown, fun l hl => (P.arrives harr).trans (hagree l hl), hwhole⟩
    · rw [List.mem_singleton.mp ht]
      refine ⟨s, hconf req, fun l hl => ?_, fun res s' halone => halone⟩
      have hfree : ∀ req' ∈ c.reqs, l ∉ F req' := fun req' hreq' hl' =>
        (List.pairwise_append.mp hsep).2.2 req' hreq' req List.mem_cons_self l hl' hl
      exact (P.arrives harr).trans (h.2 l hfree)
  · rw [hreqs] at hl
    exact (P.arrives harr).trans (h.2 l fun req' hreq' => hl req' (List.mem_append_left _ hreq'))

omit hconf in
/-- A step moves its own thread on, and no other notices. -/
theorem Places.Apart.step {c c' : Config M} {i : Nat} {ch : M.Choice} (h : P.Apart choices F s c)
    (hsep : c.reqs.Pairwise (P.Separate F)) (hok : fixed choices c (.step i ch))
    (hn : c.next (.step i ch) = some c') : P.Apart choices F s c' := by
  obtain ⟨t, o, k, r, s₁, hi, hr, hx, rfl⟩ := Config.next_step hn
  obtain rfl := fixed_step hok hi hr
  have hmem : t ∈ c.threads := List.mem_of_getElem? hi
  obtain ⟨own, hown, hagree, hwhole⟩ := h.1 t hmem
  rw [hr] at hown hwhole
  refine ⟨fun u hu => ?_, fun l hl => ?_⟩
  · obtain ⟨j, hj⟩ := List.getElem?_of_mem hu
    rcases getElem?_set_cases hj with ⟨_, rfl⟩ | ⟨hne, hj⟩
    · -- its own state moves on by the same step
      obtain ⟨own', hx', hlook⟩ :=
        P.depends (fun l hl => (hagree l (hown.1 l hl)).symm) hx
      refine ⟨own', hown.2 r own' hx', hagree.step hx' hx fun l hl => (hlook l hl).symm, ?_⟩
      intro res s' halone
      exact hwhole res s' ⟨_, r, own', rfl, hx', halone⟩
    · obtain ⟨ownu, hownu, hagreeu, hwholeu⟩ := h.1 u (List.mem_of_getElem? hj)
      refine ⟨ownu, hownu, fun l hl => ?_, hwholeu⟩
      have hother : P.place o ≠ some l := fun ho =>
        separate_of_ne hsep hi hj hne l (hown.1 l ho) hl
      exact (P.frame hx hother).trans (hagreeu l hl)
  · have hreqs : (⟨s₁, c.threads.set i ⟨t.req, t.history ++ [⟨o, r⟩], k r⟩⟩ : Config M).reqs =
        c.reqs := Config.reqs_set hi rfl
    rw [hreqs] at hl
    have hother : P.place o ≠ some l := fun ho =>
      hl t.req (List.mem_map_of_mem hmem) (hown.1 l ho)
    exact (P.frame hx hother).trans (h.2 l hl)

/-- **In every interleaving each thread does what its request does alone.** -/
theorem Runs.apart {c : Config M} (H : Runs (fixed choices) ⟨s, []⟩ c)
    (hsep : c.reqs.Pairwise (P.Separate F)) : P.Apart choices F s c := by
  refine H.invariant (I := fun c => c.reqs.Pairwise (P.Separate F) → P.Apart choices F s c)
    (fun _ => ⟨fun t ht => absurd ht List.not_mem_nil, fun l _ => rfl⟩) ?_ hsep
  intro c a c' ih hok hn hsep'
  have hsep : c.reqs.Pairwise (P.Separate F) := by
    rcases Config.reqs_next hn with heq | ⟨req, -, heq⟩
    · rwa [heq] at hsep'
    · rw [heq] at hsep'
      exact (List.pairwise_append.mp hsep').1
  cases a with
  | start req => exact Places.Apart.start hconf (ih hsep) hsep' hn
  | step i ch => exact Places.Apart.step (ih hsep) hsep hok hn
  | abort i e => exact hok.elim

/-- At rest, each thread has ended as its request ends alone. -/
theorem Runs.apart_at_rest {c : Config M} (H : Runs (fixed choices) ⟨s, []⟩ c)
    (hsep : c.reqs.Pairwise (P.Separate F)) (hrest : c.atRest = true) {t : Thread M}
    (ht : t ∈ c.threads) :
    ∃ res s', t.rest = System.ended res ∧ M.Alone (choices t.req) (M.program t.req) s res s' ∧
      P.Agree (F t.req) c.state s' := by
  obtain ⟨own, -, hagree, hwhole⟩ := (H.apart hconf hsep).1 t ht
  have hended : t.rest.running = false := Config.atRest_iff.mp hrest t ht
  cases hr : t.rest with
  | ret a => rw [hr] at hwhole; exact ⟨.ok a, own, rfl, hwhole (.ok a) own ⟨rfl, rfl⟩, hagree⟩
  | raise e => rw [hr] at hwhole; exact ⟨.error e, own, rfl, hwhole (.error e) own ⟨rfl, rfl⟩, hagree⟩
  | step o k => rw [hr] at hended; cases hended

end Interleaved

/-! ## One after the other -/

/-- The requests arrive and run to their end one after the other, and end in `rs`. -/
def System.Serially (M : System σ ε α) (choices : M.Req → σ.Op → M.Choice) :
    List M.Req → M.State → List (Except ε α) → M.State → Prop
  | [], s, rs, s' => rs = [] ∧ s' = s
  | req :: reqs, s, rs, s' => ∃ s₁ res s₂ rs', M.arrive s req = some s₁ ∧
      M.Alone (choices req) (M.program req) s₁ res s₂ ∧ M.Serially choices reqs s₂ rs' s' ∧
      rs = res :: rs'

/-- Each request can arrive when those before it have run. -/
def System.Welcomes (M : System σ ε α) (choices : M.Req → σ.Op → M.Choice) :
    List M.Req → M.State → Prop
  | [], _ => True
  | req :: reqs, s => ∃ s₁, M.arrive s req = some s₁ ∧
      ∀ res s₂, M.Alone (choices req) (M.program req) s₁ res s₂ → M.Welcomes choices reqs s₂

section Sequence

variable (hconf : ∀ req s, P.Confined (choices req) (F req) (M.program req) s)
include hconf

/-- What is nobody's, stays as it is. -/
theorem Serially.frame {reqs : List M.Req} {s s' : M.State} {rs : List (Except ε α)}
    (h : M.Serially choices reqs s rs s') {l : P.Place} (hl : ∀ req ∈ reqs, l ∉ F req) :
    P.look s' l = P.look s l := by
  induction reqs generalizing s rs with
  | nil => rw [h.2]
  | cons req reqs ih =>
    obtain ⟨s₁, res, s₂, rs', harr, halone, hrest, rfl⟩ := h
    calc P.look s' l = P.look s₂ l := ih hrest fun req' hreq' => hl req' (List.mem_cons_of_mem _ hreq')
      _ = P.look s₁ l := Confined.frame (hconf req s₁) halone (hl req List.mem_cons_self)
      _ = P.look s l := P.arrives harr

/-- **In a sequence each request does what it does alone.** -/
theorem Serially.apart {reqs : List M.Req} {s s' : M.State} {rs : List (Except ε α)}
    (h : M.Serially choices reqs s rs s') (hsep : reqs.Pairwise (P.Separate F)) {req : M.Req}
    (hreq : req ∈ reqs) :
    ∃ res u, (req, res) ∈ reqs.zip rs ∧ M.Alone (choices req) (M.program req) s res u ∧
      P.Agree (F req) s' u := by
  induction reqs generalizing s rs with
  | nil => cases hreq
  | cons first reqs ih =>
    obtain ⟨s₁, res, s₂, rs', harr, halone, hrest, rfl⟩ := h
    obtain ⟨hfirst, hsep⟩ := List.pairwise_cons.mp hsep
    have harrived : ∀ l, P.look s l = P.look s₁ l := fun l => (P.arrives harr).symm
    rcases List.mem_cons.mp hreq with rfl | hreq
    · -- those that come later leave its places alone
      obtain ⟨u, hu, hagree⟩ := Confined.transfer (hconf req s₁) halone fun l _ => harrived l
      refine ⟨res, u, List.mem_cons_self, hu, fun l hl => ?_⟩
      have hlater : ∀ req' ∈ reqs, l ∉ F req' := fun req' hreq' => hfirst req' hreq' l hl
      exact (Serially.frame hconf hrest hlater).trans (hagree l hl).symm
    · -- those that came before it left its places alone
      obtain ⟨res', u₂, hzip, hu₂, hagree₂⟩ := ih hrest hsep hreq
      have hbefore : P.Agree (F req) s s₂ := fun l hl => by
        have hnot : l ∉ F first := fun hl' => hfirst req hreq l hl' hl
        exact (harrived l).trans (Confined.frame (hconf first s₁) halone hnot).symm
      obtain ⟨u, hu, hagree⟩ := Confined.transfer (hconf req s₂) hu₂ hbefore
      refine ⟨res', u, List.mem_cons_of_mem _ hzip, hu, fun l hl => ?_⟩
      exact (hagree₂ l hl).trans (hagree l hl).symm

/-- What can run alone and is welcome can run in a sequence. -/
theorem Serially.exists {reqs : List M.Req} {s : M.State} (hw : M.Welcomes choices reqs s)
    (hsep : reqs.Pairwise (P.Separate F))
    (halone : ∀ req ∈ reqs, ∃ res s', M.Alone (choices req) (M.program req) s res s') :
    ∃ rs s', M.Serially choices reqs s rs s' := by
  induction reqs generalizing s with
  | nil => exact ⟨[], s, rfl, rfl⟩
  | cons first reqs ih =>
    obtain ⟨s₁, harr, hnext⟩ := hw
    obtain ⟨hfirst, hsep⟩ := List.pairwise_cons.mp hsep
    have harrived : ∀ l, P.look s₁ l = P.look s l := fun l => P.arrives harr
    obtain ⟨res, u, hu⟩ := halone first List.mem_cons_self
    obtain ⟨s₂, hs₂, -⟩ := Confined.transfer (hconf first s) hu fun l _ => harrived l
    have hlater : ∀ req ∈ reqs, ∃ res s', M.Alone (choices req) (M.program req) s₂ res s' := by
      intro req hreq
      obtain ⟨res', u', hu'⟩ := halone req (List.mem_cons_of_mem _ hreq)
      have hagree : P.Agree (F req) s₂ s := fun l hl => by
        have hnot : l ∉ F first := fun hl' => hfirst req hreq l hl' hl
        exact (Confined.frame (hconf first s₁) hs₂ hnot).trans (harrived l)
      obtain ⟨v, hv, -⟩ := Confined.transfer (hconf req s) hu' hagree
      exact ⟨res', v, hv⟩
    obtain ⟨rs, s', hrest⟩ := ih (hnext res s₂ hs₂) hsep hlater
    exact ⟨res :: rs, s', s₁, res, s₂, rs, harr, hs₂, hrest, rfl⟩

/-- **Every interleaving ends like every sequence**: in the same state, place by place, and with the
    same results. -/
theorem interleaving_eq_serial {c : Config M} {s u : M.State} {order : List M.Req}
    {rs : List (Except ε α)} (H : Runs (fixed choices) ⟨s, []⟩ c) (hrest : c.atRest = true)
    (hsep : c.reqs.Pairwise (P.Separate F)) (hperm : order.Perm c.reqs)
    (h : M.Serially choices order s rs u) :
    (∀ l, P.look u l = P.look c.state l) ∧
      ∀ t ∈ c.threads, ∃ res, t.rest = System.ended res ∧ (t.req, res) ∈ order.zip rs := by
  have hsymm : ∀ {req req'}, P.Separate F req req' → P.Separate F req' req :=
    fun hs l hl hl' => hs l hl' hl
  have hsep' : order.Pairwise (P.Separate F) := hperm.symm.pairwise hsep hsymm
  have hboth : ∀ t ∈ c.threads, ∃ res, t.rest = System.ended res ∧ (t.req, res) ∈ order.zip rs ∧
      P.Agree (F t.req) u c.state := by
    intro t ht
    have hmem : t.req ∈ order := hperm.mem_iff.mpr (List.mem_map_of_mem ht)
    obtain ⟨res, v, hr, halone, hagree⟩ := H.apart_at_rest (fun req => hconf req s) hsep hrest ht
    obtain ⟨res', v', hzip, halone', hagree'⟩ := Serially.apart hconf h hsep' hmem
    obtain ⟨rfl, rfl⟩ := alone_unique halone halone'
    exact ⟨_, hr, hzip, fun l hl => (hagree' l hl).trans (hagree l hl).symm⟩
  refine ⟨fun l => ?_, fun t ht => ?_⟩
  · by_cases hown : ∃ t ∈ c.threads, l ∈ F t.req
    · obtain ⟨t, ht, hl⟩ := hown
      obtain ⟨_, _, _, hagree⟩ := hboth t ht
      exact hagree l hl
    · have hnobody : ∀ req ∈ c.reqs, l ∉ F req := fun req hreq hl => by
        obtain ⟨t, ht, rfl⟩ := List.mem_map.mp hreq
        exact hown ⟨t, ht, hl⟩
      have hserial : P.look u l = P.look s l :=
        Serially.frame hconf h fun req hreq => hnobody req (hperm.mem_iff.mp hreq)
      exact hserial.trans ((H.apart (fun req => hconf req s) hsep).2 l hnobody).symm
  · obtain ⟨res, hr, hzip, -⟩ := hboth t ht
    exact ⟨res, hr, hzip⟩

end Sequence

end Atomic
