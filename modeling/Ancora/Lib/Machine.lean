import Mathlib.Logic.Basic
import Mathlib.Data.List.Basic

/-!
# Partial step machines

A concurrent component is a state type `σ`, an action type `α` (one constructor
per atomic step of some thread, carrying whatever the environment chooses) and
a partial step function `step : σ → α → Option σ`; `none` means the action is
not enabled. An interleaving is then a list of actions, and a statement about
every interleaving is a statement about every list.

- `exec step s as`: run the actions in order.
- `restrict ok step`: the machine that takes only the steps whose pre-state
  meets `ok`; its runs are the runs of `step` all of whose steps meet `ok`.
- **`exec_restrict_invariant`**: the invariant rule. What holds at the start and
  is kept by every permitted step holds after every run.
- `observe obs step`: the machine with a history variable, to which each step
  appends what `obs` sees of it; `exec_observe_invariant` and
  `observe_invariant` are its invariant rules, and `observe_forall_iff` (with an
  invariant, `observe_forall_iff_of_inv`) says when everything in the history is as
  it should be.
- `reaches_of_measure`: the progress rule. If some step is enabled that lowers a
  measure whenever the goal does not hold, some run reaches the goal.
-/

namespace Machine

variable {σ α : Type*}

/-- Run a list of actions; `none` as soon as one of them is not enabled. -/
def exec (step : σ → α → Option σ) : σ → List α → Option σ
  | s, [] => some s
  | s, a :: as => (step s a).bind fun s' => exec step s' as

@[simp] theorem exec_nil (step : σ → α → Option σ) (s : σ) :
    exec step s [] = some s := rfl

@[simp] theorem exec_cons (step : σ → α → Option σ) (s : σ) (a : α) (as : List α) :
    exec step s (a :: as) = (step s a).bind fun s' => exec step s' as := rfl

/-- The last action of a run. -/
theorem exec_snoc {step : σ → α → Option σ} {s s' : σ} {as : List α} {a : α} :
    exec step s (as ++ [a]) = some s' ↔ ∃ t, exec step s as = some t ∧ step t a = some s' := by
  induction as generalizing s with
  | nil => simp
  | cons b as ih =>
    rw [List.cons_append, exec_cons, exec_cons]
    constructor
    · intro h
      obtain ⟨u, hu, hrun⟩ := Option.bind_eq_some_iff.mp h
      obtain ⟨t, ht, hst⟩ := ih.mp hrun
      exact ⟨t, Option.bind_eq_some_iff.mpr ⟨u, hu, ht⟩, hst⟩
    · rintro ⟨t, ht, hst⟩
      obtain ⟨u, hu, hrun⟩ := Option.bind_eq_some_iff.mp ht
      exact Option.bind_eq_some_iff.mpr ⟨u, hu, ih.mpr ⟨t, hrun, hst⟩⟩

/-- The machine whose steps all meet `ok` in the state before the step. -/
def restrict (ok : σ → α → Prop) [∀ s a, Decidable (ok s a)]
    (step : σ → α → Option σ) (s : σ) (a : α) : Option σ :=
  if ok s a then step s a else none

section Restrict

variable {step : σ → α → Option σ} {ok : σ → α → Prop} [∀ s a, Decidable (ok s a)]

theorem restrict_eq_some {s s' : σ} {a : α} :
    restrict ok step s a = some s' ↔ ok s a ∧ step s a = some s' := by
  unfold restrict
  by_cases h : ok s a
  · simp [h]
  · simp [h]

/-- **Invariant rule**: an invariant of the start state that every permitted
step keeps holds after every run of permitted steps. -/
theorem exec_restrict_invariant {Inv : σ → Prop}
    (hstep : ∀ s a s', ok s a → step s a = some s' → Inv s → Inv s') :
    ∀ {as : List α} {s s' : σ}, Inv s → exec (restrict ok step) s as = some s' → Inv s'
  | [], s, s', h0, h => by
    rw [exec_nil, Option.some.injEq] at h
    exact h ▸ h0
  | a :: as, s, s', h0, h => by
    rw [exec_cons] at h
    obtain ⟨t, ht, hrun⟩ := Option.bind_eq_some_iff.mp h
    obtain ⟨hok, hst⟩ := restrict_eq_some.mp ht
    exact exec_restrict_invariant hstep (hstep s a t hok hst h0) hrun

/-- A run of actions that are always permitted needs no permission. -/
theorem exec_restrict_eq {as : List α} (h : ∀ a ∈ as, ∀ s, ok s a) (s : σ) :
    exec (restrict ok step) s as = exec step s as := by
  induction as generalizing s with
  | nil => rfl
  | cons a as ih =>
    have ha : restrict ok step s a = step s a := if_pos (h a List.mem_cons_self s)
    rw [exec_cons, exec_cons, ha]
    exact Option.bind_congr fun t _ => ih (fun b hb => h b (List.mem_cons_of_mem a hb)) t

end Restrict

/-- The invariant rule for unrestricted runs. -/
theorem exec_invariant {step : σ → α → Option σ} {Inv : σ → Prop}
    (hstep : ∀ s a s', step s a = some s' → Inv s → Inv s') :
    ∀ {as : List α} {s s' : σ}, Inv s → exec step s as = some s' → Inv s'
  | [], s, s', h0, h => by
    rw [exec_nil, Option.some.injEq] at h
    exact h ▸ h0
  | a :: as, s, s', h0, h => by
    rw [exec_cons] at h
    obtain ⟨t, ht, hrun⟩ := Option.bind_eq_some_iff.mp h
    exact exec_invariant hstep (hstep s a t ht h0) hrun

section Observe

variable {ω : Type*} {step : σ → α → Option σ} {obs : σ → α → σ → List ω}

/-- The machine with a history: each step appends what `obs` sees of it. -/
def observe (obs : σ → α → σ → List ω) (step : σ → α → Option σ) (p : σ × List ω) (a : α) :
    Option (σ × List ω) :=
  (step p.1 a).map fun s' => (s', p.2 ++ obs p.1 a s')

theorem observe_eq_some {p p' : σ × List ω} {a : α} :
    observe obs step p a = some p' ↔
      ∃ s', step p.1 a = some s' ∧ p' = (s', p.2 ++ obs p.1 a s') := by
  unfold observe
  rw [Option.map_eq_some_iff]
  refine exists_congr fun s' => and_congr_right fun _ => ?_
  exact eq_comm

/-- The invariant rule for a machine with a history: a step has to account for
what it adds to the history. -/
theorem exec_observe_invariant {Inv : σ → List ω → Prop}
    (hstep : ∀ s h a s', step s a = some s' → Inv s h → Inv s' (h ++ obs s a s'))
    {as : List α} {s s' : σ} {h h' : List ω} (h0 : Inv s h)
    (hrun : exec (observe obs step) (s, h) as = some (s', h')) : Inv s' h' := by
  have hpair : ∀ (p : σ × List ω) a p', observe obs step p a = some p' →
      Inv p.1 p.2 → Inv p'.1 p'.2 := by
    rintro ⟨s, h⟩ a p' hst hi
    obtain ⟨s', hs', rfl⟩ := observe_eq_some.mp hst
    exact hstep s h a s' hs' hi
  exact exec_invariant hpair h0 hrun

/-- The same for the runs whose steps all meet `ok`. -/
theorem observe_invariant {ok : σ × List ω → α → Prop} [∀ p a, Decidable (ok p a)]
    {Inv : σ → List ω → Prop}
    (hstep : ∀ s h a s', ok (s, h) a → step s a = some s' → Inv s h → Inv s' (h ++ obs s a s'))
    {as : List α} {s s' : σ} {h h' : List ω} (h0 : Inv s h)
    (hrun : exec (restrict ok (observe obs step)) (s, h) as = some (s', h')) : Inv s' h' := by
  have hpair : ∀ (p : σ × List ω) a p', ok p a → observe obs step p a = some p' →
      Inv p.1 p.2 → Inv p'.1 p'.2 := by
    rintro ⟨s, h⟩ a p' hok hst hi
    obtain ⟨s', hs', rfl⟩ := observe_eq_some.mp hst
    exact hstep s h a s' hok hs' hi
  exact exec_restrict_invariant hpair h0 hrun

/-- A history only grows. -/
theorem exec_observe_extends {as : List α} {s s' : σ} {h h' : List ω}
    (hrun : exec (observe obs step) (s, h) as = some (s', h')) : h <+: h' := by
  let Inv (_ : σ) (h₁ : List ω) : Prop := h <+: h₁
  have hstep : ∀ s h₁ a s', step s a = some s' → Inv s h₁ → Inv s' (h₁ ++ obs s a s') :=
    fun _ _ _ _ _ hpre => hpre.trans (List.prefix_append _ _)
  exact exec_observe_invariant hstep (List.prefix_refl h) hrun

/-- Where, as long as `Inv` holds, a step is permitted exactly when everything it adds to
the history is as `P` asks, a run is one of permitted steps exactly when its whole history
is. -/
theorem observe_forall_iff_of_inv {ok : σ → α → Prop} [∀ s a, Decidable (ok s a)] {P : ω → Prop}
    {Inv : σ → Prop}
    (hstep : ∀ s a s', Inv s → step s a = some s' → ((∀ o ∈ obs s a s', P o) ↔ ok s a))
    (hkeep : ∀ s a s', Inv s → ok s a → step s a = some s' → Inv s')
    {as : List α} {s s' : σ} {h h' : List ω} (h0 : Inv s)
    (hrun : exec (observe obs step) (s, h) as = some (s', h')) :
    (∀ o ∈ h', P o) ↔ (∀ o ∈ h, P o) ∧ exec (restrict ok step) s as = some s' := by
  induction as generalizing s h with
  | nil =>
    obtain ⟨rfl, rfl⟩ := Prod.mk.inj (Option.some.inj hrun)
    simp
  | cons a as ih =>
    rw [exec_cons] at hrun
    obtain ⟨p, hp, hrest⟩ := Option.bind_eq_some_iff.mp hrun
    obtain ⟨t, ht, rfl⟩ := observe_eq_some.mp hp
    rw [exec_cons]
    by_cases hok : ok s a
    · rw [ih (hkeep s a t h0 hok ht) hrest, List.forall_mem_append, hstep s a t h0 ht, restrict,
        if_pos hok, ht, Option.bind_some, and_assoc]
      exact and_congr_right fun _ => and_iff_right hok
    · -- the step itself has put something wrong into the history
      rw [restrict, if_neg hok, Option.bind_none]
      constructor
      · intro hall
        have hpre := (exec_observe_extends hrest).subset
        have hadded : ∀ o ∈ obs s a t, P o :=
          fun o ho => hall o (hpre (List.mem_append_right h ho))
        exact absurd ((hstep s a t h0 ht).mp hadded) hok
      · rintro ⟨-, hnone⟩
        cases hnone

/-- The same where the equivalence needs no invariant. -/
theorem observe_forall_iff {ok : σ → α → Prop} [∀ s a, Decidable (ok s a)] {P : ω → Prop}
    (hstep : ∀ s a s', step s a = some s' → ((∀ o ∈ obs s a s', P o) ↔ ok s a))
    {as : List α} {s s' : σ} {h h' : List ω}
    (hrun : exec (observe obs step) (s, h) as = some (s', h')) :
    (∀ o ∈ h', P o) ↔ (∀ o ∈ h, P o) ∧ exec (restrict ok step) s as = some s' := by
  have hstep' : ∀ s a s', True → step s a = some s' → ((∀ o ∈ obs s a s', P o) ↔ ok s a) :=
    fun s a s' _ hs => hstep s a s' hs
  exact observe_forall_iff_of_inv hstep' (fun _ _ _ _ _ _ => trivial) trivial hrun

end Observe

/-- **Progress rule**: if whenever `Goal` fails some action is enabled that keeps
`Inv` and lowers `measure`, then some run reaches `Goal`. -/
theorem reaches_of_measure {step : σ → α → Option σ} {Inv Goal : σ → Prop} (measure : σ → Nat)
    (hstep : ∀ s, Inv s → ¬ Goal s →
      ∃ a s', step s a = some s' ∧ Inv s' ∧ measure s' < measure s) (s : σ) (hs : Inv s) :
    ∃ as s', exec step s as = some s' ∧ Goal s' := by
  induction hn : measure s using Nat.strongRecOn generalizing s with
  | _ n ih =>
    by_cases hg : Goal s
    · exact ⟨[], s, rfl, hg⟩
    · obtain ⟨a, s', hst, hs', hlt⟩ := hstep s hs hg
      obtain ⟨as, t, hrun, hgoal⟩ := ih (measure s') (hn ▸ hlt) s' hs' rfl
      refine ⟨a :: as, t, ?_, hgoal⟩
      rw [exec_cons, hst, Option.bind_some, hrun]

end Machine
