import Mathlib.Logic.Function.Basic
import Mathlib.Data.List.Basic

/-!
# Computations that leave a trace

A computation on a state `σ` that returns a value, leaves a state and lists the
events of its run. Statements about everything a program touches are statements
about the trace, statements about its end are about the value and the state.

- `Traced.Obeys R p`: every run of `p` is related by `R` (start, end, trace). For
  an `R` that holds of doing nothing and of one run after the other
  (`Traced.Compositional`) it follows the program: `Obeys.pure`, `Obeys.bind`,
  `Obeys.loop`.
- `Traced.Stops mark p`: a run that returns false ends with `mark`, and `mark`
  stands nowhere else; `Stops.bind` and `Stops.loop` need that every step of the
  program is left at the first false.
-/

/-- How a run ends. -/
structure Traced.Outcome (σ ε α : Type) where
  val : α
  state : σ
  trace : List ε

def Traced (σ ε α : Type) := σ → Traced.Outcome σ ε α

namespace Traced

variable {σ ε α β : Type}

instance : Monad (Traced σ ε) where
  pure a := fun s => ⟨a, s, []⟩
  bind p f := fun s =>
    let o := p s
    let o' := f o.val o.state
    ⟨o'.val, o'.state, o.trace ++ o'.trace⟩

@[simp] theorem pure_apply (a : α) (s : σ) : (pure a : Traced σ ε α) s = ⟨a, s, []⟩ := rfl

@[simp] theorem bind_apply (p : Traced σ ε α) (f : α → Traced σ ε β) (s : σ) :
    (p >>= f) s = ⟨(f (p s).val (p s).state).val, (f (p s).val (p s).state).state,
      (p s).trace ++ (f (p s).val (p s).state).trace⟩ := rfl

/-- The current state. -/
def get : Traced σ ε σ := fun s => ⟨s, s, []⟩

/-- An event. -/
def emit (event : ε) : Traced σ ε Unit := fun s => ⟨(), s, [event]⟩

@[simp] theorem get_apply (s : σ) : (get : Traced σ ε σ) s = ⟨s, s, []⟩ := rfl

@[simp] theorem emit_apply (event : ε) (s : σ) :
    (emit event : Traced σ ε Unit) s = ⟨(), s, [event]⟩ := rfl

/-- `p`, and if it returned true `next`; if not, `left` is what it leaves behind. -/
def attempt (p : Traced σ ε (Bool × α)) (left : α → β) (next : α → Traced σ ε (Bool × β)) :
    Traced σ ε (Bool × β) := do
  let o ← p
  if o.1 then next o.2 else pure (false, left o.2)

/-- An attempt that succeeds goes on with what comes next. -/
theorem attempt_true {p : Traced σ ε (Bool × α)} {left : α → β}
    {next : α → Traced σ ε (Bool × β)} {s : σ} (h : (p s).val.1 = true) :
    attempt p left next s = ⟨(next (p s).val.2 (p s).state).val,
      (next (p s).val.2 (p s).state).state,
      (p s).trace ++ (next (p s).val.2 (p s).state).trace⟩ := by
  rw [attempt, bind_apply, if_pos h]

/-- An attempt that fails ends there, with what has been done so far. -/
theorem attempt_false {p : Traced σ ε (Bool × α)} {left : α → β}
    {next : α → Traced σ ε (Bool × β)} {s : σ} (h : (p s).val.1 = false) :
    attempt p left next s = ⟨(false, left (p s).val.2), (p s).state, (p s).trace⟩ := by
  rw [attempt, bind_apply, if_neg (by simp [h]), pure_apply, List.append_nil]

/-- `body i` on the entries from `i` on, `n` of them, as long as it returns true. -/
def loop (body : Nat → α → Traced σ ε (Bool × α)) :
    Nat → Nat → (Nat → α) → Traced σ ε (Bool × (Nat → α))
  | 0, _, xs => pure (true, xs)
  | n + 1, i, xs =>
    attempt (body i (xs i)) (Function.update xs i) fun x =>
      loop body n (i + 1) (Function.update xs i x)

/-- The entries before the first are as they were. -/
theorem loop_before {body : Nat → α → Traced σ ε (Bool × α)} {k : Nat} :
    ∀ {n i : Nat} {xs : Nat → α} {s : σ}, k < i → (loop body n i xs s).val.2 k = xs k
  | 0, _, _, _, _ => rfl
  | n + 1, i, xs, s, hk => by
    have hentry (x : α) : Function.update xs i x k = xs k :=
      Function.update_of_ne (Nat.ne_of_lt hk) x xs
    rw [loop]
    cases ho : (body i (xs i) s).val.1 with
    | false =>
      rw [attempt_false ho]
      exact hentry _
    | true =>
      rw [attempt_true ho]
      exact (loop_before (Nat.lt_succ_of_lt hk)).trans (hentry _)

/-! ## Relations between start, end and trace -/

/-- Doing nothing is allowed, and so is one run after the other. -/
structure Compositional (R : σ → σ → List ε → Prop) : Prop where
  refl : ∀ s, R s s []
  trans : ∀ {s t u l l'}, R s t l → R t u l' → R s u (l ++ l')

def Obeys (R : σ → σ → List ε → Prop) (p : Traced σ ε α) : Prop :=
  ∀ s, R s (p s).state (p s).trace

section Obeys

variable {R : σ → σ → List ε → Prop} (hR : Compositional R)

include hR

/-- A program that does nothing keeps to every rule. -/
theorem Obeys.pure (a : α) : Obeys R (Pure.pure a : Traced σ ε α) :=
  fun s => hR.refl s

/-- Programs that keep to a rule do so one after the other. -/
theorem Obeys.bind {p : Traced σ ε α} {f : α → Traced σ ε β} (hp : Obeys R p)
    (hf : ∀ a, Obeys R (f a)) : Obeys R (p >>= f) :=
  fun s => hR.trans (hp s) (hf _ _)

/-- What `p` has established on success, `next` may use. -/
theorem Obeys.attempt_of {p : Traced σ ε (Bool × α)} {left : α → β}
    {next : α → Traced σ ε (Bool × β)} {Q : α → σ → Prop} (hp : Obeys R p)
    (hQ : ∀ s, (p s).val.1 = true → Q (p s).val.2 (p s).state)
    (hnext : ∀ a, Obeys (fun s t l => Q a s → R s t l) (next a)) :
    Obeys R (attempt p left next) := by
  intro s
  cases ho : (p s).val.1 with
  | false =>
    rw [attempt_false ho]
    exact hp s
  | true =>
    rw [attempt_true ho]
    exact hR.trans (hp s) (hnext _ _ (hQ s ho))

/-- The same when the second is left out after a failure of the first. -/
theorem Obeys.attempt {p : Traced σ ε (Bool × α)} {left : α → β}
    {next : α → Traced σ ε (Bool × β)} (hp : Obeys R p) (hnext : ∀ a, Obeys R (next a)) :
    Obeys R (attempt p left next) :=
  Obeys.attempt_of (Q := fun _ _ => True) hR hp (fun _ _ => trivial) fun a s _ => hnext a s

/-- A loop keeps to a rule that its body keeps to. -/
theorem Obeys.loop {body : Nat → α → Traced σ ε (Bool × α)} :
    ∀ {n i : Nat} {xs : Nat → α}, (∀ k x, k < i + n → Obeys R (body k x)) →
      Obeys R (loop body n i xs)
  | 0, _, _, _ => Obeys.pure hR _
  | n + 1, i, xs, h => by
    refine Obeys.attempt hR (h i (xs i) (by omega)) ?_
    intro x
    exact Obeys.loop fun k x hk => h k x (by omega)

end Obeys

/-! ## Stopping at the first false -/

/-- `mark` stands at the end of the trace of a run that returned false, and
nowhere else. -/
def Stopped (mark : ε) (ok : Bool) (trace : List ε) : Prop :=
  ∃ before, mark ∉ before ∧ trace = before ++ if ok then [] else [mark]

/-- A run that returned true may have any trace without the mark. -/
theorem Stopped.of_not_mem {mark : ε} {trace : List ε} (h : mark ∉ trace) :
    Stopped mark true trace :=
  ⟨trace, h, (List.append_nil trace).symm⟩

/-- A run that returned true has no mark in its trace. -/
theorem Stopped.not_mem {mark : ε} {trace : List ε} (h : Stopped mark true trace) :
    mark ∉ trace := by
  obtain ⟨before, hbefore, rfl⟩ := h
  rwa [if_pos rfl, List.append_nil]

/-- The mark stays at the end behind a trace without it. -/
theorem Stopped.append {mark : ε} {ok : Bool} {first trace : List ε} (hfirst : mark ∉ first)
    (h : Stopped mark ok trace) : Stopped mark ok (first ++ trace) := by
  obtain ⟨before, hbefore, rfl⟩ := h
  refine ⟨first ++ before, ?_, (List.append_assoc _ _ _).symm⟩
  rw [List.mem_append, not_or]
  exact ⟨hfirst, hbefore⟩

def Stops (mark : ε) (p : Traced σ ε (Bool × α)) : Prop :=
  ∀ s, Stopped mark (p s).val.1 (p s).trace

section Stops

variable {mark : ε}

/-- What returns true at once leaves no mark. -/
theorem Stops.pure (a : α) : Stops mark (Pure.pure (true, a) : Traced σ ε (Bool × α)) :=
  fun _ => Stopped.of_not_mem List.not_mem_nil

/-- After something that never stops. -/
theorem Stops.after {p : Traced σ ε α} {next : α → Traced σ ε (Bool × β)}
    (hp : ∀ s, mark ∉ (p s).trace) (hnext : ∀ a, Stops mark (next a)) :
    Stops mark (p >>= next) :=
  fun s => (hnext _ _).append (hp s)

/-- The rest of the result does not matter. -/
theorem Stops.map {p : Traced σ ε (Bool × α)} (hp : Stops mark p) (f : α → β) :
    Stops mark (p >>= fun o => Pure.pure (o.1, f o.2)) := by
  intro s
  rw [bind_apply, pure_apply, List.append_nil]
  exact hp s

/-- The mark is that of the first program, which ends the attempt, or that of the second. -/
theorem Stops.attempt {p : Traced σ ε (Bool × α)} {left : α → β}
    {next : α → Traced σ ε (Bool × β)} (hp : Stops mark p) (hnext : ∀ a, Stops mark (next a)) :
    Stops mark (attempt p left next) := by
  intro s
  have hs := hp s
  cases ho : (p s).val.1 with
  | false =>
    rw [ho] at hs
    rw [attempt_false ho]
    exact hs
  | true =>
    rw [ho] at hs
    rw [attempt_true ho]
    exact (hnext _ _).append hs.not_mem

/-- The mark is that of the round that ends the loop. -/
theorem Stops.loop {body : Nat → α → Traced σ ε (Bool × α)} (h : ∀ k x, Stops mark (body k x)) :
    ∀ n i xs, Stops mark (loop body n i xs)
  | 0, _, _ => Stops.pure _
  | n + 1, i, xs => Stops.attempt (h i (xs i)) fun _ => Stops.loop h n (i + 1) _

end Stops

end Traced
