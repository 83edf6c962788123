import Mathlib.Data.List.Basic

/-!
# Histories

A history is a list that grows at its end. What is said about the events of a
history ("each `b` is preceded by an `a`") is a statement about its splits; the
lemmas here say how the splits of a history relate to those of its extension by
one event, and which folds over a history an extension does not move. `due opens
closes` is the fold that asks whether something opened is still waiting to be
closed.
-/

namespace History

variable {γ δ : Type*}

/-- An occurrence in an extended history is the new event or an old occurrence. -/
theorem snoc_split {log pre post : List γ} {e a : γ} (h : log ++ [e] = pre ++ a :: post) :
    (pre = log ∧ a = e ∧ post = []) ∨
      ∃ post', post = post' ++ [e] ∧ log = pre ++ a :: post' := by
  rcases List.eq_nil_or_concat post with rfl | ⟨post', y, rfl⟩
  · obtain ⟨hlog, he⟩ := List.append_inj' h rfl
    exact .inl ⟨hlog.symm, (List.cons.inj he).1.symm, rfl⟩
  · rw [List.concat_eq_append, ← List.cons_append, ← List.append_assoc] at h
    obtain ⟨hlog, he⟩ := List.append_inj' h rfl
    refine .inr ⟨post', ?_, hlog⟩
    rw [List.concat_eq_append, (List.cons.inj he).1]

/-- The first event with a property splits the history. -/
theorem exists_first {p : γ → Bool} :
    ∀ {l : List γ}, (∃ e ∈ l, p e = true) →
      ∃ l₁ e l₂, l = l₁ ++ e :: l₂ ∧ p e = true ∧ ∀ x ∈ l₁, p x = false
  | [], h => by simp at h
  | a :: l, h => by
    by_cases ha : p a = true
    · exact ⟨[], a, l, rfl, ha, by simp⟩
    · have hl : ∃ e ∈ l, p e = true := by simpa [ha] using h
      obtain ⟨l₁, e, l₂, rfl, he, hl₁⟩ := exists_first hl
      refine ⟨a :: l₁, e, l₂, rfl, he, fun x hx => ?_⟩
      rcases List.mem_cons.mp hx with rfl | hx
      · simpa using ha
      · exact hl₁ x hx

/-- A fold stays where it is if no event moves it. -/
theorem foldl_fixed_of_mem {f : δ → γ → δ} {x : δ} :
    ∀ {l : List γ}, (∀ e ∈ l, f x e = x) → l.foldl f x = x
  | [], _ => rfl
  | e :: l, h => by
    rw [List.foldl_cons, h e List.mem_cons_self]
    exact foldl_fixed_of_mem fun y hy => h y (List.mem_cons_of_mem _ hy)

/-- The prefixes of an extended history that end in a given event. -/
theorem prefix_snoc {log pre : List γ} {e a : γ} (h : pre ++ [a] <+: log ++ [e]) :
    (pre = log ∧ a = e) ∨ pre ++ [a] <+: log := by
  rcases List.prefix_concat_iff.mp h with heq | hpre
  · obtain ⟨hlog, he⟩ := List.append_inj' heq rfl
    exact .inl ⟨hlog, (List.cons.inj he).1⟩
  · exact .inr hpre

/-- An event of `opens` has not been followed by one of `closes` yet. -/
def due (opens closes : γ → Bool) (log : List γ) : Bool :=
  log.foldl (fun b e => opens e || (b && !closes e)) false

section Due

variable {opens closes : γ → Bool} {log : List γ}

@[simp] theorem due_snoc (log : List γ) (e : γ) :
    due opens closes (log ++ [e]) = (opens e || (due opens closes log && !closes e)) := by
  rw [due, List.foldl_append]
  rfl

/-- With nothing due, everything opened is followed by something that closes it. -/
theorem closed_of_not_due (h : due opens closes log = false) {pre post : List γ} {e : γ}
    (hlog : log = pre ++ e :: post) (he : opens e = true) : ∃ x ∈ post, closes x = true := by
  by_contra hno
  have hopen : ∀ x ∈ post, closes x = false := by
    intro x hx
    by_contra hne
    exact hno ⟨x, hx, by simpa using hne⟩
  have hstay : post.foldl (fun b e => opens e || (b && !closes e)) true = true :=
    foldl_fixed_of_mem fun x hx => by simp [hopen x hx]
  rw [hlog, due, List.foldl_append, List.foldl_cons, he, Bool.true_or, hstay] at h
  cases h

end Due

end History
