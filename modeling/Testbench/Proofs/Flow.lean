import Mathlib.Tactic.Lemma
import Testbench.Flow

/-!
# Computations step by step

A computation is followed from one state to the next: what comes second runs where the first one
ended.  These lemmas take a sequence of computations apart along the equations for its parts.
-/

namespace Testbench.Flow

variable {σ α β : Type} {s s₁ s₂ : σ}

@[simp] lemma see_apply (f : σ → α) (s : σ) : see f s = (.ok (f s), s) := rfl

@[simp] lemma change_apply (f : σ → σ) (s : σ) : change f s = (.ok (), f s) := rfl

@[simp] lemma step_apply (f : σ → α × σ) (s : σ) : step f s = (.ok (f s).1, (f s).2) := rfl

lemma bind_ok {m : Flow σ α} {k : α → Flow σ β} {a : α} (h : m s = (.ok a, s₁)) :
    (m >>= k) s = k a s₁ := by
  change (ExceptT.bind m k : Flow σ β) s = _
  simp only [ExceptT.bind, ExceptT.mk, bind, StateT.bind, h]
  rfl

lemma bind_error {m : Flow σ α} {k : α → Flow σ β} {e : Stop} (h : m s = (.error e, s₁)) :
    (m >>= k) s = (.error e, s₁) := by
  change (ExceptT.bind m k : Flow σ β) s = _
  simp only [ExceptT.bind, ExceptT.mk, bind, StateT.bind, h]
  rfl

/-- Two computations return if both do. -/
lemma of_bind_ok {m : Flow σ α} {k : α → Flow σ β} {b : β} (h : (m >>= k) s = (.ok b, s₂)) :
    ∃ a s₁, m s = (.ok a, s₁) ∧ k a s₁ = (.ok b, s₂) := by
  rcases hm : m s with ⟨e | a, s₁⟩
  · rw [bind_error hm] at h
    cases h
  · rw [bind_ok hm] at h
    exact ⟨a, s₁, rfl, h⟩

lemma attempt_ok {f : Flow σ α} {a : α} (h : f s = (.ok a, s₁)) :
    attempt f s = (.ok (.ok a), s₁) := by
  rw [attempt, h]

lemma attempt_unwound {f : Flow σ α} {payload : Payload}
    (h : f s = (.error (.unwound payload), s₁)) :
    attempt f s = (.ok (.error payload), s₁) := by
  rw [attempt, h]

lemma of_attempt_ok {f : Flow σ α} {a : α} (h : attempt f s = (.ok (.ok a), s₁)) :
    f s = (.ok a, s₁) := by
  rw [attempt] at h
  split at h <;> cases h
  assumption

lemma of_attempt_unwound {f : Flow σ α} {payload : Payload}
    (h : attempt f s = (.ok (.error payload), s₁)) : f s = (.error (.unwound payload), s₁) := by
  rw [attempt] at h
  split at h <;> cases h
  assumption

/-- What is not caught ran out of room. -/
lemma attempt_error {f : Flow σ α} {e : Stop} (h : attempt f s = (.error e, s₁)) :
    e = .exhausted := by
  rw [attempt] at h
  split at h <;> cases h
  rfl

/-- What catches an unwind does not unwind. -/
lemma not_attempt_unwound {f : Flow σ α} {payload : Payload} :
    attempt f s ≠ (.error (.unwound payload), s₁) :=
  fun h => nomatch attempt_error h

/-- Catching an unwind changes nothing about what was done before. -/
lemma attempt_snd (f : Flow σ α) (s : σ) : (attempt f s).2 = (f s).2 := by
  rw [attempt]
  split <;> rename_i hf <;> rw [hf]

/-- What is done at the end of a computation that returned comes after it. -/
lemma ensuring_ok {f : Flow σ α} {finish : Flow σ Unit} {a : α} (h : f s = (.ok a, s₁))
    (hfinish : finish s₁ = (.ok (), s₂)) : ensuring f finish s = (.ok a, s₂) := by
  rw [ensuring, bind_ok (attempt_ok h), bind_ok hfinish]
  rfl

/-- What is done at the end of a computation that unwound comes before it goes on unwinding. -/
lemma ensuring_unwound {f : Flow σ α} {finish : Flow σ Unit} {payload : Payload}
    (h : f s = (.error (.unwound payload), s₁)) (hfinish : finish s₁ = (.ok (), s₂)) :
    ensuring f finish s = (.error (.unwound payload), s₂) := by
  rw [ensuring, bind_ok (attempt_unwound h), bind_ok hfinish]
  rfl

/-- What returned after something was done at its end had returned before. -/
lemma of_ensuring_ok {f : Flow σ α} {finish : Flow σ Unit} {a : α}
    (h : ensuring f finish s = (.ok a, s₂)) :
    ∃ s₁, f s = (.ok a, s₁) ∧ finish s₁ = (.ok (), s₂) := by
  obtain ⟨result, s₁, hattempt, hlast⟩ := of_bind_ok h
  obtain ⟨u, s', hfinish, hresume⟩ := of_bind_ok hlast
  cases result <;> cases hresume
  exact ⟨s₁, of_attempt_ok hattempt, hfinish⟩

/-- What comes second is caught as if it had come alone. -/
lemma attempt_bind_ok {m : Flow σ α} {k : α → Flow σ β} {a : α}
    (h : attempt m s = (.ok (.ok a), s₁)) : attempt (m >>= k) s = attempt (k a) s₁ := by
  rw [attempt, bind_ok (of_attempt_ok h), ← attempt]

lemma attempt_bind_unwound {m : Flow σ α} {k : α → Flow σ β} {payload : Payload}
    (h : attempt m s = (.ok (.error payload), s₁)) :
    attempt (m >>= k) s = (.ok (.error payload), s₁) :=
  attempt_unwound (bind_error (of_attempt_unwound h))

/-- Of two computations that are caught together, either both are carried out, or the first one
unwinds. -/
lemma attempt_bind_cases {m : Flow σ α} {k : α → Flow σ β} {result : Except Payload β}
    (h : attempt (m >>= k) s = (.ok result, s₂)) :
    (∃ a s₁, attempt m s = (.ok (.ok a), s₁) ∧ attempt (k a) s₁ = (.ok result, s₂)) ∨
      ∃ payload, result = .error payload ∧ attempt m s = (.ok (.error payload), s₂) := by
  rcases hm : attempt m s with ⟨e | payload | a, s₁⟩
  · obtain rfl := attempt_error hm
    rcases hms : m s with ⟨(p | -) | a, s'⟩
    · rw [attempt_unwound hms] at hm
      cases hm
    · rw [attempt, bind_error hms] at h
      cases h
    · rw [attempt_ok hms] at hm
      cases hm
  · rw [attempt_bind_unwound hm] at h
    cases h
    exact .inr ⟨payload, rfl, rfl⟩
  · rw [attempt_bind_ok hm] at h
    exact .inl ⟨a, s₁, rfl, h⟩

/-- Something is done at the end of a computation, however it ends. -/
lemma attempt_ensuring_eq {f : Flow σ α} {finish : Flow σ Unit} {result : Except Payload α}
    (h : attempt f s = (.ok result, s₁)) (hfinish : finish s₁ = (.ok (), s₂)) :
    attempt (ensuring f finish) s = (.ok result, s₂) := by
  cases result with
  | ok a => exact attempt_ok (ensuring_ok (of_attempt_ok h) hfinish)
  | error payload => exact attempt_unwound (ensuring_unwound (of_attempt_unwound h) hfinish)

/-- However a computation ended, what is done at its end came after it. -/
lemma attempt_ensuring {f : Flow σ α} {finish : Flow σ Unit} {g : σ → σ} {result : Except Payload α}
    (hfinish : ∀ s, finish s = (.ok (), g s))
    (h : attempt (ensuring f finish) s = (.ok result, s₂)) :
    ∃ s₁, attempt f s = (.ok result, s₁) ∧ s₂ = g s₁ := by
  cases hf : f s with
  | mk r s₁ =>
    cases r with
    | ok a =>
      rw [attempt_ok (ensuring_ok hf (hfinish s₁))] at h
      cases h
      exact ⟨s₁, attempt_ok hf, rfl⟩
    | error stop =>
      cases stop with
      | unwound payload =>
        rw [attempt_unwound (ensuring_unwound hf (hfinish s₁))] at h
        cases h
        exact ⟨s₁, attempt_unwound hf, rfl⟩
      | exhausted =>
        have hexhausted : attempt f s = (.error .exhausted, s₁) := by rw [attempt, hf]
        rw [attempt, ensuring, bind_error hexhausted] at h
        cases h

end Testbench.Flow
