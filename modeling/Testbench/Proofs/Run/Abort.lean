import Testbench.Proofs.Run.Unfold

/-!
# Runs that are aborted

Once a routine is aborted, hardly anything follows.  What comes after a test is still called if the
test was aborted, teardown is called unless setup or teardown itself was, the test case and the
fixture are reported as not completed, and then the run is over with the abort as its error,
whatever the last routines did.  This holds at any depth of a plan: `FixtureRun.AbortsIn` says what
surrounds the first abort within its fixture, and the plan adds nothing behind it.

The host may refuse what it likes, but what it is asked comes back, and routines are called.
-/

namespace Testbench

variable {σ ρ α β : Type}

/-! ### Notes of an abort -/

/-- Whether a routine was called and aborted. -/
def Note.aborts : Note ρ → Bool
  | .calls _ (.ok .aborted) => true
  | _ => false

lemma Note.exists_of_any_aborts {notes : List (Note ρ)} (h : notes.any Note.aborts = true) :
    ∃ x, .calls x (.ok .aborted) ∈ notes := by
  obtain ⟨n, hn, haborts⟩ := List.any_eq_true.mp h
  unfold aborts at haborts
  split at haborts
  · exact ⟨_, hn⟩
  · cases haborts

/-- Nothing was aborted. -/
def Undisturbed (notes : List (Note ρ)) : Prop := ∀ n ∈ notes, n.aborts = false

/-- The note of a call that came out. -/
def calledOptional (routine : Option ρ) (o : Outcome) : List (Note ρ) :=
  routine.toList.map (.calls · (.ok o))

/-- The calls for a test case around the first that was aborted. -/
inductive Fixture.AbortsIn (f : Fixture ρ) (c : TestCase ρ) :
    List (Note ρ) → ρ → List (Note ρ) → Prop
  /-- What comes before the test: nothing else is called. -/
  | before {x : ρ} (h : f.before = some x) : f.AbortsIn c [] x []
  /-- The test: what comes after it is called all the same. -/
  | test (o : Outcome) :
      f.AbortsIn c (calledOptional f.before .completed) c.routine (calledOptional f.after o)
  /-- What comes after the test, however that came out. -/
  | after (o : Outcome) {x : ρ} (h : f.after = some x) :
      f.AbortsIn c (calledOptional f.before .completed ++ [.calls c.routine (.ok o)]) x []

/-- What is seen of a fixture around the first call that was aborted, between the start of the
fixture and its end. -/
inductive FixtureRun.AbortsIn (r : FixtureRun ρ) : List (Note ρ) → ρ → List (Note ρ) → Prop
  /-- Setup: nothing else is called. -/
  | setup {x : ρ} (h : r.fixture.setup = some x) : r.AbortsIn [] x []
  /-- A test case, which is not completed: teardown is called all the same. -/
  | case {c : TestCase ρ} {before after : List (Note ρ)} {x : ρ} (earlier : List (Note ρ))
      (o : Outcome) (hc : c ∈ r.selected) (h : r.fixture.AbortsIn c before x after) :
      r.AbortsIn (calledOptional r.fixture.setup .completed ++ earlier
          ++ .caseStarts r.fixture c :: before) x
        (after ++ .caseFinished r.fixture c false :: calledOptional r.fixture.teardown o)
  /-- Teardown: nothing is left to be called. -/
  | teardown {x : ρ} (earlier : List (Note ρ)) (h : r.fixture.teardown = some x) :
      r.AbortsIn earlier x []

/-! ### Hosts -/

/-- As long as `I` holds, whatever the host is asked comes back, and `I` goes on to hold. Routines
can be called and do not unwind past their boundary. -/
structure Host.Calm (h : Host σ ρ) (I : σ → Prop) : Prop where
  validates : ∀ s, I s → ∃ answer s', h.validate s = (.ok answer, s') ∧ I s'
  fixtureStarts : ∀ f s, I s → ∃ answer s', h.fixtureStarts f s = (.ok answer, s') ∧ I s'
  fixtureFinished : ∀ f completed s, I s →
    ∃ u s', h.fixtureFinished f completed s = (.ok u, s') ∧ I s'
  caseStarts : ∀ f c s, I s → ∃ answer s', h.caseStarts f c s = (.ok answer, s') ∧ I s'
  caseFinished : ∀ f c completed s, I s →
    ∃ u s', h.caseFinished f c completed s = (.ok u, s') ∧ I s'
  calls : ∀ routine s, I s → ∃ o s', h.call routine s = (.ok (.ok o), s') ∧ I s'
  installs : ∀ f s, I s → ∃ answer s', h.installs f s = (.ok answer, s') ∧ I s'
  awaits : ∀ f d s, I s → ∃ ended s', h.awaits f d s = (.ok ended, s') ∧ I s'
  revokes : ∀ f d s, I s → ∃ u s', h.revokes f d s = (.ok u, s') ∧ I s'

/-! ### Rules -/

namespace Flow

/-- From states with `I`, the computation `w` does what `m` does, returns, and writes notes in `Q`.
-/
abbrev Yields (I : σ → Prop) (w : Flow (σ × List (Note ρ)) α) (m : Flow σ α)
    (Q : α → List (Note ρ) → Prop) : Prop :=
  Writes I w m Q fun _ => False

variable {I : σ → Prop} {w : Flow (σ × List (Note ρ)) α} {m : Flow σ α}
  {Q : α → List (Note ρ) → Prop}

lemma yields_pure {a : α} (ha : Q a []) :
    Yields I (pure a : Flow (σ × List (Note ρ)) α) (pure a) Q :=
  writes_pure ha

lemma yields_noting {before : List (Note ρ)} {after : α → List (Note ρ)}
    {stopped : Stop → List (Note ρ)}
    (hm : ∀ s, I s → ∃ a s', m s = (.ok a, s') ∧ I s' ∧ Q a (before ++ after a)) :
    Yields I (noting before after m stopped) m Q := by
  refine writes_noting fun s hs => ?_
  obtain ⟨a, s', hm, hs', ha⟩ := hm s hs
  rw [hm]
  exact ⟨hs', ha⟩

/-- A request that comes back is noted. -/
lemma yields_request (before : List (Note ρ)) (after : α → List (Note ρ))
    (hm : ∀ s, I s → ∃ a s', m s = (.ok a, s') ∧ I s') :
    Yields I (noting before after m) m fun a l => l = before ++ after a := by
  refine yields_noting fun s hs => ?_
  obtain ⟨a, s', hm, hs'⟩ := hm s hs
  exact ⟨a, s', hm, hs', rfl⟩

lemma Yields.bind {v : α → Flow (σ × List (Note ρ)) β} {k : α → Flow σ β}
    {Q' : β → List (Note ρ) → Prop} (h : Yields I w m Q)
    (hk : ∀ a l, Q a l → Yields I (v a) (k a) fun b l' => Q' b (l ++ l')) :
    Yields I (w >>= v) (m >>= k) Q' :=
  Writes.bind h (fun _ hl => hl) hk

/-- What comes after notes that are known goes on with them. -/
lemma Yields.bind_of_eq {v : α → Flow (σ × List (Note ρ)) β} {k : α → Flow σ β}
    {Q' : β → List (Note ρ) → Prop} {l : α → List (Note ρ)} (h : Yields I w m fun a l' => l' = l a)
    (hk : ∀ a, Yields I (v a) (k a) fun b l' => Q' b (l a ++ l')) :
    Yields I (w >>= v) (m >>= k) Q' := by
  refine h.bind ?_
  rintro a _ rfl
  exact hk a

/-- What comes after a request of which nobody takes note makes all the notes. -/
lemma yields_aside_bind {v : α → Flow (σ × List (Note ρ)) β} {k : α → Flow σ β}
    {Q' : β → List (Note ρ) → Prop} (hm : ∀ s, I s → ∃ a s', m s = (.ok a, s') ∧ I s')
    (hk : ∀ a, Yields I (v a) (k a) Q') : Yields I (aside m >>= v) (m >>= k) Q' :=
  (yields_request [] (fun _ => []) hm).bind_of_eq hk

end Flow

/-! ### The first abort -/

lemma undisturbed_append {l l' : List (Note ρ)} (h : Undisturbed l) (h' : Undisturbed l') :
    Undisturbed (l ++ l') :=
  List.forall_mem_append.mpr ⟨h, h'⟩

lemma undisturbed_cons {n : Note ρ} {l : List (Note ρ)} (hn : n.aborts = false)
    (h : Undisturbed l) : Undisturbed (n :: l) :=
  List.forall_mem_cons.mpr ⟨hn, h⟩

lemma undisturbed_nil : Undisturbed ([] : List (Note ρ)) := List.forall_mem_nil _

lemma undisturbed_calledOptional {routine : Option ρ} {o : Outcome} (ho : o ≠ .aborted) :
    Undisturbed (calledOptional routine o) := by
  intro n hn
  obtain ⟨x, -, rfl⟩ := List.mem_map.mp hn
  cases o with
  | completed => rfl
  | failed => rfl
  | aborted => exact absurd rfl ho

/-- Some call was aborted, and `A` relates what came before the first of those to what came after
it. -/
def FirstAbort (A : List (Note ρ) → ρ → List (Note ρ) → Prop) (l : List (Note ρ)) : Prop :=
  ∃ pre x post, l = pre ++ .calls x (.ok .aborted) :: post ∧ Undisturbed pre ∧ A pre x post

/-- More may come before the first abort, if nothing is aborted in that, and after it. -/
lemma FirstAbort.within {A B : List (Note ρ) → ρ → List (Note ρ) → Prop} {l : List (Note ρ)}
    (h : FirstAbort A l) {earlier : List (Note ρ)} (hearlier : Undisturbed earlier)
    (later : List (Note ρ))
    (hAB : ∀ pre x post, A pre x post → B (earlier ++ pre) x (post ++ later)) :
    FirstAbort B (earlier ++ (l ++ later)) := by
  obtain ⟨pre, x, post, rfl, hpre, hA⟩ := h
  refine ⟨earlier ++ pre, x, post ++ later, ?_, undisturbed_append hearlier hpre, hAB _ _ _ hA⟩
  simp only [List.append_assoc, List.cons_append]

lemma FirstAbort.followed {A B : List (Note ρ) → ρ → List (Note ρ) → Prop} {l : List (Note ρ)}
    (h : FirstAbort A l) (later : List (Note ρ))
    (hAB : ∀ pre x post, A pre x post → B pre x (post ++ later)) : FirstAbort B (l ++ later) :=
  h.within undisturbed_nil later hAB

lemma FirstAbort.preceded {A B : List (Note ρ) → ρ → List (Note ρ) → Prop} {l : List (Note ρ)}
    (h : FirstAbort A l) {earlier : List (Note ρ)} (hearlier : Undisturbed earlier)
    (hAB : ∀ pre x post, A pre x post → B (earlier ++ pre) x post) :
    FirstAbort B (earlier ++ l) := by
  rw [← List.append_nil l]
  refine h.within hearlier [] fun pre x post hA => ?_
  rw [List.append_nil]
  exact hAB pre x post hA

/-- A routine that need not be there aborts only if it is. -/
lemma firstAbort_calledOptional {A : List (Note ρ) → ρ → List (Note ρ) → Prop} {routine : Option ρ}
    {earlier : List (Note ρ)} (hearlier : Undisturbed earlier)
    (hnone : routine = none → Outcome.aborted = .completed)
    (hA : ∀ x, routine = some x → A earlier x []) :
    FirstAbort A (earlier ++ calledOptional routine .aborted) := by
  cases routine with
  | none => cases hnone rfl
  | some x => exact ⟨earlier, x, [], rfl, hearlier, hA x rfl⟩

namespace FixtureRun

open Testbench.Flow

variable {h : Host σ ρ} {I : σ → Prop} (hh : h.Calm I)
include hh

/-! ### Routines -/

lemma callRoutine_yields (routine : ρ) :
    Yields I (callRoutine h.watched routine) (callRoutine h routine)
      fun result l => ∃ o, result = .ok o ∧ l = [.calls routine (.ok o)] := by
  have hcall : Yields I (h.watched.call routine) (h.call routine)
      fun answer l => ∃ o, answer = .ok o ∧ l = [.calls routine (.ok o)] := by
    refine yields_noting fun s hs => ?_
    obtain ⟨o, s', hcall, hs'⟩ := hh.calls routine s hs
    exact ⟨_, s', hcall, hs', o, rfl, rfl⟩
  refine hcall.bind ?_
  rintro _ _ ⟨o, rfl, rfl⟩
  exact yields_pure ⟨o, rfl, rfl⟩

lemma callOptional_yields (routine : Option ρ) :
    Yields I (callOptional h.watched routine) (callOptional h routine)
      fun result l => ∃ o, result = .ok o ∧ l = calledOptional routine o ∧
        (routine = none → o = .completed) := by
  cases routine with
  | none => exact yields_pure ⟨.completed, rfl, rfl, fun _ => rfl⟩
  | some routine =>
    refine (callRoutine_yields hh routine).mono ?_ fun _ hl => hl
    rintro _ _ ⟨o, rfl, rfl⟩
    exact ⟨o, rfl, rfl, fun hnone => nomatch hnone⟩

/-! ### Test cases -/

lemma runCase_yields (f : Fixture ρ) (c : TestCase ρ) :
    Yields I (runCase h.watched f c) (runCase h f c)
      fun result l => ∃ o, result = .ok o ∧
        (Undisturbed l ∨ o = .aborted ∧ FirstAbort (f.AbortsIn c) l) := by
  refine (callOptional_yields hh f.before).bind ?_
  rintro _ _ ⟨before, rfl, rfl, hnone⟩
  cases before with
  | failed =>
    refine yields_pure ⟨_, rfl, .inl ?_⟩
    rw [List.append_nil]
    exact undisturbed_calledOptional (by decide)
  | aborted =>
    refine yields_pure ⟨_, rfl, .inr ⟨rfl, ?_⟩⟩
    rw [List.append_nil]
    exact firstAbort_calledOptional undisturbed_nil hnone fun x hx => .before hx
  | completed =>
    have hbefore : Undisturbed (calledOptional f.before .completed) :=
      undisturbed_calledOptional (by decide)
    refine (callRoutine_yields hh c.routine).bind ?_
    rintro _ _ ⟨test, rfl, rfl⟩
    refine (callOptional_yields hh f.after).bind ?_
    rintro _ _ ⟨after, rfl, rfl, hnone⟩
    refine yields_pure ⟨_, rfl, ?_⟩
    rw [List.append_nil]
    by_cases htest : test = .aborted
    · subst htest
      exact .inr ⟨rfl, _, _, _, rfl, hbefore, .test after⟩
    · have hcalled :
          Undisturbed (calledOptional f.before .completed ++ [.calls c.routine (.ok test)]) := by
        refine undisturbed_append hbefore (undisturbed_cons ?_ undisturbed_nil)
        cases test <;> first | rfl | exact absurd rfl htest
      rw [← List.append_assoc]
      by_cases hafter : after = .aborted
      · subst hafter
        refine .inr ⟨by cases test <;> rfl, ?_⟩
        exact firstAbort_calledOptional hcalled hnone fun x hx => .after test hx
      · exact .inl (undisturbed_append hcalled (undisturbed_calledOptional hafter))

omit hh in
lemma ofStop_some (skipped : Bool) (e : RunError) :
    FixtureResult.ofStop skipped (some e) = ⟨false, .error e⟩ := by
  cases skipped <;> rfl

/-- The callbacks and calls for some test cases around the first call that was aborted. -/
def CasesAbort (f : Fixture ρ) (cs : List (TestCase ρ)) (pre : List (Note ρ)) (x : ρ)
    (post : List (Note ρ)) : Prop :=
  ∃ c ∈ cs, ∃ earlier before after, pre = earlier ++ .caseStarts f c :: before ∧
    post = after ++ [.caseFinished f c false] ∧ f.AbortsIn c before x after

lemma runCases_yields (flags : ExecutionFlags) (f : Fixture ρ) (cs : List (TestCase ρ)) :
    Yields I (runCases h.watched flags f cs) (runCases h flags f cs)
      fun result l => Undisturbed l ∨
        result = ⟨false, .error .aborted⟩ ∧ FirstAbort (CasesAbort f cs) l := by
  induction cs with
  | nil => exact yields_pure (.inl undisturbed_nil)
  | cons c rest ih =>
    refine (yields_request [.caseStarts f c] Note.ofAnswer (hh.caseStarts f c)).bind_of_eq
      fun answer => ?_
    cases answer with
    | error e =>
      exact yields_pure (.inl (undisturbed_cons rfl (undisturbed_cons rfl undisturbed_nil)))
    | ok u =>
      refine (runCase_yields hh f c).bind ?_
      rintro _ l ⟨o, rfl, hl⟩
      let verdict := CaseVerdict.ofOutcome flags f.name (.ok o)
      refine (yields_request [.caseFinished f c verdict.completed] (fun _ => [])
        (hh.caseFinished f c verdict.completed)).bind_of_eq fun _ => ?_
      change Yields I (if verdict.stop then _ else _) (if verdict.stop then _ else _) _
      have hstart : Undisturbed [Note.caseStarts f c] := undisturbed_cons rfl undisturbed_nil
      rcases hl with hl | ⟨rfl, hl⟩
      · have hcase : Undisturbed
            (.caseStarts f c :: (l ++ [.caseFinished f c verdict.completed])) :=
          undisturbed_cons rfl (undisturbed_append hl (undisturbed_cons rfl undisturbed_nil))
        split
        · refine yields_pure (.inl ?_)
          rwa [List.append_nil]
        · refine ih.mono ?_ fun _ hl => hl
          rintro result l' (hl' | ⟨rfl, hl'⟩)
          · refine .inl ?_
            rw [← List.append_assoc, ← List.append_assoc]
            exact undisturbed_append hcase hl'
          · refine .inr ⟨rfl, ?_⟩
            rw [← List.append_assoc, ← List.append_assoc, ← List.append_nil l']
            refine hl'.within hcase [] ?_
            rintro _ x _ ⟨c', hc', earlier, before, after, rfl, rfl, haborts⟩
            exact ⟨c', List.mem_cons_of_mem c hc', _, before, after, (List.append_assoc ..).symm,
              List.append_nil _, haborts⟩
      · -- an aborted test case stops the fixture and the run
        refine yields_pure (.inr ⟨ofStop_some _ _, ?_⟩)
        rw [List.append_nil]
        refine hl.within hstart [.caseFinished f c false] ?_
        rintro before x after haborts
        exact ⟨c, List.mem_cons_self, [], before, after, rfl, rfl, haborts⟩

/-! ### Fixtures -/

omit hh in
/-- A teardown does not undo an abort. -/
lemma andTeardown_aborted (flags : ExecutionFlags) (name : String) (o : Outcome) :
    (⟨false, .error .aborted⟩ : FixtureResult).andTeardown flags name (.ok o) =
      ⟨false, .error .aborted⟩ := by
  cases o <;> rfl

lemma runTeardown_yields (r : FixtureRun ρ) (result : FixtureResult) :
    Yields I (runTeardown h.watched r result) (runTeardown h r result)
      fun result' l => ∃ o, result' = result.andTeardown r.options.flags r.fixture.name (.ok o) ∧
        l = calledOptional r.fixture.teardown o ∧
        (r.fixture.teardown = none → o = .completed) := by
  refine (callOptional_yields hh r.fixture.teardown).bind ?_
  rintro _ _ ⟨o, rfl, rfl, hnone⟩
  exact yields_pure ⟨o, rfl, List.append_nil _, hnone⟩

lemma runRoutines_yields (r : FixtureRun ρ) :
    Yields I (runRoutines h.watched r) (runRoutines h r)
      fun result l => Undisturbed l ∨
        result = ⟨false, .error .aborted⟩ ∧ FirstAbort r.AbortsIn l := by
  have htorn (result : FixtureResult) (l : List (Note ρ)) (hl : Undisturbed l) :
      Yields I (runTeardown h.watched r result) (runTeardown h r result)
        fun result l' => Undisturbed (l ++ l') ∨
          result = ⟨false, .error .aborted⟩ ∧ FirstAbort r.AbortsIn (l ++ l') := by
    refine (runTeardown_yields hh r result).mono ?_ fun _ hl => hl
    rintro _ _ ⟨o, rfl, rfl, hnone⟩
    by_cases ho : o = .aborted
    · subst ho
      exact .inr ⟨rfl, firstAbort_calledOptional hl hnone fun x hx => .teardown l hx⟩
    · exact .inl (undisturbed_append hl (undisturbed_calledOptional ho))
  refine (callOptional_yields hh r.fixture.setup).bind ?_
  rintro _ _ ⟨setup, rfl, rfl, hnone⟩
  cases setup with
  | aborted =>
    refine yields_pure (.inr ⟨rfl, ?_⟩)
    rw [List.append_nil]
    exact firstAbort_calledOptional undisturbed_nil hnone fun x hx => .setup hx
  | failed =>
    have hsetup : Undisturbed (calledOptional r.fixture.setup .failed) :=
      undisturbed_calledOptional (by decide)
    change Yields I (if _ then _ else _) (if _ then _ else _) _
    split
    · refine yields_pure (.inl ?_)
      rwa [List.append_nil]
    · exact htorn _ _ hsetup
  | completed =>
    have hsetup : Undisturbed (calledOptional r.fixture.setup .completed) :=
      undisturbed_calledOptional (by decide)
    refine (runCases_yields hh r.options.flags r.fixture r.selected).bind ?_
    rintro result l (hl | ⟨rfl, hl⟩)
    · simp only [← List.append_assoc]
      exact htorn result _ (undisturbed_append hsetup hl)
    · refine (runTeardown_yields hh r _).mono ?_ fun _ hl => hl
      rintro _ _ ⟨o, rfl, rfl, -⟩
      refine .inr ⟨andTeardown_aborted _ _ o, hl.within hsetup _ ?_⟩
      rintro _ x _ ⟨c, hc, earlier, before, after, rfl, rfl, haborts⟩
      have hcase := AbortsIn.case earlier o hc haborts
      simpa only [List.append_assoc, List.cons_append, List.nil_append] using hcase

/-- The routines run, and then the threads that a default filament adopted are waited for and the
filament is taken back. -/
lemma runAdopting_yields (r : FixtureRun ρ) (d : FilamentId) :
    Yields I ((runAdopting h.watched r d).ensuring (h.watched.revokes r.fixture d))
      ((runAdopting h r d).ensuring (h.revokes r.fixture d))
      fun result l => Undisturbed l ∨
        result.1 = ⟨false, .error .aborted⟩ ∧ FirstAbort r.AbortsIn l := by
  have hroutines : Yields I (runAdopting h.watched r d) (runAdopting h r d)
      fun result l => Undisturbed l ∨
        result.1 = ⟨false, .error .aborted⟩ ∧ FirstAbort r.AbortsIn l := by
    refine (runRoutines_yields hh r).bind fun result l hl => ?_
    refine yields_aside_bind (hh.awaits r.fixture d) fun ended => yields_pure ?_
    rwa [List.append_nil]
  refine Writes.ensuring hroutines (fun _ hl => hl) (fun result l hl => ?_) fun _ hl => hl.elim
  refine (yields_request [] (fun _ => []) (hh.revokes r.fixture d)).mono ?_ fun _ hl => hl
  rintro _ _ rfl
  simpa using hl

/-- What is seen of a fixture that the observer has accepted. -/
abbrev AcceptedYields (r : FixtureRun ρ) (answer : Except RunError Unit) (l : List (Note ρ)) :
    Prop :=
  Undisturbed l ∨ answer = .error .aborted ∧
    FirstAbort (fun pre x post => ∃ post', post = post' ++ [.fixtureFinished r.fixture false] ∧
      r.AbortsIn pre x post') l

/-- The observer is told that the fixture finished, and that is the last of it. -/
lemma fixtureFinished_yields (r : FixtureRun ρ) (result : FixtureResult) (completed : Bool)
    {l : List (Note ρ)}
    (hl : Undisturbed l ∨
      (result = ⟨false, .error .aborted⟩ ∧ completed = false) ∧ FirstAbort r.AbortsIn l) :
    Yields I (do h.watched.fixtureFinished r.fixture completed; return result.result)
      (do h.fixtureFinished r.fixture completed; return result.result)
      fun answer l' => AcceptedYields r answer (l ++ l') := by
  refine (yields_request [.fixtureFinished r.fixture completed] (fun _ => [])
    (hh.fixtureFinished r.fixture completed)).bind_of_eq fun _ => yields_pure ?_
  rw [List.append_nil, List.append_nil]
  rcases hl with hl | ⟨⟨rfl, rfl⟩, hl⟩
  · exact .inl (undisturbed_append hl (undisturbed_cons rfl undisturbed_nil))
  · exact .inr ⟨rfl, hl.followed _ fun pre x post haborts => ⟨post, rfl, haborts⟩⟩

lemma runAccepted_yields (r : FixtureRun ρ) :
    Yields I (runAccepted h.watched r) (runAccepted h r) (AcceptedYields r) := by
  rw [runAccepted, runAccepted]
  split
  · refine yields_aside_bind (hh.installs r.fixture) fun installed => ?_
    cases installed with
    | error e =>
      exact fixtureFinished_yields hh r ⟨false, .error (.filament e)⟩ false (.inl undisturbed_nil)
    | ok d =>
      refine (runAdopting_yields hh r d).bind ?_
      rintro ⟨result, ended⟩ l hl
      refine fixtureFinished_yields hh r result _
        (hl.imp_right fun ⟨hresult, hl⟩ => ⟨⟨hresult, ?_⟩, hl⟩)
      rw [show result = ⟨false, .error .aborted⟩ from hresult]
      rfl
  · refine (runRoutines_yields hh r).bind fun result l hl => ?_
    refine fixtureFinished_yields hh r result _
      (hl.imp_right fun ⟨hresult, hl⟩ => ⟨⟨hresult, ?_⟩, hl⟩)
    rw [hresult]

end FixtureRun

/-! ### Plans -/

/-- What is seen of a plan around the first call that was aborted: it belongs to a fixture with `K`,
and nothing comes after that fixture. -/
def PlanAborts (K : FixtureRun ρ → Prop) (pre : List (Note ρ)) (x : ρ) (post : List (Note ρ)) :
    Prop :=
  ∃ r, K r ∧ ∃ earlier before after, pre = earlier ++ .fixtureStarts r.fixture :: before ∧
    post = after ++ [.fixtureFinished r.fixture false] ∧ r.AbortsIn before x after

/-- What is seen of a plan. -/
abbrev PlanYields (K : FixtureRun ρ → Prop) (answer : Except RunError Unit) (l : List (Note ρ)) :
    Prop :=
  Undisturbed l ∨ answer = .error .aborted ∧ FirstAbort (PlanAborts K) l

lemma FixtureRun.run_yields {h : Host σ ρ} {I : σ → Prop} (hh : h.Calm I) {K : FixtureRun ρ → Prop}
    {r : FixtureRun ρ} (hr : K r) : Flow.Yields I (run h.watched r) (run h r) (PlanYields K) := by
  refine Flow.yields_aside_bind hh.validates fun valid => ?_
  cases valid with
  | error e => exact Flow.yields_pure (.inl undisturbed_nil)
  | ok u =>
    refine (Flow.yields_request [.fixtureStarts r.fixture] Note.ofAnswer
      (hh.fixtureStarts r.fixture)).bind_of_eq fun answer => ?_
    cases answer with
    | error e =>
      exact Flow.yields_pure (.inl (undisturbed_cons rfl (undisturbed_cons rfl undisturbed_nil)))
    | ok u =>
      have hstart : Undisturbed [Note.fixtureStarts r.fixture] :=
        undisturbed_cons rfl undisturbed_nil
      refine (runAccepted_yields hh r).mono ?_ fun _ hl => hl
      rintro result l (hl | ⟨rfl, hl⟩)
      · exact .inl (undisturbed_append hstart hl)
      · refine .inr ⟨rfl, hl.preceded hstart ?_⟩
        rintro pre x _ ⟨post, rfl, haborts⟩
        exact ⟨r, hr, [], pre, post, rfl, rfl, haborts⟩

/-- What goes on after a plan that was not disturbed is all that is seen of an abort. -/
lemma PlanYields.append {K : FixtureRun ρ → Prop} {answer : Except RunError Unit}
    {l l' : List (Note ρ)} (hl : Undisturbed l) (hl' : PlanYields K answer l') :
    PlanYields K answer (l ++ l') := by
  rcases hl' with hl' | ⟨rfl, hl'⟩
  · exact .inl (undisturbed_append hl hl')
  · refine .inr ⟨rfl, hl'.preceded hl ?_⟩
    rintro _ x _ ⟨r, hr, earlier, before, after, rfl, rfl, haborts⟩
    exact ⟨r, hr, l ++ earlier, before, after, (List.append_assoc ..).symm, rfl, haborts⟩

namespace Plan

open Testbench.Flow

variable {I : σ → Prop} {g : Staging σ ρ α} {plan : σ → Plan α} {s : σ}

/-- Nobody is asked about a run that finds no room to nest in. -/
lemma joins_yields (K : FixtureRun ρ → Prop) : Joins (PlanYields K) fun _ => True where
  nothing := .inl undisturbed_nil
  stopped := trivial
  append hl hl' := by
    rcases hl with hl | ⟨herror, -⟩
    · exact PlanYields.append hl hl'
    · cases herror
  append_stopped _ _ := trivial

lemma runWatched_yields (hg : ∀ a, Holds plan g.run s a → (g.host a).Calm I) (depth : Nat)
    (i : ActionId) (hs : I s) :
    WritesAt (fun s' => Reached plan g.run s s' ∧ I s') (PlanYields (g.HoldsFixture plan s))
      (fun _ => True) (runWatched g plan depth i) (runFixtures g plan depth i) s := by
  refine (joins_yields _).runWatched (fun i a s' hs' hfound => ?_) depth i ⟨.start, hs⟩
  have hholds : Holds plan g.run s a := ⟨i, s', hs'.1, hfound⟩
  have hleaf := (FixtureRun.run_yields (K := g.HoldsFixture plan s) (hg a hholds)
    ⟨a, hholds, rfl⟩).mono (fun _ _ hl => hl) (fun _ _ => trivial)
  exact writesAt_of hleaf hs'.2 fun s₂ hran hs₂ => ⟨hs'.1.next hfound hran, hs₂⟩

/-- Where nothing unwinds, a plan that is taken as a tree comes back. -/
lemma leaves_return (hg : ∀ a, Holds plan g.run s a → (g.host a).Calm I)
    {items : List ActionId} {t : Forest α} (ht : Takes plan g.run items s t) (hs : I s) :
    ∃ answer s', inOrder g.run t.leaves s = (.ok answer, s') := by
  have hleaf (i : ActionId) (a : α) (s₁ : σ) (hs₁ : Reached plan g.run s s₁ ∧ I s₁)
      (hfound : (plan s₁).actions.get? i = some (.leaf a)) : ∃ answer s₂,
      g.run a s₁ = (.ok answer, s₂) ∧ (answer = .ok () → Reached plan g.run s s₂ ∧ I s₂) := by
    obtain ⟨l, -, hI, hend⟩ := FixtureRun.run_yields (K := (· = g.fixture a))
      (hg a ⟨i, s₁, hs₁.1, hfound⟩) rfl s₁ [] hs₁.2
    rcases ha : (g.fixture a).run (g.host a) s₁ with ⟨stop | answer, s₂⟩ <;>
      simp only [ha] at hI hend
    refine ⟨answer, s₂, ha, ?_⟩
    rintro rfl
    exact ⟨hs₁.1.next hfound ha, hI⟩
  obtain ⟨answer, s', hleaves, -⟩ := inOrder_returns ht hleaf ⟨.start, hs⟩
  exact ⟨answer, s', hleaves⟩

end Plan

/-- Where nothing unwinds and every routine can be called, a plan that is taken as a tree returns,
as its fixtures do one after the other, and watching it changes nothing. If a call is aborted, the
run comes to that, and what follows the first such call is what still belongs to its fixture. -/
theorem Plan.run_aborts {I : σ → Prop} {g : Plan.Staging σ ρ α} {plan : σ → Plan α} {s : σ}
    (hg : ∀ a, Plan.Holds plan g.run s a → (g.host a).Calm I) {root : ActionId} {t : Forest α}
    (ht : Plan.Takes plan g.run [root] s t) {depth : Nat} (hdepth : t.height ≤ depth) (hs : I s) :
    ∃ answer s' notes,
      Plan.runFixtures g plan depth root s = (.ok answer, s') ∧
      Plan.inOrder g.run t.leaves s = (.ok answer, s') ∧
      Plan.runWatched g plan depth root (s, []) = (.ok answer, s', notes) ∧
      ((∃ x, .calls x (.ok .aborted) ∈ notes) →
        answer = .error .aborted ∧ FirstAbort (PlanAborts (g.HoldsFixture plan s)) notes) := by
  obtain ⟨answer, s', hleaves⟩ := Plan.leaves_return hg ht hs
  have hrun : Plan.runFixtures g plan depth root s = (.ok answer, s') :=
    (Plan.run_eq_inOrder_leaves ht hdepth).trans hleaves
  obtain ⟨notes, hwatched, hnotes⟩ := Plan.runWatched_yields hg depth root hs []
  simp only [hrun] at hwatched hnotes
  refine ⟨answer, s', notes, hrun, hleaves, hwatched, ?_⟩
  rintro ⟨x, hx⟩
  rcases hnotes.1 with hundisturbed | haborts
  · cases hundisturbed _ hx
  · exact haborts

end Testbench
