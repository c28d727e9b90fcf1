import Mathlib.Tactic.Lemma
import Testbench.Proofs.Run.Watched
import Testbench.Script.Store

/-!
# Callbacks in brackets

Whatever starts also finishes, and nothing starts in between that does not belong there.  The
callbacks of a run are blocks, one for each fixture that it ran, and a block holds a pair of
callbacks for each test case that it ran.  Only what the observer refuses is not finished: a fixture
that it refuses is a block of its own, a test case that it refuses is the last of its fixture, and
either is the last thing to start.  A run that stops on the way leaves off somewhere in such a
sequence.

Nothing is asked of the host here.  Its observer may be of another version or refuse what it likes,
its calls may fail, unwind or never come back, and it may change the plan while the run is under
way.
-/

namespace Testbench

variable {σ ρ α β : Type}

/-! ### Blocks -/

namespace Note

/-- Whether a note is of a callback. -/
def isCallback : Note ρ → Bool
  | .calls _ _ => false
  | .breaksOff _ _ => false
  | _ => true

/-- The callbacks among some notes. -/
def callbacks (notes : List (Note ρ)) : List (Note ρ) := notes.filter isCallback

@[simp] lemma callbacks_append (l l' : List (Note ρ)) :
    callbacks (l ++ l') = callbacks l ++ callbacks l' :=
  List.filter_append l l'

/-- The test case that a note says to start. -/
def started? : Note ρ → Option (TestCase ρ)
  | .caseStarts _ c => some c
  | _ => none

end Note

/-- Callbacks for the first of some test cases: each starts and finishes, but the last may be
refused. -/
inductive CaseBlocks (f : Fixture ρ) : List (TestCase ρ) → Bool → List (Note ρ) → Prop
  /-- No other test case starts. -/
  | stop (cs : List (TestCase ρ)) : CaseBlocks f cs false []
  /-- The next test case is refused, and it is the last. -/
  | refused (c : TestCase ρ) (cs : List (TestCase ρ)) :
      CaseBlocks f (c :: cs) true [.caseStarts f c, .refused]
  /-- The next test case starts and finishes. -/
  | finished (c : TestCase ρ) (completed : Bool) {cs : List (TestCase ρ)} {refused : Bool}
      {notes : List (Note ρ)} (rest : CaseBlocks f cs refused notes) :
      CaseBlocks f (c :: cs) refused (.caseStarts f c :: .caseFinished f c completed :: notes)

/-- The callbacks for a fixture, with whether one of them was refused. -/
inductive FixtureBlock (r : FixtureRun ρ) : Bool → List (Note ρ) → Prop
  /-- The fixture is refused. -/
  | refused : FixtureBlock r true [.fixtureStarts r.fixture, .refused]
  /-- The fixture starts, some of its selected test cases run, and it finishes. -/
  | finished (completed : Bool) {refused : Bool} {cases : List (Note ρ)}
      (hcases : CaseBlocks r.fixture r.selected refused cases) :
      FixtureBlock r refused
        (.fixtureStarts r.fixture :: (cases ++ [.fixtureFinished r.fixture completed]))

/-- Blocks one after the other, of runs with `K`. A block with a refusal is the last. -/
inductive Bracketed (K : FixtureRun ρ → Prop) : Bool → List (Note ρ) → Prop
  /-- No other fixture starts. -/
  | stop : Bracketed K false []
  /-- The last fixture is refused, or one of its test cases is. -/
  | refused {r : FixtureRun ρ} {notes : List (Note ρ)} (hr : K r)
      (block : FixtureBlock r true notes) : Bracketed K true notes
  /-- A fixture starts and finishes, and then the others come. -/
  | finished {r : FixtureRun ρ} {notes rest : List (Note ρ)} {refused : Bool} (hr : K r)
      (block : FixtureBlock r false notes) (others : Bracketed K refused rest) :
      Bracketed K refused (notes ++ rest)

/-! ### What is shown -/

namespace Flow

/-- The computation `w` does what `m` does and makes callbacks: those in `Q` if it returns, and
those in `E` if it stops. -/
def Shows (w : Flow (σ × List (Note ρ)) α) (m : Flow σ α) (Q : α → List (Note ρ) → Prop)
    (E : List (Note ρ) → Prop) : Prop :=
  Writes (fun _ => True) w m (fun a l => Q a (Note.callbacks l)) fun l => E (Note.callbacks l)

/-- The computation `w` does what `m` does and makes no callback. -/
def Silent (w : Flow (σ × List (Note ρ)) α) (m : Flow σ α) : Prop :=
  Shows w m (fun _ l => l = []) fun l => l = []

variable {w : Flow (σ × List (Note ρ)) α} {m : Flow σ α} {Q : α → List (Note ρ) → Prop}
  {E E' : List (Note ρ) → Prop}

lemma shows_pure {a : α} (ha : Q a []) :
    Shows (pure a : Flow (σ × List (Note ρ)) α) (pure a) Q E :=
  writes_pure ha

lemma Shows.bind {v : α → Flow (σ × List (Note ρ)) β} {k : α → Flow σ β}
    {Q' : β → List (Note ρ) → Prop} (h : Shows w m Q E) (hE : ∀ l, E l → E' l)
    (hk : ∀ a l, Q a l → Shows (v a) (k a) (fun b l' => Q' b (l ++ l')) fun l' => E' (l ++ l')) :
    Shows (w >>= v) (m >>= k) Q' E' := by
  refine Writes.bind h (fun l hl => hE _ hl) fun a l hl => ?_
  simp only [Note.callbacks_append]
  exact hk a _ hl

lemma Shows.mono {Q' : α → List (Note ρ) → Prop} (h : Shows w m Q E)
    (hQ : ∀ a l, Q a l → Q' a l) (hE : ∀ l, E l → E' l) : Shows w m Q' E' :=
  Writes.mono h (fun a _ => hQ a _) fun _ => hE _

/-- A request that somebody watches is made in any case, and answered if it returns. -/
lemma shows_noting (before : List (Note ρ)) (after : α → List (Note ρ)) (m : Flow σ α) :
    Shows (noting before after m) m
      (fun a l => l = Note.callbacks before ++ Note.callbacks (after a))
      fun l => l = Note.callbacks before := by
  refine writes_noting fun s _ => ⟨trivial, ?_⟩
  split
  · exact Note.callbacks_append _ _
  · rw [List.append_nil]

lemma silent_aside (m : Flow σ α) : Silent (aside m : Flow (σ × List (Note ρ)) α) m :=
  shows_noting [] (fun _ => []) m

lemma silent_pure (a : α) : Silent (pure a : Flow (σ × List (Note ρ)) α) (pure a) :=
  shows_pure rfl

/-- What comes after a silent computation makes all the callbacks. -/
lemma Silent.bind_shows {v : α → Flow (σ × List (Note ρ)) β} {k : α → Flow σ β}
    {Q : β → List (Note ρ) → Prop} (h : Silent w m) (hE : E [])
    (hk : ∀ a, Shows (v a) (k a) Q E) : Shows (w >>= v) (m >>= k) Q E := by
  refine Shows.bind h ?_ ?_
  · rintro l rfl
    exact hE
  · rintro a l rfl
    exact hk a

/-- What is done silently at the end of a computation adds no callback. -/
lemma Shows.ensuring {finish : Flow (σ × List (Note ρ)) Unit} {last : Flow σ Unit}
    (h : Shows w m Q E) (hE : ∀ a l, Q a l → E l) (hfinish : Silent finish last) :
    Shows (w.ensuring finish) (m.ensuring last) Q E := by
  have hlast {Q' : Unit → List (Note ρ) → Prop} {l : List (Note ρ)} (hQ : Q' () l) (hl : E l) :
      Shows finish last (fun u l' => Q' u (l ++ l')) fun l' => E (l ++ l') := by
    refine hfinish.mono ?_ ?_
    · rintro _ _ rfl
      rwa [List.append_nil]
    · rintro _ rfl
      rwa [List.append_nil]
  refine Writes.ensuring h (fun _ hl => hl) (fun a l hl => ?_) fun l hl => ?_
  · simp only [Note.callbacks_append]
    exact hlast hl (hE a _ hl)
  · simp only [Note.callbacks_append]
    exact hlast hl hl

lemma Silent.bind {v : α → Flow (σ × List (Note ρ)) β} {k : α → Flow σ β} (h : Silent w m)
    (hk : ∀ a, Silent (v a) (k a)) : Silent (w >>= v) (m >>= k) :=
  h.bind_shows rfl hk

end Flow

namespace FixtureRun

open Testbench.Flow

variable (h : Host σ ρ)

/-! ### Routines -/

lemma callRoutine_silent (routine : ρ) :
    Silent (callRoutine h.watched routine) (callRoutine h routine) := by
  have hcall : Silent (h.watched.call routine) (h.call routine) :=
    writes_noting fun s _ => ⟨trivial, by split <;> rfl⟩
  refine hcall.bind fun answer => ?_
  cases answer <;> exact silent_pure _

lemma callOptional_silent (routine : Option ρ) :
    Silent (callOptional h.watched routine) (callOptional h routine) := by
  cases routine with
  | none => exact silent_pure _
  | some routine => exact callRoutine_silent h routine

lemma runCase_silent (f : Fixture ρ) (c : TestCase ρ) :
    Silent (runCase h.watched f c) (runCase h f c) := by
  refine (callOptional_silent h f.before).bind fun before => ?_
  rcases before with e | _ | _ | _
  · exact silent_pure _
  · refine (callRoutine_silent h c.routine).bind fun test => ?_
    cases test with
    | error e => exact silent_pure _
    | ok test =>
      refine (callOptional_silent h f.after).bind fun after => ?_
      cases after <;> exact silent_pure _
  · exact silent_pure _
  · exact silent_pure _

/-! ### Test cases -/

/-- What the test cases of a fixture show: a refusal makes an error. -/
abbrev CasesShown (f : Fixture ρ) (cs : List (TestCase ρ)) (result : FixtureResult)
    (l : List (Note ρ)) : Prop :=
  ∃ refused, CaseBlocks f cs refused l ∧ (refused = true → ∃ e, result.result = .error e)

/-- What the test cases of a fixture show up to somewhere. -/
abbrev CasesBegun (f : Fixture ρ) (cs : List (TestCase ρ)) (l : List (Note ρ)) : Prop :=
  ∃ refused rest, CaseBlocks f cs refused (l ++ rest)

lemma runCases_shows (flags : ExecutionFlags) (f : Fixture ρ) (cs : List (TestCase ρ)) :
    Shows (runCases h.watched flags f cs) (runCases h flags f cs) (CasesShown f cs)
      (CasesBegun f cs) := by
  induction cs with
  | nil => exact shows_pure ⟨false, .stop [], by simp⟩
  | cons c rest ih =>
    refine (shows_noting [.caseStarts f c] Note.ofAnswer (h.caseStarts f c)).bind ?_ ?_
    · rintro _ rfl
      exact ⟨true, [.refused], .refused c rest⟩
    rintro answer _ rfl
    cases answer with
    | error e => exact shows_pure ⟨true, .refused c rest, fun _ => ⟨_, rfl⟩⟩
    | ok u =>
      -- from here on the test case is open, and whatever stops the run could still close it
      have hopen : CasesBegun f (c :: rest) [.caseStarts f c] :=
        ⟨false, [.caseFinished f c false], .finished c false (.stop rest)⟩
      refine (runCase_silent h f c).bind_shows hopen fun outcome => ?_
      let verdict := CaseVerdict.ofOutcome flags f.name outcome
      refine (shows_noting [.caseFinished f c verdict.completed] (fun _ => [])
        (h.caseFinished f c verdict.completed)).bind ?_ ?_
      · rintro _ rfl
        exact ⟨false, [], .finished c _ (.stop rest)⟩
      rintro _ _ rfl
      change Shows (if verdict.stop then _ else _) (if verdict.stop then _ else _) _ _
      split
      · exact shows_pure ⟨false, .finished c _ (.stop rest), by simp⟩
      · refine ih.mono ?_ ?_
        · rintro result l ⟨refused, hl, herror⟩
          exact ⟨refused, .finished c _ hl, herror⟩
        · rintro l ⟨refused, more, hl⟩
          exact ⟨refused, more, .finished c _ hl⟩

/-! ### Fixtures -/

/-- A teardown does not undo an error. -/
lemma andTeardown_error (flags : ExecutionFlags) (name : String) {result : FixtureResult}
    (h : ∃ e, result.result = .error e) (outcome : Except RunError Outcome) :
    ∃ e, (result.andTeardown flags name outcome).result = .error e := by
  obtain ⟨e, he⟩ := h
  rcases outcome with e' | _ | _ | _ <;> simp [FixtureResult.andTeardown, he]

lemma runRoutines_shows (r : FixtureRun ρ) :
    Shows (runRoutines h.watched r) (runRoutines h r) (CasesShown r.fixture r.selected)
      (CasesBegun r.fixture r.selected) := by
  have hnone : CaseBlocks r.fixture r.selected false [] := .stop _
  refine (callOptional_silent h r.fixture.setup).bind_shows ⟨false, [], hnone⟩ fun setup => ?_
  have htorn (result : FixtureResult) (l : List (Note ρ))
      (hl : CasesShown r.fixture r.selected result l) :
      Shows (runTeardown h.watched r result) (runTeardown h r result)
        (fun result l' => CasesShown r.fixture r.selected result (l ++ l'))
        fun l' => CasesBegun r.fixture r.selected (l ++ l') := by
    obtain ⟨refused, hl, herror⟩ := hl
    refine (callOptional_silent h r.fixture.teardown).bind_shows ?_ fun outcome => shows_pure ?_
    · exact ⟨refused, [], by simpa using hl⟩
    · exact ⟨refused, by simpa using hl, fun hrefused => andTeardown_error _ _ (herror hrefused) _⟩
  rcases setup with e | _ | _ | _
  · exact shows_pure ⟨false, hnone, by simp⟩
  · exact (runCases_shows h r.options.flags r.fixture r.selected).bind (fun _ hl => hl) htorn
  · change Shows (if _ then _ else _) (if _ then _ else _) _ _
    split
    · exact shows_pure ⟨false, hnone, by simp⟩
    · exact htorn _ [] ⟨false, hnone, by simp⟩
  · exact shows_pure ⟨false, hnone, by simp⟩

/-- What a fixture shows that the observer has accepted. -/
abbrev AcceptedShown (r : FixtureRun ρ) (result : Except RunError Unit) (l : List (Note ρ)) :
    Prop :=
  ∃ refused cases completed, CaseBlocks r.fixture r.selected refused cases ∧
    l = cases ++ [.fixtureFinished r.fixture completed] ∧
    (refused = true → ∃ e, result = .error e)

/-- What a fixture shows that the observer has accepted, up to somewhere. -/
abbrev AcceptedBegun (r : FixtureRun ρ) (l : List (Note ρ)) : Prop :=
  ∃ refused cases completed rest, CaseBlocks r.fixture r.selected refused cases ∧
    l ++ rest = cases ++ [.fixtureFinished r.fixture completed]

lemma CasesBegun.accepted {r : FixtureRun ρ} {l : List (Note ρ)}
    (hl : CasesBegun r.fixture r.selected l) : AcceptedBegun r l := by
  obtain ⟨refused, rest, hl⟩ := hl
  exact ⟨refused, l ++ rest, false, rest ++ [.fixtureFinished r.fixture false], hl,
    (List.append_assoc ..).symm⟩

/-- The observer is told that the fixture finished, and that is the last of it. -/
lemma fixtureFinished_shows {r : FixtureRun ρ} {result : FixtureResult} {l : List (Note ρ)}
    (hl : CasesShown r.fixture r.selected result l) (completed : Bool) :
    Shows (do h.watched.fixtureFinished r.fixture completed; return result.result)
      (do h.fixtureFinished r.fixture completed; return result.result)
      (fun answer l' => AcceptedShown r answer (l ++ l')) fun l' => AcceptedBegun r (l ++ l') := by
  obtain ⟨refused, hl, herror⟩ := hl
  refine (shows_noting [.fixtureFinished r.fixture completed] (fun _ => [])
    (h.fixtureFinished r.fixture completed)).bind ?_ ?_
  · rintro _ rfl
    exact ⟨refused, l, completed, [], hl, List.append_nil _⟩
  · rintro _ _ rfl
    exact shows_pure ⟨refused, l, completed, hl, rfl, herror⟩

lemma runAdopting_shows (r : FixtureRun ρ) (d : FilamentId) :
    Shows (runAdopting h.watched r d) (runAdopting h r d)
      (fun result => CasesShown r.fixture r.selected result.1)
      (CasesBegun r.fixture r.selected) := by
  refine (runRoutines_shows h r).bind (fun _ hl => hl) fun result l hl => ?_
  refine (silent_aside (h.awaits r.fixture d)).bind_shows ?_ fun ended => shows_pure ?_
  · obtain ⟨refused, hl, -⟩ := hl
    exact ⟨refused, [], by simpa using hl⟩
  · simpa using hl

lemma runAccepted_shows (r : FixtureRun ρ) :
    Shows (runAccepted h.watched r) (runAccepted h r) (AcceptedShown r) (AcceptedBegun r) := by
  have hnone : CaseBlocks r.fixture r.selected false [] := .stop _
  rw [runAccepted, runAccepted]
  split
  · refine (silent_aside (h.installs r.fixture)).bind_shows ?_ fun installed => ?_
    · exact CasesBegun.accepted ⟨false, [], hnone⟩
    cases installed with
    | error e =>
      -- a default filament that cannot be installed is reported once the fixture is closed
      have hnothing : CasesShown r.fixture r.selected ⟨false, .error (.filament e)⟩ [] :=
        ⟨false, hnone, by simp⟩
      exact fixtureFinished_shows h hnothing false
    | ok d =>
      refine ((runAdopting_shows h r d).ensuring ?_
        (silent_aside (h.revokes r.fixture d))).bind ?_ ?_
      · rintro _ l ⟨refused, hl, -⟩
        exact ⟨refused, [], by rwa [List.append_nil]⟩
      · exact fun l => CasesBegun.accepted
      · rintro ⟨result, ended⟩ l hl
        exact fixtureFinished_shows h hl _
  · refine (runRoutines_shows h r).bind (fun l => CasesBegun.accepted) fun result l hl => ?_
    exact fixtureFinished_shows h hl _

lemma AcceptedBegun.block {r : FixtureRun ρ} {l : List (Note ρ)} (hl : AcceptedBegun r l) :
    ∃ refused rest, FixtureBlock r refused (.fixtureStarts r.fixture :: l ++ rest) := by
  obtain ⟨refused, cases, completed, rest, hcases, hl⟩ := hl
  refine ⟨refused, rest, ?_⟩
  rw [List.cons_append, hl]
  exact .finished completed hcases

/-- What the run of a fixture shows: nothing, if the observer is of another version, or a block. A
refusal makes an error. -/
abbrev BlockShown (r : FixtureRun ρ) (result : Except RunError Unit) (l : List (Note ρ)) : Prop :=
  l = [] ∨ ∃ refused, FixtureBlock r refused l ∧ (refused = true → ∃ e, result = .error e)

/-- What the run of a fixture shows up to somewhere. -/
abbrev BlockBegun (r : FixtureRun ρ) (l : List (Note ρ)) : Prop :=
  ∃ refused rest, FixtureBlock r refused (l ++ rest)

lemma run_shows (r : FixtureRun ρ) :
    Shows (run h.watched r) (run h r) (BlockShown r) (BlockBegun r) := by
  refine (silent_aside h.validate).bind_shows ⟨true, _, .refused⟩ fun valid => ?_
  cases valid with
  | error e => exact shows_pure (.inl rfl)
  | ok u =>
    refine (shows_noting [.fixtureStarts r.fixture] Note.ofAnswer
      (h.fixtureStarts r.fixture)).bind ?_ ?_
    · rintro _ rfl
      exact ⟨true, [.refused], .refused⟩
    rintro answer _ rfl
    cases answer with
    | error e => exact shows_pure (.inr ⟨true, .refused, fun _ => ⟨_, rfl⟩⟩)
    | ok u =>
      refine (runAccepted_shows h r).mono ?_ fun l => AcceptedBegun.block
      rintro result l ⟨refused, cases, completed, hcases, rfl, herror⟩
      exact .inr ⟨refused, .finished completed hcases, herror⟩

end FixtureRun

/-! ### Plans -/

/-- What a plan shows: a refusal makes an error. -/
abbrev PlanShown (K : FixtureRun ρ → Prop) (result : Except RunError Unit) (l : List (Note ρ)) :
    Prop :=
  ∃ refused, Bracketed K refused l ∧ (refused = true → ∃ e, result = .error e)

/-- What a plan shows up to somewhere. -/
abbrev PlanBegun (K : FixtureRun ρ → Prop) (l : List (Note ρ)) : Prop :=
  ∃ refused rest, Bracketed K refused (l ++ rest)

lemma Bracketed.append {K : FixtureRun ρ → Prop} {l l' : List (Note ρ)} {refused refused' : Bool}
    (hl : Bracketed K refused l) (hrefused : refused = false) (hl' : Bracketed K refused' l') :
    Bracketed K refused' (l ++ l') := by
  induction hl with
  | stop => exact hl'
  | refused hr block => cases hrefused
  | finished hr block others ih =>
    rw [List.append_assoc]
    exact .finished hr block (ih hrefused)

namespace Plan

open Testbench.Flow

variable (g : Staging σ ρ α) {K : FixtureRun ρ → Prop}

lemma runLeaf_shows {a : α} (hr : K (g.fixture a)) :
    Shows (g.runWatched a) (g.run a) (PlanShown K) (PlanBegun K) := by
  refine (FixtureRun.run_shows (g.host a) (g.fixture a)).mono ?_ ?_
  · rintro result l (rfl | ⟨refused, block, herror⟩)
    · exact ⟨false, .stop, by simp⟩
    · refine ⟨refused, ?_, herror⟩
      cases refused with
      | true => exact .refused hr block
      | false =>
        rw [← List.append_nil l]
        exact .finished hr block .stop
  · rintro l ⟨refused, rest, block⟩
    cases refused with
    | true => exact ⟨true, rest, .refused hr block⟩
    | false =>
      refine ⟨false, rest, ?_⟩
      rw [← List.append_nil (l ++ rest)]
      exact .finished hr block .stop

/-- Blocks after blocks are blocks: the run would not go on if anything had been refused. -/
lemma joins_shown : Joins (fun answer l => PlanShown K answer (Note.callbacks l))
    fun l => PlanBegun K (Note.callbacks l) := by
  have hnone {l : List (Note ρ)} (hl : PlanShown K (.ok ()) l) : Bracketed K false l := by
    obtain ⟨refused, hl, herror⟩ := hl
    cases refused with
    | false => exact hl
    | true =>
      obtain ⟨e, he⟩ := herror rfl
      cases he
  refine ⟨⟨false, .stop, by simp⟩, ⟨false, [], .stop⟩, ?_, ?_⟩
  · rintro answer l l' hl ⟨refused, hl', herror⟩
    rw [Note.callbacks_append]
    exact ⟨refused, (hnone hl).append rfl hl', herror⟩
  · rintro l l' hl ⟨refused, more, hl'⟩
    rw [Note.callbacks_append]
    refine ⟨refused, more, ?_⟩
    rw [List.append_assoc]
    exact (hnone hl).append rfl hl'

lemma runWatched_shows (plan : σ → Plan α) (depth : Nat) (i : ActionId) (s : σ) :
    WritesAt (Reached plan g.run s)
      (fun answer l => PlanShown (g.HoldsFixture plan s) answer (Note.callbacks l))
      (fun l => PlanBegun (g.HoldsFixture plan s) (Note.callbacks l))
      (runWatched g plan depth i) (runFixtures g plan depth i) s := by
  refine joins_shown.runWatched (fun i a s' hs' hfound => ?_) depth i .start
  exact writesAt_of (runLeaf_shows g ⟨a, ⟨i, s', hs', hfound⟩, rfl⟩) trivial
    fun s₂ hleaf _ => hs'.next hfound hleaf

end Plan

/-- Callbacks are well bracketed: in whatever state a plan of fixtures is run, watching it changes
nothing, and if it returns its callbacks are blocks of fixtures that the plan came to hold. After a
refusal nothing else starts, and the run comes to an error. If it stops on the way, its callbacks are
the beginning of such a sequence. -/
theorem callbacks_bracketed (g : Plan.Staging σ ρ α) (plan : σ → Plan α) (depth : Nat)
    (root : ActionId) (s : σ) :
    ∃ result s' notes,
      Plan.runFixtures g plan depth root s = (result, s') ∧
      Plan.runWatched g plan depth root (s, []) = (result, s', notes) ∧
      match result with
      | .ok answer => ∃ refused, Bracketed (g.HoldsFixture plan s) refused (Note.callbacks notes) ∧
          (refused = true → ∃ e, answer = .error e)
      | .error _ => ∃ refused blocks,
          Bracketed (g.HoldsFixture plan s) refused blocks ∧ Note.callbacks notes <+: blocks := by
  obtain ⟨notes, hwatched, hnotes⟩ := Plan.runWatched_shows g plan depth root s []
  rcases hrun : Plan.runFixtures g plan depth root s with ⟨stop | answer, s'⟩ <;>
    simp only [hrun] at hwatched hnotes
  · obtain ⟨refused, rest, hblocks⟩ := hnotes
    exact ⟨_, s', notes, rfl, hwatched, refused, _, hblocks, rest, rfl⟩
  · exact ⟨_, s', notes, rfl, hwatched, hnotes.1⟩

/-- Scripted actions are run in this way, each with the surroundings that its job names. -/
example (exec : Script.Routine → Script.Play Unit) (o : ObserverId) (root : ActionId) :
    Plan.run (fun i => World.seeStore (·.plan.actions.get? i)) (fun j => j.perform exec o)
        Script.room root =
      Plan.runFixtures ⟨Job.host exec o, Job.run⟩ (·.store.plan) Script.room root := rfl

end Testbench
