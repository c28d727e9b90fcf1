import Mathlib.Data.List.Infix
import Testbench.Proofs.Run
import Testbench.Proofs.Run.Brackets

/-!
# Stricter flags

The flags of a run only ever add reasons to stop.  So of two runs of a fixture whose calls come out
alike, the one with more flags goes no further: it starts the first of the test cases that the other
starts, it has an error if the other has one, and if it tells the observer that the fixture ran to
completion, then so does the other.

The two runs part at the first failure, so that neither can be followed through the other.  They are
compared through the law instead, which says of each of them apart what is asked of its host; there
the flags only decide which case is the first that stops and whether an error comes of it.
-/

namespace Testbench

variable {σ τ ρ : Type}

/-! ### Flags -/

namespace ExecutionFlags

/-- Every bit that is set in one word is set in the other. -/
def Within (f g : ExecutionFlags) : Prop := f.bits &&& g.bits = f.bits

variable {f g : ExecutionFlags}

lemma Within.testBit (h : f.Within g) {i : UInt32} (hi : testBit f.bits i = true) :
    testBit g.bits i = true := by
  rw [Testbench.testBit, ← h, UInt32.shiftRight_and, beq_iff_eq] at hi
  rw [Testbench.testBit, beq_iff_eq]
  calc (g.bits >>> i) &&& 1
      = (g.bits >>> i) &&& ((f.bits >>> i) &&& (g.bits >>> i) &&& 1) := by rw [hi]
    _ = (f.bits >>> i) &&& (g.bits >>> i) &&& 1 := by
      rw [UInt32.and_comm (f.bits >>> i), UInt32.and_assoc, ← UInt32.and_assoc, UInt32.and_self]
    _ = 1 := hi

lemma Within.setupStopsRun (h : f.Within g) (hf : f.setupStopsRun = true) :
    g.setupStopsRun = true := by
  rw [ExecutionFlags.setupStopsRun, Bool.or_eq_true] at hf ⊢
  exact hf.imp h.testBit h.testBit

lemma Within.caseStopsFixture (h : f.Within g) (hf : f.caseStopsFixture = true) :
    g.caseStopsFixture = true := by
  rw [ExecutionFlags.caseStopsFixture, Bool.or_eq_true] at hf ⊢
  exact hf.imp h.testBit h.testBit

lemma Within.caseStopsRun (h : f.Within g) (hf : f.caseStopsRun = true) :
    g.caseStopsRun = true := by
  rw [ExecutionFlags.caseStopsRun, Bool.or_eq_true, Bool.and_eq_true] at hf ⊢
  exact hf.imp h.testBit (And.imp h.testBit h.testBit)

lemma Within.teardownStopsRun (h : f.Within g) (hf : f.teardownStopsRun = true) :
    g.teardownStopsRun = true := by
  rw [ExecutionFlags.teardownStopsRun, Bool.or_eq_true] at hf ⊢
  exact hf.imp h.testBit h.testBit

end ExecutionFlags

/-! ### Runs whose threads may be late -/

namespace FixtureRun

/-- The host grants what a run asks of it, its calls come out as `a` says, and `ended` tells whether
the threads that a default filament adopted all end in time. -/
inductive Plays (h : Host σ ρ) (r : FixtureRun ρ) (a : Answers) : Bool → σ → σ → Prop
  /-- No default filament is asked for. -/
  | plain {s s' : σ} (hflags : r.fixture.flags.anonymousThreads = false)
      (hmoves : h.Performs (r.trace a) s s') : Plays h r a true s s'
  /-- A default filament is asked for. -/
  | adopting {s s₁ s₂ s' : σ} {ended : Bool} (hflags : r.fixture.flags.anonymousThreads = true)
      (hbefore : h.Performs (.validates :: .fixtureStarts r.fixture
        :: .installs r.fixture a.filament :: r.routinesTrace a) s s₁)
      (hawaits : h.awaits r.fixture a.filament s₁ = (.ok ended, s₂))
      (hafter : h.Performs [.revokes r.fixture a.filament,
        .fixtureFinished r.fixture (r.completes a && ended)] s₂ s') : Plays h r a ended s s'

variable {h : Host σ ρ} {r : FixtureRun ρ} {a : Answers} {ended : Bool} {s s' : σ}

/-- A host that makes the moves of the law lets all threads end in time. -/
lemma Plays.of_performs (hp : h.Performs (r.trace a) s s') : r.Plays h a true s s' := by
  cases hflags : r.fixture.flags.anonymousThreads with
  | false => exact .plain hflags hp
  | true =>
    rw [trace, if_pos hflags] at hp
    obtain ⟨s₁, hvalid, s₂, hstarts, hrest⟩ := hp
    obtain ⟨s₃, ⟨s₄, hinstalls, hroutines⟩, hfinished⟩ := Host.performs_append.mp hrest
    obtain ⟨s₅, hroutines, s₆, hawaits, hrevokes⟩ := Host.performs_append.mp hroutines
    refine .adopting hflags ⟨s₁, hvalid, s₂, hstarts, s₄, hinstalls, hroutines⟩ hawaits ?_
    rw [Bool.and_true]
    exact ⟨s₃, Host.performs_singleton.mp hrevokes, hfinished⟩

/-- Whether its threads are late or not, a run takes its host where the moves of the law do. -/
lemma run_eq_of_plays (hp : r.Plays h a ended s s') : r.run h s = (.ok (r.verdict a), s') := by
  cases hp with
  | plain hflags hmoves => exact run_eq_of_performs hmoves
  | adopting hflags hbefore hawaits hafter =>
    obtain ⟨s₁, hvalid, s₂, hstarts, s₃, hinstalls, hroutines⟩ := hbefore
    obtain ⟨s₄, hrevokes, hfinished⟩ := hafter
    have hadopting : (runAdopting h r a.filament).ensuring (h.revokes r.fixture a.filament) s₃
        = (.ok (⟨r.completes a, r.verdict a⟩, ended), s₄) := by
      refine Flow.ensuring_ok ?_ hrevokes
      rw [runAdopting, Flow.bind_ok (runRoutines_eq hroutines), Flow.bind_ok hawaits]
      rfl
    rw [run, Flow.bind_ok hvalid]
    simp only []
    rw [Flow.bind_ok hstarts]
    simp only []
    rw [runAccepted, if_pos hflags, Flow.bind_ok hinstalls]
    simp only []
    rw [Flow.bind_ok hadopting]
    simp only []
    rw [Flow.bind_ok (Host.performs_singleton.mp hfinished)]
    rfl

end FixtureRun

/-! ### What is seen of it -/

/-- What is seen of a move. -/
def Move.notes : Move ρ → List (Note ρ)
  | .validates | .installs _ _ | .awaits _ _ | .revokes _ _ => []
  | .fixtureStarts f => [.fixtureStarts f]
  | .calls routine o => [.calls routine (.ok o)]
  | .caseStarts f c => [.caseStarts f c]
  | .caseFinished f c completed => [.caseFinished f c completed]
  | .fixtureFinished f completed => [.fixtureFinished f completed]

namespace Host

variable {h : Host σ ρ} {s s' : σ} {notes : List (Note ρ)}

lemma Makes.watched {m : Move ρ} (hm : h.Makes m s s') :
    h.watched.Makes m (s, notes) (s', notes ++ m.notes) := by
  cases m <;> simp only [Makes, Move.notes, Host.watched, Flow.aside, Flow.noting] at hm ⊢ <;>
    rw [hm] <;> simp [Note.ofAnswer]

lemma Performs.watched {ms : List (Move ρ)} (hms : h.Performs ms s s') (notes : List (Note ρ)) :
    h.watched.Performs ms (s, notes) (s', notes ++ ms.flatMap Move.notes) := by
  induction ms generalizing s notes with
  | nil =>
    obtain rfl : s' = s := hms
    rw [List.flatMap_nil, List.append_nil]
    rfl
  | cons m ms ih =>
    obtain ⟨s₁, hm, hms⟩ := hms
    rw [List.flatMap_cons, ← List.append_assoc]
    exact ⟨_, hm.watched, ih hms _⟩

end Host

namespace FixtureRun

variable {h : Host σ ρ} {r : FixtureRun ρ} {a : Answers} {ended : Bool} {s s' : σ}

/-- What is seen of a run. -/
def seen (r : FixtureRun ρ) (a : Answers) (ended : Bool) : List (Note ρ) :=
  .fixtureStarts r.fixture :: ((r.routinesTrace a).flatMap Move.notes
    ++ [.fixtureFinished r.fixture (r.completes a && ended)])

lemma Plays.watched (hp : r.Plays h a ended s s') :
    r.Plays h.watched a ended (s, []) (s', r.seen a ended) := by
  cases hp with
  | plain hflags hmoves =>
    refine .plain hflags ?_
    have hwatched := hmoves.watched []
    simpa [trace, hflags, seen, Move.notes] using hwatched
  | @adopting _ s₁ s₂ _ _ hflags hbefore hawaits hafter =>
    have hwaited (notes : List (Note ρ)) :
        h.watched.awaits r.fixture a.filament (s₁, notes) = (.ok ended, s₂, notes) := by
      simp only [Host.watched, Flow.aside, Flow.noting]
      rw [hawaits, List.append_nil, List.append_nil]
    refine .adopting hflags (hbefore.watched []) (hwaited _) ?_
    have hwatched := hafter.watched ((Move.validates :: .fixtureStarts r.fixture
      :: .installs r.fixture a.filament :: r.routinesTrace a).flatMap Move.notes)
    simpa [seen, Move.notes] using hwatched

/-- The test cases that a run starts are those up to the first that stops the fixture. -/
lemma started_seen (r : FixtureRun ρ) (a : Answers) (ended : Bool) :
    (r.seen a ended).filterMap Note.started? =
      ((r.played a).take (r.fixture.stopIndex r.options.flags (r.played a) + 1)).map Prod.fst := by
  have hcalls (cs : List (RoutineCall ρ)) :
      ((cs.map RoutineCall.move).flatMap Move.notes).filterMap Note.started? = [] := by
    induction cs with
    | nil => rfl
    | cons c cs ih => exact ih
  have hcase (p : Played ρ) :
      ((r.fixture.caseTrace p).flatMap Move.notes).filterMap Note.started? = [p.1] := by
    rw [Fixture.caseTrace, List.flatMap_cons, List.flatMap_append, List.filterMap_append,
      List.filterMap_append, hcalls]
    rfl
  have hcases (ps : List (Played ρ)) :
      ((ps.flatMap r.fixture.caseTrace).flatMap Move.notes).filterMap Note.started?
        = ps.map Prod.fst := by
    induction ps with
    | nil => rfl
    | cons p ps ih =>
      rw [List.flatMap_cons, List.flatMap_append, List.filterMap_append, hcase, ih]
      rfl
  have hteardown (b : Bool) (cs : List (RoutineCall ρ)) :
      ((if b then cs.map RoutineCall.move else []).flatMap Move.notes).filterMap Note.started?
        = [] := by
    cases b
    · rfl
    · exact hcalls cs
  rw [seen, routinesTrace, Fixture.casesTrace]
  simp only [List.flatMap_append, List.filterMap_cons, List.filterMap_append, hcalls, hcases,
    hteardown, List.filterMap_nil, List.nil_append, List.append_nil, Note.started?]

/-- The observer is told that a fixture finished just once, by its run. -/
lemma fixtureFinished_mem_seen {f : Fixture ρ} {completed : Bool} :
    .fixtureFinished f completed ∈ r.seen a ended ↔
      f = r.fixture ∧ completed = (r.completes a && ended) := by
  have hcalls (cs : List (RoutineCall ρ)) :
      .fixtureFinished f completed ∉ (cs.map RoutineCall.move).flatMap Move.notes := by
    simp [RoutineCall.move, Move.notes]
  have hcase (p : Played ρ) :
      .fixtureFinished f completed ∉ (r.fixture.caseTrace p).flatMap Move.notes := by
    simp [Fixture.caseTrace, RoutineCall.move, Move.notes]
  have hroutines : .fixtureFinished f completed ∉ (r.routinesTrace a).flatMap Move.notes := by
    rw [routinesTrace, Fixture.casesTrace, List.flatMap_append, List.flatMap_append,
      List.flatMap_assoc]
    intro hmem
    rcases List.mem_append.mp hmem with hmem | hmem
    · exact hcalls _ hmem
    rcases List.mem_append.mp hmem with hmem | hmem
    · obtain ⟨p, -, hp⟩ := List.mem_flatMap.mp hmem
      exact hcase p hp
    · split at hmem
      · exact hcalls _ hmem
      · cases hmem
  constructor
  · rintro (- | ⟨-, hmem⟩)
    rcases List.mem_append.mp hmem with hmem | hmem
    · exact absurd hmem hroutines
    · cases List.mem_singleton.mp hmem
      exact ⟨rfl, rfl⟩
  · rintro ⟨rfl, rfl⟩
    exact List.mem_cons_of_mem _ (List.mem_append_right _ (List.mem_singleton_self _))

end FixtureRun

/-! ### One run beside the other -/

/-- None of the calls for a test case comes out aborted. -/
structure CaseAnswers.Calm (c : CaseAnswers) : Prop where
  before : c.before ≠ .aborted
  test : c.test ≠ .aborted
  after : c.after ≠ .aborted

/-- No call comes out aborted. -/
structure Answers.Calm (a : Answers) : Prop where
  setup : a.setup ≠ .aborted
  cases : ∀ i, (a.cases i).Calm
  teardown : a.teardown ≠ .aborted

lemma outcomeOf_ne_aborted (routine : Option ρ) {o : Outcome} (h : o ≠ .aborted) :
    outcomeOf routine o ≠ .aborted := by
  cases routine
  · exact nofun
  · exact h

namespace CaseOutcome

variable {flags flags' : ExecutionFlags}

lemma stops_of_within (h : flags.Within flags') {o : CaseOutcome} (ho : o.stops flags = true) :
    o.stops flags' = true := by
  cases o with
  | completed => exact ho
  | failed role => exact h.caseStopsFixture ho
  | aborted => rfl

/-- A test case without aborts stops the run exactly if it stops the fixture under flags that have
failures of test cases stop the run. -/
lemma isSome_error?_iff {o : CaseOutcome} (ho : o ≠ .aborted) (fixture : String) :
    (o.error? flags fixture).isSome = true ↔ o ≠ .completed ∧ flags.caseStopsRun = true := by
  cases o with
  | completed => simp [error?]
  | failed role => simp [error?, ExecutionFlags.caseStopsRun]
  | aborted => exact absurd rfl ho

end CaseOutcome

namespace Fixture

variable {f : Fixture ρ} {flags flags' : ExecutionFlags} {ps : List (Played ρ)}

lemma outcomeOfCase_ne_aborted {p : Played ρ} (hp : p.2.Calm) : f.outcomeOfCase p ≠ .aborted := by
  rw [FixtureRun.outcomeOfCase_eq]
  have hbefore := outcomeOf_ne_aborted f.before hp.before
  have hafter := outcomeOf_ne_aborted f.after hp.after
  have htest := hp.test
  generalize outcomeOf f.before p.2.before = before at hbefore ⊢
  generalize outcomeOf f.after p.2.after = after at hafter ⊢
  generalize p.2.test = test at htest ⊢
  cases before <;> cases test <;> cases after <;> simp_all [CaseOutcome.ofRoutines]

variable (f ps) in
/-- Under stricter flags the first test case that stops the fixture comes no later. -/
lemma stopIndex_le_of_within (h : flags.Within flags') :
    f.stopIndex flags' ps ≤ f.stopIndex flags ps :=
  List.findIdx_le_findIdx fun _ _ => CaseOutcome.stops_of_within h

lemma isSome_casesError?_of_within (h : flags.Within flags') (hps : ∀ p ∈ ps, p.2.Calm)
    (herror : (f.casesError? flags ps).isSome = true) :
    (f.casesError? flags' ps).isSome = true := by
  obtain ⟨p, hp, hstop⟩ : ∃ p, ps[f.stopIndex flags ps]? = some p ∧
      ((f.outcomeOfCase p).error? flags f.name).isSome = true := by
    rw [casesError?, Option.isSome_bind, Option.any_eq_true] at herror
    exact herror
  obtain ⟨hlt, rfl⟩ := List.getElem?_eq_some_iff.mp hp
  have hruns : flags'.caseStopsRun = true := by
    have hcalm := outcomeOfCase_ne_aborted (f := f) (hps _ (List.getElem_mem hlt))
    exact h.caseStopsRun ((CaseOutcome.isSome_error?_iff hcalm _).mp hstop).2
  -- under the stricter flags another case may be the first that stops, but it has failed as well
  have hlt' : f.stopIndex flags' ps < ps.length :=
    Nat.lt_of_le_of_lt (stopIndex_le_of_within f ps h) hlt
  have hstops' : (f.outcomeOfCase ps[f.stopIndex flags' ps]).stops flags' = true :=
    List.findIdx_getElem (p := fun p => (f.outcomeOfCase p).stops flags') (w := hlt')
  rw [casesError?, List.getElem?_eq_getElem hlt', Option.bind_some,
    CaseOutcome.isSome_error?_iff (outcomeOfCase_ne_aborted (hps _ (List.getElem_mem hlt')))]
  refine ⟨fun hcompleted => ?_, hruns⟩
  rw [hcompleted] at hstops'
  cases hstops'

end Fixture

namespace FixtureRun

/-- The run under other flags. -/
def under (r : FixtureRun ρ) (flags : ExecutionFlags) : FixtureRun ρ :=
  { r with options := { r.options with flags } }

variable {r : FixtureRun ρ} {flags flags' : ExecutionFlags} {a : Answers}

lemma calm_of_mem_played (ha : a.Calm) {p : Played ρ} (hp : p ∈ r.played a) : p.2.Calm := by
  rw [played] at hp
  split at hp
  · obtain ⟨q, -, rfl⟩ := List.mem_map.mp hp
    exact ha.cases q.2
  · cases hp

/-- What setup and the test cases leave as an error is left under stricter flags, too. -/
lemma isSome_earlyError?_of_within (h : flags.Within flags') (ha : a.Calm)
    (herror : ((r.under flags).earlyError? a).isSome = true) :
    ((r.under flags').earlyError? a).isSome = true := by
  have hsetup : (r.under flags').setupOutcome a = (r.under flags).setupOutcome a := rfl
  rw [earlyError?] at herror ⊢
  rw [hsetup]
  cases ho : (r.under flags).setupOutcome a with
  | completed =>
    rw [ho] at herror
    exact Fixture.isSome_casesError?_of_within h (fun p hp => calm_of_mem_played ha hp) herror
  | failed =>
    rw [ho] at herror
    dsimp only at herror ⊢
    split at herror
    · rename_i hstops
      have hstops' : ((r.under flags').options.flags.setupEndsRun
          || (r.under flags').options.flags.endsRun) = true := h.setupStopsRun hstops
      rw [if_pos hstops']
      rfl
    · cases herror
  | aborted => rfl

lemma earlyError?_eq_none_of_within (h : flags.Within flags') (ha : a.Calm)
    (hnone : (r.under flags').earlyError? a = none) : (r.under flags).earlyError? a = none := by
  by_contra hsome
  have hsome' := isSome_earlyError?_of_within h ha (Option.isSome_iff_ne_none.mpr hsome)
  rw [hnone] at hsome'
  cases hsome'

lemma tearsDown_of_earlyError?_eq_none (h : r.earlyError? a = none) : r.tearsDown a = true := by
  rw [tearsDown, h]
  exact Bool.or_true _

/-- A run that has an error has one under stricter flags. -/
lemma isSome_error?_of_within (h : flags.Within flags') (ha : a.Calm)
    (herror : ((r.under flags).error? a).isSome = true) :
    ((r.under flags').error? a).isSome = true := by
  have hcalm : (r.under flags').teardownOutcome a ≠ .aborted := outcomeOf_ne_aborted _ ha.teardown
  cases hearly' : (r.under flags').earlyError? a with
  | some e =>
    -- an early error stays, whether teardown runs or not
    rw [error?]
    split
    · rw [errorAfterTeardown?, hearly']
      cases (r.under flags').teardownOutcome a <;> rfl
    · rw [hearly']
      rfl
  | none =>
    have hearly := earlyError?_eq_none_of_within h ha hearly'
    have hteardown : (r.under flags').teardownOutcome a = (r.under flags).teardownOutcome a := rfl
    rw [error?, if_pos (tearsDown_of_earlyError?_eq_none hearly), errorAfterTeardown?, hearly,
      ← hteardown] at herror
    rw [error?, if_pos (tearsDown_of_earlyError?_eq_none hearly'), errorAfterTeardown?, hearly']
    cases ho : (r.under flags').teardownOutcome a with
    | completed =>
      rw [ho] at herror
      cases herror
    | failed =>
      rw [ho] at herror
      dsimp only at herror ⊢
      split at herror
      · rename_i hstops
        have hstops' : ((r.under flags').options.flags.escalates
            || (r.under flags').options.flags.endsRun) = true := h.teardownStopsRun hstops
        rw [if_pos hstops']
        rfl
      · cases herror
    | aborted => exact absurd ho hcalm

/-- A run that completes under the stricter flags completes under the others, and calls the same
routines. -/
lemma completes_of_within (h : flags.Within flags') (ha : a.Calm)
    (hcompletes : (r.under flags').completes a = true) :
    (r.under flags).completes a = true ∧
      (r.under flags').routinesTrace a = (r.under flags).routinesTrace a := by
  simp only [completes, Bool.and_eq_true, decide_eq_true_eq, Option.isNone_iff_eq_none,
    Bool.not_eq_true'] at hcompletes ⊢
  obtain ⟨⟨⟨hsetup, hearly'⟩, hskips'⟩, hteardown⟩ := hcompletes
  have hearly := earlyError?_eq_none_of_within h ha hearly'
  have hle := r.fixture.stopIndex_le_of_within (r.played a) h
  have hlength' : (r.played a).length ≤ r.fixture.stopIndex flags' (r.played a) + 1 :=
    Nat.le_of_not_lt (of_decide_eq_false hskips')
  have hlength := Nat.le_trans hlength' (Nat.succ_le_succ hle)
  refine ⟨⟨⟨⟨hsetup, hearly⟩, decide_eq_false (Nat.not_lt.mpr hlength)⟩, hteardown⟩, ?_⟩
  have hcases : r.fixture.casesTrace flags' (r.played a)
      = r.fixture.casesTrace flags (r.played a) := by
    rw [Fixture.casesTrace, Fixture.casesTrace, List.take_of_length_le hlength',
      List.take_of_length_le hlength]
  rw [routinesTrace, routinesTrace, tearsDown_of_earlyError?_eq_none hearly,
    tearsDown_of_earlyError?_eq_none hearly']
  exact congrArg (fun l => _ ++ (l ++ _)) hcases

end FixtureRun

/-- A run has gone no further than another one, of which these notes and this result are. -/
structure Tightens (notes notes' : List (Note ρ)) (result result' : Except RunError Unit) :
    Prop where
  /-- It has started the first of the test cases that the other has started. -/
  started : notes'.filterMap Note.started? <+: notes.filterMap Note.started?
  /-- It has an error if the other has one. -/
  error : ∀ e, result = .error e → ∃ e', result' = .error e'
  /-- If it has told that the fixture ran to completion, so has the other. -/
  completed : ∀ f, .fixtureFinished f true ∈ notes' → .fixtureFinished f true ∈ notes

/-- Of two runs of a fixture whose calls come out alike, none of them aborted, the one with more
flags goes no further.  The observers accept every callback and all threads can be bound.  Whether
the threads that a default filament adopted end in time may be different for the two runs, unless
they have called the same routines. -/
theorem stricter_flags_tighten {r : FixtureRun ρ} {flags flags' : ExecutionFlags}
    (hflags : flags.Within flags') {a : Answers} (ha : a.Calm) {ended ended' : Bool}
    (hended : (r.under flags').routinesTrace a = (r.under flags).routinesTrace a → ended' = ended)
    {h : Host σ ρ} {s s' : σ} (hplays : (r.under flags).Plays h a ended s s')
    {h' : Host τ ρ} {t t' : τ} (hplays' : (r.under flags').Plays h' a ended' t t') :
    ∃ result result' notes notes',
      (r.under flags).run h.watched (s, []) = (.ok result, s', notes) ∧
      (r.under flags').run h'.watched (t, []) = (.ok result', t', notes') ∧
      Tightens notes notes' result result' := by
  refine ⟨_, _, _, _, FixtureRun.run_eq_of_plays hplays.watched,
    FixtureRun.run_eq_of_plays hplays'.watched, ?_, ?_, ?_⟩
  · rw [FixtureRun.started_seen, FixtureRun.started_seen]
    have hle := r.fixture.stopIndex_le_of_within (r.played a) hflags
    exact (List.take_prefix_take_left (Nat.succ_le_succ hle)).map Prod.fst
  · intro e he
    have hsome : ((r.under flags).error? a).isSome = true := by
      rw [FixtureRun.verdict] at he
      cases herror : (r.under flags).error? a with
      | none =>
        rw [herror] at he
        cases he
      | some e' => rfl
    obtain ⟨e', he'⟩ := Option.isSome_iff_exists.mp
      (FixtureRun.isSome_error?_of_within hflags ha hsome)
    exact ⟨e', by rw [FixtureRun.verdict, he']; rfl⟩
  · intro f hf
    obtain ⟨rfl, hcompletes'⟩ := FixtureRun.fixtureFinished_mem_seen.mp hf
    obtain ⟨hcompletes', hended'⟩ := Bool.and_eq_true_iff.mp hcompletes'.symm
    obtain ⟨hcompletes, hsame⟩ := FixtureRun.completes_of_within hflags ha hcompletes'
    refine FixtureRun.fixtureFinished_mem_seen.mpr ⟨rfl, ?_⟩
    rw [hcompletes, ← hended hsame, hended']
    rfl

/-- The first test case fails, and everything else runs to its end. -/
def breadless : Answers where
  setup := .completed
  cases i := ⟨.completed, if i = 0 then .failed else .completed, .completed⟩
  teardown := .completed
  filament := 0

/-- Two runs of the errands, of which only one stops when there is no bread. -/
theorem stricter_flags_tighten_errands :
    ({} : ExecutionFlags).Within (({} : ExecutionFlags).withEndsFixture true) ∧ breadless.Calm ∧
    ∃ s s' t t',
      (errands.under {}).Plays (Host.tape 0) breadless true s s' ∧
      (errands.under (({} : ExecutionFlags).withEndsFixture true)).Plays (Host.tape 0) breadless
        true t t' ∧
      ∃ result result' notes notes',
        (errands.under {}).run (Host.tape 0).watched (s, []) = (.ok result, s', notes) ∧
        (errands.under (({} : ExecutionFlags).withEndsFixture true)).run (Host.tape 0).watched
          (t, []) = (.ok result', t', notes') ∧
        Tightens notes notes' result result' := by
  have hflags : ({} : ExecutionFlags).Within (({} : ExecutionFlags).withEndsFixture true) := rfl
  have hcalm : breadless.Calm := by
    refine ⟨nofun, fun i => ⟨nofun, ?_, nofun⟩, nofun⟩
    change (if i = 0 then Outcome.failed else .completed) ≠ .aborted
    split <;> exact nofun
  have hplays (flags : ExecutionFlags) := FixtureRun.Plays.of_performs (r := errands.under flags)
    (Host.tape_performs (fun _ _ => filament_of_mem_trace (a := breadless)) [] [])
  exact ⟨hflags, hcalm, _, _, _, _, hplays _, hplays _,
    stricter_flags_tighten hflags hcalm (fun _ => rfl) (hplays _) (hplays _)⟩

end Testbench
