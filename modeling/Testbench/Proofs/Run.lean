import Testbench.Proofs.Flow
import Testbench.Proofs.Run.Law

/-!
# Runs keep the law

A run asks its host for exactly what the law says, and comes to what the law says.  The host is any
host, so this holds of whatever a run changes: if the host, asked for the moves of the law one after
the other, gets from one state to another, then so does the run.  The proof follows the parts of a
run; the loop over the test cases is where an induction is needed.
-/

namespace Testbench

variable {σ ρ : Type} {h : Host σ ρ} {s s' : σ}

/-! ### Moves in sequence -/

namespace Host

lemma performs_append {ms ns : List (Move ρ)} :
    h.Performs (ms ++ ns) s s' ↔ ∃ s₁, h.Performs ms s s₁ ∧ h.Performs ns s₁ s' := by
  induction ms generalizing s with
  | nil =>
    constructor
    · exact fun hn => ⟨s, rfl, hn⟩
    · rintro ⟨_, rfl, hn⟩
      exact hn
  | cons m ms ih =>
    constructor
    · rintro ⟨s₁, hm, hms⟩
      obtain ⟨s₂, hms, hn⟩ := ih.mp hms
      exact ⟨s₂, ⟨s₁, hm, hms⟩, hn⟩
    · rintro ⟨s₂, ⟨s₁, hm, hms⟩, hn⟩
      exact ⟨s₁, hm, ih.mpr ⟨s₂, hms, hn⟩⟩

lemma performs_singleton {m : Move ρ} : h.Performs [m] s s' ↔ h.Makes m s s' := by
  constructor
  · rintro ⟨s₁, hm, rfl⟩
    exact hm
  · exact fun hm => ⟨s', hm, rfl⟩

end Host

/-! ### Routines -/

namespace FixtureRun

lemma callRoutine_eq {routine : ρ} {o : Outcome} (hc : h.Makes (.calls routine o) s s') :
    callRoutine h routine s = (.ok (.ok o), s') := by
  rw [callRoutine, Flow.bind_ok hc]
  rfl

lemma callOptional_eq {role : Role} {routine : Option ρ} {o : Outcome}
    (hp : h.Performs ((optionalCall role routine o).map RoutineCall.move) s s') :
    callOptional h routine s = (.ok (.ok (outcomeOf routine o)), s') := by
  cases routine with
  | none =>
    obtain rfl : s' = s := hp
    rfl
  | some routine => exact callRoutine_eq (Host.performs_singleton.mp hp)

/-! ### Test cases -/

/-- The outcome of a test case stage by stage. -/
lemma outcomeOfCase_eq (f : Fixture ρ) (p : Played ρ) :
    f.outcomeOfCase p = match outcomeOf f.before p.2.before with
      | .failed => .failed .before
      | .aborted => .aborted
      | .completed => .ofRoutines p.2.test (outcomeOf f.after p.2.after) := by
  obtain ⟨c, before, test, after⟩ := p
  rw [Fixture.outcomeOfCase, Fixture.callsOf]
  -- the calls are listed only once it is known which routines are there
  rcases f.before with - | b
  · rcases f.after with - | a
    · cases test <;> rfl
    · cases test <;> cases after <;> rfl
  · cases before with
    | failed => rfl
    | aborted => rfl
    | completed =>
      rcases f.after with - | a
      · cases test <;> rfl
      · cases test <;> cases after <;> rfl

lemma runCase_eq {f : Fixture ρ} {p : Played ρ}
    (hp : h.Performs ((f.callsOf p).map RoutineCall.move) s s') :
    runCase h f p.1 s = (.ok (.ok (f.outcomeOfCase p)), s') := by
  rw [Fixture.callsOf, List.map_append, Host.performs_append] at hp
  obtain ⟨s₁, hbefore, hrest⟩ := hp
  rw [outcomeOfCase_eq, runCase, Flow.bind_ok (callOptional_eq hbefore)]
  cases ho : outcomeOf f.before p.2.before with
  | failed =>
    -- neither the test nor what comes after it is called
    rw [if_neg (by rw [ho]; decide)] at hrest
    obtain rfl : s' = s₁ := hrest
    rfl
  | aborted =>
    rw [if_neg (by rw [ho]; decide)] at hrest
    obtain rfl : s' = s₁ := hrest
    rfl
  | completed =>
    rw [if_pos ho] at hrest
    obtain ⟨s₂, htest, hafter⟩ := hrest
    simp only []
    rw [Flow.bind_ok (callRoutine_eq htest)]
    simp only []
    rw [Flow.bind_ok (callOptional_eq hafter)]
    rfl

/-- The policy on test cases, case by case. -/
lemma ofOutcome_eq (flags : ExecutionFlags) (fixture : String) (o : CaseOutcome) :
    CaseVerdict.ofOutcome flags fixture (.ok o) =
      ⟨o = .completed, o.stops flags, o.error? flags fixture⟩ := by
  cases o <;> rfl

/-- What the test cases come to. -/
def casesResult (f : Fixture ρ) (flags : ExecutionFlags) (ps : List (Played ρ)) : FixtureResult :=
  ⟨(f.casesError? flags ps).isNone && !f.skips flags ps, stoppedBy (f.casesError? flags ps)⟩

section

variable {f : Fixture ρ} {flags : ExecutionFlags} {p : Played ρ} (ps : List (Played ρ))

lemma stopIndex_of_stops (hp : (f.outcomeOfCase p).stops flags = true) :
    f.stopIndex flags (p :: ps) = 0 := by
  rw [Fixture.stopIndex, List.findIdx_cons, hp, cond_true]

lemma stopIndex_of_not_stops (hp : (f.outcomeOfCase p).stops flags = false) :
    f.stopIndex flags (p :: ps) = f.stopIndex flags ps + 1 := by
  rw [Fixture.stopIndex, List.findIdx_cons, hp, cond_false, Fixture.stopIndex]

lemma casesTrace_of_stops (hp : (f.outcomeOfCase p).stops flags = true) :
    f.casesTrace flags (p :: ps) = f.caseTrace p := by
  rw [Fixture.casesTrace, stopIndex_of_stops ps hp, Nat.zero_add, List.take_succ_cons,
    List.take_zero, List.flatMap_singleton]

lemma casesTrace_of_not_stops (hp : (f.outcomeOfCase p).stops flags = false) :
    f.casesTrace flags (p :: ps) = f.caseTrace p ++ f.casesTrace flags ps := by
  rw [Fixture.casesTrace, stopIndex_of_not_stops ps hp, List.take_succ_cons, List.flatMap_cons,
    Fixture.casesTrace]

lemma casesResult_of_stops (hp : (f.outcomeOfCase p).stops flags = true) :
    casesResult f flags (p :: ps) = .ofStop (!ps.isEmpty) ((f.outcomeOfCase p).error? flags f.name)
    := by
  have herror : f.casesError? flags (p :: ps) = (f.outcomeOfCase p).error? flags f.name := by
    rw [Fixture.casesError?, stopIndex_of_stops ps hp, List.getElem?_cons_zero, Option.bind_some]
  have hskips : f.skips flags (p :: ps) = !ps.isEmpty := by
    rw [Fixture.skips, stopIndex_of_stops ps hp]
    cases ps <;> simp
  rw [casesResult, herror, hskips, Bool.and_comm]
  cases (f.outcomeOfCase p).error? flags f.name <;> rfl

lemma casesResult_of_not_stops (hp : (f.outcomeOfCase p).stops flags = false) :
    casesResult f flags (p :: ps) = casesResult f flags ps := by
  have herror : f.casesError? flags (p :: ps) = f.casesError? flags ps := by
    rw [Fixture.casesError?, stopIndex_of_not_stops ps hp, List.getElem?_cons_succ,
      Fixture.casesError?]
  have hskips : f.skips flags (p :: ps) = f.skips flags ps := by
    rw [Fixture.skips, stopIndex_of_not_stops ps hp, Fixture.skips, List.length_cons]
    simp only [Nat.add_lt_add_iff_right]
  rw [casesResult, herror, hskips, casesResult]

end

/-- The loop over the test cases. -/
lemma runCases_eq {f : Fixture ρ} {flags : ExecutionFlags} {ps : List (Played ρ)}
    (hp : h.Performs (f.casesTrace flags ps) s s') :
    runCases h flags f (ps.map Prod.fst) s = (.ok (casesResult f flags ps), s') := by
  -- the cases that are left are those behind the present one, in the law as in the loop
  induction ps generalizing s with
  | nil =>
    obtain rfl : s' = s := hp
    rfl
  | cons p ps ih =>
    -- a case runs in the same way whether it stops the fixture or not
    have hcase {s₁ : σ} (hc : h.Performs (f.caseTrace p) s s₁) :
        runCases h flags f ((p :: ps).map Prod.fst) s =
          (if (f.outcomeOfCase p).stops flags
            then pure (.ofStop (!(ps.map Prod.fst).isEmpty)
              ((f.outcomeOfCase p).error? flags f.name))
            else runCases h flags f (ps.map Prod.fst)) s₁ := by
      obtain ⟨s₂, hstarts, hrest⟩ := hc
      obtain ⟨s₃, hcalls, hfinish⟩ := Host.performs_append.mp hrest
      have hfinished := Host.performs_singleton.mp hfinish
      rw [List.map_cons, runCases, Flow.bind_ok hstarts]
      simp only []
      rw [Flow.bind_ok (runCase_eq hcalls), ofOutcome_eq]
      simp only []
      rw [Flow.bind_ok hfinished]
    cases hstops : (f.outcomeOfCase p).stops flags with
    | true =>
      rw [casesTrace_of_stops ps hstops] at hp
      rw [hcase hp, casesResult_of_stops ps hstops, if_pos hstops, List.isEmpty_map]
      rfl
    | false =>
      rw [casesTrace_of_not_stops ps hstops] at hp
      obtain ⟨s₁, hc, hps⟩ := Host.performs_append.mp hp
      rw [hcase hc, casesResult_of_not_stops ps hstops, if_neg (by rw [hstops]; decide)]
      exact ih hps

/-! ### Fixtures -/

lemma runTeardown_eq {r : FixtureRun ρ} {a : Answers} (completed : Bool)
    (hp : h.Performs
      ((optionalCall .teardown r.fixture.teardown a.teardown).map RoutineCall.move) s s') :
    runTeardown h r ⟨completed, stoppedBy (r.earlyError? a)⟩ s =
      (.ok ⟨completed && r.teardownOutcome a = .completed,
        stoppedBy (r.errorAfterTeardown? a)⟩, s') := by
  rw [runTeardown, Flow.bind_ok (callOptional_eq hp), ← teardownOutcome, errorAfterTeardown?]
  cases r.teardownOutcome a with
  | completed => cases r.earlyError? a <;> cases completed <;> rfl
  | aborted => cases completed <;> rfl
  | failed =>
    cases r.earlyError? a with
    | some e => cases completed <;> rfl
    | none =>
      have hstops : (r.options.flags.escalates || r.options.flags.endsRun)
          = r.options.flags.teardownStopsRun := rfl
      simp only [FixtureResult.andTeardown, stoppedBy, hstops]
      cases completed <;> cases r.options.flags.teardownStopsRun <;> rfl

lemma map_fst_played {r : FixtureRun ρ} {a : Answers} (ho : r.setupOutcome a = .completed) :
    (r.played a).map Prod.fst = r.selected := by
  rw [played, if_pos ho, List.map_map]
  exact List.zipIdx_map_fst 0 r.selected

lemma played_eq_nil {r : FixtureRun ρ} {a : Answers} (ho : r.setupOutcome a ≠ .completed) :
    r.played a = [] := by
  rw [played, if_neg ho]

/-- Nothing is asked for test cases unless setup completes. -/
lemma eq_of_performs_played {r : FixtureRun ρ} {a : Answers} (ho : r.setupOutcome a ≠ .completed)
    (hcases : h.Performs (r.fixture.casesTrace r.options.flags (r.played a)) s s') : s' = s := by
  rw [played_eq_nil ho] at hcases
  exact hcases

lemma runRoutines_eq {r : FixtureRun ρ} {a : Answers} (hp : h.Performs (r.routinesTrace a) s s') :
    runRoutines h r s = (.ok ⟨r.completes a, r.verdict a⟩, s') := by
  rw [routinesTrace, Host.performs_append] at hp
  obtain ⟨s₁, hsetup, hrest⟩ := hp
  obtain ⟨s₂, hcases, hteardown⟩ := Host.performs_append.mp hrest
  rw [runRoutines, Flow.bind_ok (callOptional_eq hsetup), ← setupOutcome]
  cases ho : r.setupOutcome a with
  | completed =>
    have htears : r.tearsDown a = true := by
      rw [tearsDown, ho]
      rfl
    have hearly : r.earlyError? a = r.fixture.casesError? r.options.flags (r.played a) := by
      rw [earlyError?, ho]
    have hloop := runCases_eq hcases
    rw [map_fst_played ho, casesResult, ← hearly] at hloop
    rw [if_pos htears] at hteardown
    simp only []
    rw [Flow.bind_ok hloop, runTeardown_eq _ hteardown, verdict, error?, if_pos htears, completes,
      ho]
    rw [decide_eq_true rfl, Bool.true_and]
  | failed =>
    obtain rfl : s₂ = s₁ := eq_of_performs_played (by rw [ho]; decide) hcases
    have hcompletes : r.completes a = false := by
      rw [completes, ho]
      rfl
    cases hstops : r.options.flags.setupStopsRun with
    | true =>
      -- the run is over, without teardown
      have hearly : r.earlyError? a = some (.routineFailed r.fixture.name .setup) := by
        rw [earlyError?, ho]
        exact if_pos hstops
      have htears : r.tearsDown a = false := by
        rw [tearsDown, ho, hearly]
        rfl
      rw [htears] at hteardown
      obtain rfl : s' = s₂ := hteardown
      rw [hcompletes, verdict, error?, htears, hearly]
      rfl
    | false =>
      -- teardown comes next, although no test case was run
      have hearly : r.earlyError? a = none := by
        rw [earlyError?, ho]
        exact if_neg (by rw [← ExecutionFlags.setupStopsRun, hstops]; decide)
      have htears : r.tearsDown a = true := by
        rw [tearsDown, ho, hearly]
        rfl
      rw [if_pos htears] at hteardown
      have hrun := runTeardown_eq false hteardown
      rw [hearly] at hrun
      rw [hcompletes, verdict, error?, if_pos htears]
      exact hrun
  | aborted =>
    obtain rfl : s₂ = s₁ := eq_of_performs_played (by rw [ho]; decide) hcases
    have hearly : r.earlyError? a = some .aborted := by
      rw [earlyError?, ho]
    have htears : r.tearsDown a = false := by
      rw [tearsDown, ho, hearly]
      rfl
    rw [htears] at hteardown
    obtain rfl : s' = s₂ := hteardown
    rw [completes, verdict, error?, htears, hearly, ho]
    rfl

lemma runAdopting_eq {r : FixtureRun ρ} {a : Answers}
    (hp : h.Performs (r.routinesTrace a ++ [.awaits r.fixture a.filament,
      .revokes r.fixture a.filament]) s s') :
    (runAdopting h r a.filament).ensuring (h.revokes r.fixture a.filament) s =
      (.ok (⟨r.completes a, r.verdict a⟩, true), s') := by
  obtain ⟨s₁, hroutines, s₂, hawaits, hrevokes⟩ := Host.performs_append.mp hp
  refine Flow.ensuring_ok ?_ (Host.performs_singleton.mp hrevokes)
  rw [runAdopting, Flow.bind_ok (runRoutines_eq hroutines), Flow.bind_ok hawaits]
  rfl

lemma runAccepted_eq {r : FixtureRun ρ} {a : Answers}
    (hp : h.Performs ((if r.fixture.flags.anonymousThreads
      then .installs r.fixture a.filament :: (r.routinesTrace a
        ++ [.awaits r.fixture a.filament, .revokes r.fixture a.filament])
      else r.routinesTrace a) ++ [.fixtureFinished r.fixture (r.completes a)]) s s') :
    runAccepted h r s = (.ok (r.verdict a), s') := by
  obtain ⟨s₁, hroutines, hlast⟩ := Host.performs_append.mp hp
  have hfinished := Host.performs_singleton.mp hlast
  rw [runAccepted]
  split at hroutines
  · next hanonymous =>
    obtain ⟨s₂, hinstalls, hroutines⟩ := hroutines
    rw [if_pos hanonymous, Flow.bind_ok hinstalls]
    simp only []
    rw [Flow.bind_ok (runAdopting_eq hroutines), Bool.and_true]
    simp only []
    rw [Flow.bind_ok hfinished]
    rfl
  · next hanonymous =>
    rw [if_neg hanonymous, Flow.bind_ok (runRoutines_eq hroutines)]
    simp only []
    rw [Flow.bind_ok hfinished]
    rfl

/-- A run takes a host from one state to another if making the moves of the law does. -/
theorem run_eq_of_performs {r : FixtureRun ρ} {a : Answers} (hp : h.Performs (r.trace a) s s') :
    r.run h s = (.ok (r.verdict a), s') := by
  obtain ⟨s₁, hvalid, s₂, hstarts, hrest⟩ := hp
  rw [run, Flow.bind_ok hvalid]
  simp only []
  rw [Flow.bind_ok hstarts]
  exact runAccepted_eq hrest

end FixtureRun

/-! ### Obliging hosts -/

namespace Host.Obliging

variable {I : σ → Prop} (hh : h.Obliging I)
include hh

/-- Any call of a routine that need not be there is granted, with some outcome. -/
lemma optionalCall (role : Role) (routine : Option ρ) (hs : I s) :
    ∃ o s', I s' ∧
      h.Performs ((Testbench.optionalCall role routine o).map RoutineCall.move) s s' := by
  cases routine with
  | none => exact ⟨.completed, s, hs, rfl⟩
  | some routine =>
    obtain ⟨o, s', hs', hc⟩ := hh.calls routine s hs
    exact ⟨o, s', hs', Host.performs_singleton.mpr hc⟩

lemma caseTrace (f : Fixture ρ) (c : TestCase ρ) (hs : I s) :
    ∃ a s', I s' ∧ h.Performs (f.caseTrace (c, a)) s s' := by
  obtain ⟨s₁, hs₁, hstarts⟩ := hh.caseStarts f c s hs
  obtain ⟨before, s₂, hs₂, hbefore⟩ := hh.optionalCall .before f.before hs₁
  have hcalls : ∃ a : CaseAnswers, ∃ s₃, I s₃ ∧
      h.Performs ((f.callsOf (c, a)).map RoutineCall.move) s₁ s₃ := by
    -- the test is called only if what comes before it completes
    by_cases ho : outcomeOf f.before before = .completed
    · obtain ⟨test, s₃, hs₃, htest⟩ := hh.calls c.routine s₂ hs₂
      obtain ⟨after, s₄, hs₄, hafter⟩ := hh.optionalCall .after f.after hs₃
      refine ⟨⟨before, test, after⟩, s₄, hs₄, ?_⟩
      rw [Fixture.callsOf, if_pos ho, List.map_append]
      exact Host.performs_append.mpr ⟨s₂, hbefore, s₃, htest, hafter⟩
    · refine ⟨⟨before, .completed, .completed⟩, s₂, hs₂, ?_⟩
      rw [Fixture.callsOf, if_neg ho, List.append_nil]
      exact hbefore
  obtain ⟨a, s₃, hs₃, hcalls⟩ := hcalls
  obtain ⟨s₄, hs₄, hfinished⟩ :=
    hh.caseFinished f c (decide (f.outcomeOfCase (c, a) = .completed)) s₃ hs₃
  exact ⟨a, s₄, hs₄, s₁, hstarts,
    Host.performs_append.mpr ⟨s₃, hcalls, Host.performs_singleton.mpr hfinished⟩⟩

/-- The test cases run up to the first that stops the fixture; how the calls for the others would
come out does not matter. -/
lemma casesTrace (f : Fixture ρ) (flags : ExecutionFlags) (cs : List (TestCase ρ)) (hs : I s) :
    ∃ ps s', ps.map Prod.fst = cs ∧ I s' ∧ h.Performs (f.casesTrace flags ps) s s' := by
  induction cs generalizing s with
  | nil => exact ⟨[], s, rfl, hs, rfl⟩
  | cons c cs ih =>
    obtain ⟨a, s₁, hs₁, hc⟩ := hh.caseTrace f c hs
    cases hstops : (f.outcomeOfCase (c, a)).stops flags with
    | true =>
      -- any answers will do for the cases that are not run
      let ps : List (Played ρ) := cs.map (·, a)
      refine ⟨(c, a) :: ps, s₁, ?_, hs₁, ?_⟩
      · rw [List.map_cons, List.map_map]
        exact congrArg (c :: ·) (List.map_id cs)
      · rwa [FixtureRun.casesTrace_of_stops ps hstops]
    | false =>
      obtain ⟨ps, s₂, rfl, hs₂, hps⟩ := ih hs₁
      refine ⟨(c, a) :: ps, s₂, rfl, hs₂, ?_⟩
      rw [FixtureRun.casesTrace_of_not_stops ps hstops]
      exact Host.performs_append.mpr ⟨s₁, hc, hps⟩

end Host.Obliging

/-- Answers for some test cases, listed by position. -/
def answersOf (ps : List (Played ρ)) (i : Nat) : CaseAnswers :=
  (ps[i]?.map Prod.snd).getD ⟨.completed, .completed, .completed⟩

lemma map_answersOf (ps : List (Played ρ)) :
    (ps.map Prod.fst).zipIdx.map (fun p => (p.1, answersOf ps p.2)) = ps := by
  -- position by position, since the answers are found by position
  refine List.ext_getElem? fun i => ?_
  rw [List.getElem?_map, List.getElem?_zipIdx, List.getElem?_map, Option.map_map, Option.map_map,
    Nat.zero_add]
  cases hp : ps[i]? with
  | none => rfl
  | some p =>
    rw [Option.map_some, Function.comp_apply, Function.comp_apply, answersOf, hp]
    rfl

namespace Host.Obliging

variable {I : σ → Prop} (hh : h.Obliging I)
include hh

lemma playedTrace (r : FixtureRun ρ) (setup : Outcome) (d : FilamentId) (hs : I s) :
    ∃ answers s', I s' ∧ ∀ teardown, h.Performs (r.fixture.casesTrace r.options.flags
      (r.played ⟨setup, answers, teardown, d⟩)) s s' := by
  by_cases ho : outcomeOf r.fixture.setup setup = .completed
  · obtain ⟨ps, s', hfst, hs', hcases⟩ := hh.casesTrace r.fixture r.options.flags r.selected hs
    refine ⟨answersOf ps, s', hs', fun teardown => ?_⟩
    rwa [FixtureRun.played, FixtureRun.setupOutcome, if_pos ho, ← hfst, map_answersOf]
  · refine ⟨answersOf ([] : List (Played ρ)), s, hs, fun teardown => ?_⟩
    rw [FixtureRun.played, FixtureRun.setupOutcome, if_neg ho]
    rfl

lemma routinesTrace (r : FixtureRun ρ) (d : FilamentId) (hs : I s) :
    ∃ a s', a.filament = d ∧ I s' ∧ h.Performs (r.routinesTrace a) s s' := by
  obtain ⟨setup, s₁, hs₁, hsetup⟩ := hh.optionalCall .setup r.fixture.setup hs
  obtain ⟨answers, s₂, hs₂, hcases⟩ := hh.playedTrace r setup d hs₁
  obtain ⟨teardown, s₃, hs₃, hteardown⟩ := hh.optionalCall .teardown r.fixture.teardown hs₂
  let a : Answers := ⟨setup, answers, teardown, d⟩
  by_cases ht : r.tearsDown a = true
  · refine ⟨a, s₃, rfl, hs₃, ?_⟩
    rw [FixtureRun.routinesTrace, if_pos ht]
    exact Host.performs_append.mpr
      ⟨s₁, hsetup, Host.performs_append.mpr ⟨s₂, hcases teardown, hteardown⟩⟩
  · refine ⟨a, s₂, rfl, hs₂, ?_⟩
    rw [FixtureRun.routinesTrace, if_neg ht, List.append_nil]
    exact Host.performs_append.mpr ⟨s₁, hsetup, hcases teardown⟩

/-- Whatever an obliging host answers, it makes the moves of the law for some answers. -/
lemma trace (r : FixtureRun ρ) (hs : I s) : ∃ a s', I s' ∧ h.Performs (r.trace a) s s' := by
  obtain ⟨s₁, hs₁, hvalid⟩ := hh.validates s hs
  obtain ⟨s₂, hs₂, hstarts⟩ := hh.fixtureStarts r.fixture s₁ hs₁
  -- the last callback ends the trace, whether there is a default filament or not
  have hfinish {a : Answers} {s₃ : σ} (hs₃ : I s₃) (hp : h.Performs
      (if r.fixture.flags.anonymousThreads
        then .installs r.fixture a.filament :: (r.routinesTrace a
          ++ [.awaits r.fixture a.filament, .revokes r.fixture a.filament])
        else r.routinesTrace a) s₂ s₃) : ∃ a s', I s' ∧ h.Performs (r.trace a) s s' := by
    obtain ⟨s₄, hs₄, hfinished⟩ := hh.fixtureFinished r.fixture (r.completes a) s₃ hs₃
    exact ⟨a, s₄, hs₄, s₁, hvalid, s₂, hstarts,
      Host.performs_append.mpr ⟨s₃, hp, Host.performs_singleton.mpr hfinished⟩⟩
  by_cases hanonymous : r.fixture.flags.anonymousThreads = true
  · obtain ⟨d, s₃, hs₃, hinstalls⟩ := hh.installs r.fixture s₂ hs₂
    obtain ⟨a, s₄, rfl, hs₄, hroutines⟩ := hh.routinesTrace r d hs₃
    obtain ⟨s₅, hs₅, hawaits⟩ := hh.awaits r.fixture a.filament s₄ hs₄
    obtain ⟨s₆, hs₆, hrevokes⟩ := hh.revokes r.fixture a.filament s₅ hs₅
    refine hfinish hs₆ (a := a) ?_
    rw [if_pos hanonymous]
    exact ⟨s₃, hinstalls, Host.performs_append.mpr
      ⟨s₄, hroutines, s₅, hawaits, Host.performs_singleton.mpr hrevokes⟩⟩
  · obtain ⟨a, s₃, -, hs₃, hroutines⟩ := hh.routinesTrace r 0 hs₂
    refine hfinish hs₃ (a := a) ?_
    rwa [if_neg hanonymous]

end Host.Obliging

/-! ### The tape -/

namespace Host

/-- The tape makes any moves, as long as it holds their outcomes and they are about its default
filament. -/
lemma tape_performs {d : FilamentId} {ms : List (Move ρ)}
    (hd : ∀ f d', Move.installs f d' ∈ ms → d' = d) (os : List Outcome) (done : List (Move ρ)) :
    (tape d).Performs ms (ms.filterMap Move.outcome? ++ os, done) (os, done ++ ms) := by
  induction ms generalizing done with
  | nil => rw [List.append_nil]; rfl
  | cons m ms ih =>
    have hms := ih (fun f d' hm => hd f d' (List.mem_cons_of_mem m hm)) (done ++ [m])
    rw [List.append_assoc, List.singleton_append] at hms
    refine ⟨_, ?_, hms⟩
    -- the tape gives out one filament only; nothing else in a move depends on the tape
    cases m with
    | installs f d' =>
      obtain rfl := hd f d' List.mem_cons_self
      rfl
    | _ => rfl

end Host

lemma installs_not_mem_routinesTrace {r : FixtureRun ρ} {a : Answers} {f : Fixture ρ}
    {d : FilamentId} : .installs f d ∉ r.routinesTrace a := by
  have hcalls (cs : List (RoutineCall ρ)) : .installs f d ∉ cs.map RoutineCall.move := by
    simp only [List.mem_map, not_exists, not_and]
    rintro c - ⟨⟩
  have hcase (p : Played ρ) : .installs f d ∉ r.fixture.caseTrace p := by
    rintro (_ | ⟨_, hm⟩)
    rcases List.mem_append.mp hm with hm | hm
    · exact hcalls _ hm
    · rcases List.mem_singleton.mp hm with ⟨⟩
  intro hm
  rcases List.mem_append.mp hm with hm | hm
  · exact hcalls _ hm
  rcases List.mem_append.mp hm with hm | hm
  · obtain ⟨p, -, hp⟩ := List.mem_flatMap.mp hm
    exact hcase p hp
  · split at hm
    · exact hcalls _ hm
    · cases hm

/-- The only default filament in a trace is that of the answers. -/
lemma filament_of_mem_trace {r : FixtureRun ρ} {a : Answers} {f : Fixture ρ} {d : FilamentId}
    (hm : .installs f d ∈ r.trace a) : d = a.filament := by
  rcases hm with _ | ⟨_, _ | ⟨_, hm⟩⟩
  rcases List.mem_append.mp hm with hm | hm
  · split at hm
    · rcases List.mem_cons.mp hm with hm | hm
      · cases hm
        rfl
      · rcases List.mem_append.mp hm with hm | hm
        · exact absurd hm installs_not_mem_routinesTrace
        · simp only [List.mem_cons, List.not_mem_nil, reduceCtorEq, or_self] at hm
    · exact absurd hm installs_not_mem_routinesTrace
  · rcases List.mem_singleton.mp hm with ⟨⟩

/-- Whatever its routines come to, the run of a fixture asks its host for what the law says, in this
order and for nothing else, and comes to what the law says.  There are three parts to this.  The
first is about a host that writes down what it is asked for, and for all answers that its calls can
be given.  The second is about any host: making the moves of the law takes it just as far as the
run.  And any host that grants what it is asked makes the moves of the law for the answers that it
gives. -/
theorem run_keeps_law (r : FixtureRun ρ) :
    (∀ (a : Answers) (os : List Outcome),
      r.run (Host.tape a.filament) ((r.trace a).filterMap Move.outcome? ++ os, []) =
        (.ok (r.verdict a), (os, r.trace a))) ∧
    ∀ (σ : Type) (h : Host σ ρ),
      (∀ a s s', h.Performs (r.trace a) s s' → r.run h s = (.ok (r.verdict a), s')) ∧
      ∀ I, h.Obliging I → ∀ s, I s → ∃ a s', I s' ∧ h.Performs (r.trace a) s s' := by
  refine ⟨fun a os => ?_, fun σ h => ⟨fun a s s' => FixtureRun.run_eq_of_performs, ?_⟩⟩
  · exact FixtureRun.run_eq_of_performs
      (Host.tape_performs (fun f d => filament_of_mem_trace) os [])
  · exact fun I hh s hs => hh.trace r hs

/-- A run of a fixture with two test cases that may start anonymous threads. -/
def errands : FixtureRun Nat where
  fixture := ⟨"errands", some 0, some 1, some 2, none, [⟨"bread", 3⟩, ⟨"milk", 4⟩],
    ({} : FixtureFlags).withAnonymousThreads true, none⟩

/-- What is asked of the host if there is no bread. -/
def withoutBread : List (Move Nat) :=
  let f := errands.fixture
  [.validates, .fixtureStarts f, .installs f 0, .calls 0 .completed,
    .caseStarts f ⟨"bread", 3⟩, .calls 2 .completed, .calls 3 .failed,
    .caseFinished f ⟨"bread", 3⟩ false,
    .caseStarts f ⟨"milk", 4⟩, .calls 2 .completed, .calls 4 .completed,
    .caseFinished f ⟨"milk", 4⟩ true,
    .calls 1 .completed, .awaits f 0, .revokes f 0, .fixtureFinished f true]

/-- The tape obliges whoever runs a fixture with it. A test case that fails is followed by the other
one. -/
theorem run_keeps_law_errands :
    (Host.tape 0 : Host _ Nat).Obliging (fun _ => True) ∧
    ∃ a, (Host.tape 0).Performs (errands.trace a) ([.completed, .completed, .failed], [])
        ([], withoutBread) ∧
      errands.run (Host.tape 0) ([.completed, .completed, .failed], []) =
        (.ok (errands.verdict a), [], withoutBread) := by
  have hobliging : (Host.tape 0 : Host _ Nat).Obliging (fun _ => True) := {
    validates := fun _ _ => ⟨_, trivial, rfl⟩
    fixtureStarts := fun _ _ _ => ⟨_, trivial, rfl⟩
    installs := fun _ _ _ => ⟨_, _, trivial, rfl⟩
    calls := fun _ _ _ => ⟨_, _, trivial, rfl⟩
    caseStarts := fun _ _ _ _ => ⟨_, trivial, rfl⟩
    caseFinished := fun _ _ _ _ _ => ⟨_, trivial, rfl⟩
    awaits := fun _ _ _ _ => ⟨_, trivial, rfl⟩
    revokes := fun _ _ _ _ => ⟨_, trivial, rfl⟩
    fixtureFinished := fun _ _ _ _ => ⟨_, trivial, rfl⟩ }
  have hmoves : (errands.run (Host.tape 0) ([.completed, .completed, .failed], [])).2
      = ([], withoutBread) := rfl
  obtain ⟨hruns, hmakes⟩ := (run_keeps_law errands).2 _ (Host.tape 0)
  obtain ⟨a, s', -, hp⟩ := hmakes _ hobliging ([.completed, .completed, .failed], []) trivial
  have hrun := hruns a _ s' hp
  obtain rfl : s' = ([], withoutBread) := by rw [← hmoves, hrun]
  exact ⟨hobliging, a, hp, hrun⟩

end Testbench
