import Mathlib.Data.List.Forall2
import Testbench.Proofs.Flow
import Testbench.Run.Fixture

/-!
# Runs that agree

Two hosts may differ in what a routine is and in the state that they work on.  If from related states
they give the same answers, and the states stay related, then running fixtures that are alike with
them comes to the same.  Only one of the two may adopt threads: the default filament that it installs
for a fixture is gone when the fixture is over.

That the answers agree is one way to relate the two.  The routines of fixtures are related in any way
in which the hosts are, as long as it goes on to hold where computations are put together.
-/

namespace Testbench

variable {σ τ ρ υ α β : Type}

/-! ### Computations -/

namespace Flow

/-- A relation of computations that goes on to hold where they are put together. -/
structure Congruent (Q : {α : Type} → Flow σ α → Flow τ α → Prop) : Prop where
  pure : ∀ {α : Type} (a : α), Q (pure a) (pure a)
  bind : ∀ {α β : Type} {m : Flow σ α} {n : Flow τ α} {k : α → Flow σ β} {l : α → Flow τ β},
    Q m n → (∀ a, Q (k a) (l a)) → Q (m >>= k) (n >>= l)

/-- From related states two computations return the same, and the states stay related. -/
def Agrees (R : σ → τ → Prop) (m : Flow σ α) (n : Flow τ α) : Prop :=
  ∀ s t, R s t → ∃ a s' t', m s = (.ok a, s') ∧ n t = (.ok a, t') ∧ R s' t'

variable {R : σ → τ → Prop}

lemma agrees_pure (a : α) : Agrees R (pure a) (pure a) :=
  fun s t h => ⟨a, s, t, rfl, rfl, h⟩

lemma Agrees.bind {m : Flow σ α} {n : Flow τ α} {k : α → Flow σ β} {l : α → Flow τ β}
    (h : Agrees R m n) (hk : ∀ a, Agrees R (k a) (l a)) : Agrees R (m >>= k) (n >>= l) := by
  intro s t hst
  obtain ⟨a, s₁, t₁, hm, hn, h₁⟩ := h s t hst
  obtain ⟨b, s₂, t₂, hk', hl', h₂⟩ := hk a s₁ t₁ h₁
  exact ⟨b, s₂, t₂, (bind_ok hm).trans hk', (bind_ok hn).trans hl', h₂⟩

lemma agrees_congruent : Congruent (Agrees R) := ⟨agrees_pure, Agrees.bind⟩

end Flow

/-! ### Fixtures -/

/-- Test cases of one name with related routines. -/
structure TestCase.Alike (S : ρ → υ → Prop) (c : TestCase ρ) (c' : TestCase υ) : Prop where
  name_eq : c.name = c'.name
  routine : S c.routine c'.routine

/-- Fixtures of one name with related routines. -/
structure Fixture.Alike (S : ρ → υ → Prop) (f : Fixture ρ) (f' : Fixture υ) : Prop where
  name_eq : f.name = f'.name
  setup : Option.Rel S f.setup f'.setup
  teardown : Option.Rel S f.teardown f'.teardown
  before : Option.Rel S f.before f'.before
  after : Option.Rel S f.after f'.after
  cases : List.Forall₂ (TestCase.Alike S) f.cases f'.cases

/-- Runs of fixtures that are alike, in the same way. -/
structure FixtureRun.Alike (S : ρ → υ → Prop) (r : FixtureRun ρ) (r' : FixtureRun υ) : Prop where
  fixture : r.fixture.Alike S r'.fixture
  flags_eq : r.options.flags = r'.options.flags
  selection_eq : r.selection = r'.selection

/-- Related lists have related elements in the same positions. -/
lemma rel_getElem? {S : α → β → Prop} {xs : List α} {ys : List β} (h : List.Forall₂ S xs ys)
    (i : Nat) : Option.Rel S xs[i]? ys[i]? := by
  induction h generalizing i with
  | nil => exact .none
  | cons hxy _ ih =>
    cases i with
    | zero => exact .some hxy
    | succ i => exact ih i

lemma FixtureRun.Alike.selected {S : ρ → υ → Prop} {r : FixtureRun ρ} {r' : FixtureRun υ}
    (h : r.Alike S r') : List.Forall₂ (TestCase.Alike S) r.selected r'.selected := by
  rw [FixtureRun.selected, FixtureRun.selected, h.selection_eq]
  cases r'.selection with
  | none => exact h.fixture.cases
  | some i =>
    simp only []
    have hrel := rel_getElem? h.fixture.cases i
    generalize r.fixture.cases[i]? = c, r'.fixture.cases[i]? = c' at hrel
    cases hrel with
    | none => exact .nil
    | some hc => exact .cons hc .nil

/-! ### Hosts -/

/-- Hosts that are related in all that they do about fixtures without anonymous threads. -/
structure Host.Related (S : ρ → υ → Prop) (Q : {α : Type} → Flow σ α → Flow τ α → Prop)
    (h : Host σ ρ) (h' : Host τ υ) : Prop where
  validate : Q h.validate h'.validate
  fixtureStarts : ∀ {f f'}, f.Alike S f' → Q (h.fixtureStarts f) (h'.fixtureStarts f')
  fixtureFinished : ∀ {f f'}, f.Alike S f' → ∀ completed,
    Q (h.fixtureFinished f completed) (h'.fixtureFinished f' completed)
  caseStarts : ∀ {f f' c c'}, f.Alike S f' → c.Alike S c' →
    Q (h.caseStarts f c) (h'.caseStarts f' c')
  caseFinished : ∀ {f f' c c'}, f.Alike S f' → c.Alike S c' → ∀ completed,
    Q (h.caseFinished f c completed) (h'.caseFinished f' c' completed)
  call : ∀ {r r'}, S r r' → Q (h.call r) (h'.call r')

/-- Hosts that answer alike. -/
structure Host.Agrees (S : ρ → υ → Prop) (R : σ → τ → Prop) (h : Host σ ρ) (h' : Host τ υ) :
    Prop where
  validate : Flow.Agrees R h.validate h'.validate
  fixtureStarts : ∀ {f f'}, f.Alike S f' → Flow.Agrees R (h.fixtureStarts f) (h'.fixtureStarts f')
  fixtureFinished : ∀ {f f'}, f.Alike S f' → ∀ completed,
    Flow.Agrees R (h.fixtureFinished f completed) (h'.fixtureFinished f' completed)
  caseStarts : ∀ {f f' c c'}, f.Alike S f' → c.Alike S c' →
    Flow.Agrees R (h.caseStarts f c) (h'.caseStarts f' c')
  caseFinished : ∀ {f f' c c'}, f.Alike S f' → c.Alike S c' → ∀ completed,
    Flow.Agrees R (h.caseFinished f c completed) (h'.caseFinished f' c' completed)
  call : ∀ {r r'}, S r r' → Flow.Agrees R (h.call r) (h'.call r')

lemma Host.Agrees.related {S : ρ → υ → Prop} {R : σ → τ → Prop} {h : Host σ ρ} {h' : Host τ υ}
    (agree : h.Agrees S R h') : h.Related S (Flow.Agrees R) h' :=
  ⟨agree.validate, agree.fixtureStarts, agree.fixtureFinished, agree.caseStarts,
    agree.caseFinished, agree.call⟩

namespace FixtureRun

variable {S : ρ → υ → Prop} {Q : {α : Type} → Flow σ α → Flow τ α → Prop} (hQ : Flow.Congruent Q)
  {h : Host σ ρ} {h' : Host τ υ} (related : h.Related S Q h') {f : Fixture ρ} {f' : Fixture υ}
  (hf : f.Alike S f')
include hQ related

lemma callRoutine_related {r : ρ} {r' : υ} (hr : S r r') :
    Q (callRoutine h r) (callRoutine h' r') := by
  refine hQ.bind (related.call hr) fun result => ?_
  cases result <;> exact hQ.pure _

lemma callOptional_related {r : Option ρ} {r' : Option υ} (hr : Option.Rel S r r') :
    Q (callOptional h r) (callOptional h' r') := by
  cases hr with
  | none => exact hQ.pure _
  | some hr => exact callRoutine_related hQ related hr

include hf

lemma runCase_related {c : TestCase ρ} {c' : TestCase υ} (hc : c.Alike S c') :
    Q (runCase h f c) (runCase h' f' c') := by
  refine hQ.bind (callOptional_related hQ related hf.before) fun before => ?_
  -- only if the call before the test completes is there anything else to ask for
  rcases before with e | _ | _ | _
  · exact hQ.pure _
  · refine hQ.bind (callRoutine_related hQ related hc.routine) fun test => ?_
    cases test with
    | error e => exact hQ.pure _
    | ok test =>
      refine hQ.bind (callOptional_related hQ related hf.after) fun after => ?_
      cases after <;> exact hQ.pure _
  · exact hQ.pure _
  · exact hQ.pure _

lemma runCases_related (flags : ExecutionFlags) {cs : List (TestCase ρ)} {cs' : List (TestCase υ)}
    (hcs : List.Forall₂ (TestCase.Alike S) cs cs') :
    Q (runCases h flags f cs) (runCases h' flags f' cs') := by
  induction hcs with
  | nil => exact hQ.pure _
  | @cons c c' rest rest' hc hrest ih =>
    refine hQ.bind (related.caseStarts hf hc) fun started => ?_
    cases started with
    | error e => exact hQ.pure _
    | ok _ =>
      refine hQ.bind (runCase_related hQ related hf hc) fun outcome => ?_
      have hempty : rest.isEmpty = rest'.isEmpty := by cases hrest <;> rfl
      simp only [hf.name_eq, hempty]
      refine hQ.bind (related.caseFinished hf hc _) fun _ => ?_
      split
      · exact hQ.pure _
      · exact ih

omit hf in
lemma runRoutines_related {r : FixtureRun ρ} {r' : FixtureRun υ} (hr : r.Alike S r') :
    Q (runRoutines h r) (runRoutines h' r') := by
  have hteardown (result : FixtureResult) :
      Q (runTeardown h r result) (runTeardown h' r' result) := by
    refine hQ.bind (callOptional_related hQ related hr.fixture.teardown) fun outcome => ?_
    rw [hr.flags_eq, hr.fixture.name_eq]
    exact hQ.pure _
  refine hQ.bind (callOptional_related hQ related hr.fixture.setup) fun setup => ?_
  rcases setup with e | _ | _ | _
  · exact hQ.pure _
  · refine hQ.bind ?_ hteardown
    rw [hr.flags_eq]
    exact runCases_related hQ related hr.fixture _ hr.selected
  · simp only [hr.flags_eq, hr.fixture.name_eq]
    split
    · exact hQ.pure _
    · exact hteardown _
  · exact hQ.pure _

omit hf in
/-- With related hosts, runs of fixtures that are alike are related, if neither of the two adopts
threads. -/
theorem run_related {r : FixtureRun ρ} {r' : FixtureRun υ} (hr : r.Alike S r')
    (hflags : r.fixture.flags.anonymousThreads = false)
    (hflags' : r'.fixture.flags.anonymousThreads = false) : Q (run h r) (run h' r') := by
  refine hQ.bind related.validate fun valid => ?_
  cases valid with
  | error e => exact hQ.pure _
  | ok _ =>
    refine hQ.bind (related.fixtureStarts hr.fixture) fun started => ?_
    cases started with
    | error e => exact hQ.pure _
    | ok _ =>
      simp only [runAccepted, hflags, hflags']
      exact hQ.bind (runRoutines_related hQ related hr) fun result =>
        hQ.bind (related.fixtureFinished hr.fixture _) fun _ => hQ.pure _

end FixtureRun

/-! ### Runs -/

/-- A host installs a default filament, waits for nobody and takes it back, and that makes no
difference to a state of the other host. -/
structure Host.Adopts (R : σ → τ → Prop) (R' : FilamentId → σ → τ → Prop) (h : Host σ ρ)
    (f : Fixture ρ) : Prop where
  installs : ∀ s t, R s t → ∃ d s', h.installs f s = (.ok (.ok d), s') ∧ R' d s' t
  awaits : ∀ d s t, R' d s t → ∃ s', h.awaits f d s = (.ok true, s') ∧ R' d s' t
  revokes : ∀ d s t, R' d s t → ∃ s', h.revokes f d s = (.ok (), s') ∧ R s' t

namespace FixtureRun

variable {S : ρ → υ → Prop} {R : σ → τ → Prop} {R' : FilamentId → σ → τ → Prop} {h : Host σ ρ}
  {h' : Host τ υ} {r : FixtureRun ρ} {r' : FixtureRun υ}

lemma runAccepted_agrees (agree : h.Agrees S R h') (agree' : ∀ d, h.Agrees S (R' d) h')
    (adopts : h.Adopts R R' r.fixture) (hr : r.Alike S r')
    (hflags : r'.fixture.flags.anonymousThreads = false) :
    Flow.Agrees R (runAccepted h r) (runAccepted h' r') := by
  intro s t hst
  rw [runAccepted, runAccepted, hflags]
  by_cases hadopts : r.fixture.flags.anonymousThreads = true
  · -- the second host has no part in what the first does about its default filament
    obtain ⟨d, s₁, hinstalls, h₁⟩ := adopts.installs s t hst
    obtain ⟨result, s₂, t₂, hroutines, hroutines', h₂⟩ :=
      runRoutines_related Flow.agrees_congruent (agree' d).related hr s₁ t h₁
    obtain ⟨s₃, hawaits, h₃⟩ := adopts.awaits d s₂ t₂ h₂
    obtain ⟨s₄, hrevokes, h₄⟩ := adopts.revokes d s₃ t₂ h₃
    have hadopting : (runAdopting h r d).ensuring (h.revokes r.fixture d) s₁
        = (.ok (result, true), s₄) :=
      Flow.ensuring_ok ((Flow.bind_ok hroutines).trans (Flow.bind_ok hawaits)) hrevokes
    obtain ⟨⟨⟩, s₅, t₅, hfinished, hfinished', h₅⟩ :=
      agree.fixtureFinished hr.fixture result.completed s₄ t₂ h₄
    have hand : (result.completed && true) = result.completed := Bool.and_true _
    refine ⟨result.result, s₅, t₅, ?_, ?_, h₅⟩
    · rw [if_pos hadopts, Flow.bind_ok hinstalls]
      refine (Flow.bind_ok hadopting).trans ?_
      simp only [hand]
      exact Flow.bind_ok hfinished
    · exact (Flow.bind_ok hroutines').trans (Flow.bind_ok hfinished')
  · rw [if_neg hadopts]
    exact (runRoutines_related Flow.agrees_congruent agree.related hr).bind (fun result =>
      (agree.fixtureFinished hr.fixture _).bind fun _ => Flow.agrees_pure _) s t hst

/-- With hosts that agree, runs of fixtures that are alike come to the same. -/
theorem run_agrees (agree : h.Agrees S R h') (agree' : ∀ d, h.Agrees S (R' d) h')
    (adopts : h.Adopts R R' r.fixture) (hr : r.Alike S r')
    (hflags : r'.fixture.flags.anonymousThreads = false) :
    Flow.Agrees R (run h r) (run h' r') := by
  refine agree.validate.bind fun valid => ?_
  cases valid with
  | error e => exact Flow.agrees_pure _
  | ok _ =>
    refine (agree.fixtureStarts hr.fixture).bind fun started => ?_
    cases started with
    | error e => exact Flow.agrees_pure _
    | ok _ => exact runAccepted_agrees agree agree' adopts hr hflags

end FixtureRun

end Testbench
