import Mathlib.Tactic.Lemma
import Testbench.Proofs.Flow
import Testbench.Run.Fixture

/-!
# What runs of fixtures keep

Whatever a host keeps, a run of a fixture keeps.  The host need not be calm: it may refuse what it
likes, and its routines may unwind.  Only installing a default filament and revoking it may take the
state from one invariant to another, and revoking is never left out: a run that unwinds goes by the
same way out as one that returns.
-/

namespace Testbench

variable {σ ρ α β : Type}

/-! ### Ends of computations -/

namespace Flow

/-- From states with `I` a computation ends as `Q` says, be it by returning or by unwinding. Nothing
is said of one that runs out of room. -/
def Leads (I : σ → Prop) (m : Flow σ α) (Q : Except Payload α → σ → Prop) : Prop :=
  ∀ s result s', I s → m.attempt s = (.ok result, s') → Q result s'

/-- However a computation ends, `I` goes on to hold. -/
abbrev Keeps (I : σ → Prop) (m : Flow σ α) : Prop := Leads I m fun _ => I

variable {I J : σ → Prop} {m : Flow σ α} {k : α → Flow σ β} {Q : Except Payload α → σ → Prop}
  {R : Except Payload β → σ → Prop}

lemma leads_pure {a : α} (ha : ∀ s, I s → Q (.ok a) s) : Leads I (pure a) Q := by
  intro s result s' hs h
  cases h
  exact ha s hs

lemma keeps_pure (a : α) : Keeps I (pure a : Flow σ α) := leads_pure fun _ hs => hs

lemma Leads.mono {I' : σ → Prop} {Q' : Except Payload α → σ → Prop} (h : Leads I m Q)
    (hI : ∀ s, I' s → I s) (hQ : ∀ result s, Q result s → Q' result s) : Leads I' m Q' :=
  fun s result s' hs hm => hQ result s' (h s result s' (hI s hs) hm)

/-- What ends the first computation by an unwind ends both. -/
lemma Leads.bind (hm : Leads I m Q) (hk : ∀ a, Leads (Q (.ok a)) (k a) R)
    (hunwound : ∀ payload s, Q (.error payload) s → R (.error payload) s) :
    Leads I (m >>= k) R := by
  intro s result s' hs h
  rcases attempt_bind_cases h with ⟨a, s₁, hfirst, hsecond⟩ | ⟨payload, rfl, hfirst⟩
  · exact hk a s₁ result s' (hm s _ s₁ hs hfirst) hsecond
  · exact hunwound payload s' (hm s _ s' hs hfirst)

lemma Keeps.bind (hm : Keeps I m) (hk : ∀ a, Keeps I (k a)) : Keeps I (m >>= k) :=
  Leads.bind hm hk fun _ _ hs => hs

/-- What is done at the end of a computation is done in any case. -/
lemma Keeps.ensuring {finish : Flow σ Unit} (hm : Keeps I m)
    (hfinish : Leads I finish fun _ => J) : Leads I (m.ensuring finish) fun _ => J := by
  intro s result s' hs h
  rcases attempt_bind_cases h with ⟨ended, s₁, hattempt, hlast⟩ | ⟨payload, -, hattempt⟩
  · have hs₁ : I s₁ := hm s ended s₁ hs (of_attempt_ok hattempt)
    rcases attempt_bind_cases hlast with ⟨u, s₂, hdone, hresume⟩ | ⟨payload, -, hdone⟩
    · have hs₂ : J s₂ := hfinish s₁ _ s₂ hs₁ hdone
      cases ended <;> cases hresume <;> exact hs₂
    · exact hfinish s₁ _ s' hs₁ hdone
  · cases attempt_error (of_attempt_unwound hattempt)

end Flow

open Testbench.Flow

/-! ### Hosts -/

/-- The routines of a fixture. -/
def Fixture.routines (f : Fixture ρ) : List ρ :=
  f.setup.toList ++ f.before.toList ++ f.cases.map TestCase.routine ++ f.after.toList
    ++ f.teardown.toList

namespace Fixture

variable (f : Fixture ρ)

lemma mem_routines_of_setup : ∀ x ∈ f.setup, x ∈ f.routines := fun x hx => by
  simp [routines, Option.mem_toList.mpr hx]

lemma mem_routines_of_before : ∀ x ∈ f.before, x ∈ f.routines := fun x hx => by
  simp [routines, Option.mem_toList.mpr hx]

lemma mem_routines_of_mem_cases {c : TestCase ρ} (hc : c ∈ f.cases) : c.routine ∈ f.routines := by
  have := List.mem_map_of_mem (f := TestCase.routine) hc
  simp [routines, this]

lemma mem_routines_of_after : ∀ x ∈ f.after, x ∈ f.routines := fun x hx => by
  simp [routines, Option.mem_toList.mpr hx]

lemma mem_routines_of_teardown : ∀ x ∈ f.teardown, x ∈ f.routines := fun x hx => by
  simp [routines, Option.mem_toList.mpr hx]

end Fixture

/-- While the routines of a fixture run, a host keeps `I`. -/
structure Host.Upholds (h : Host σ ρ) (f : Fixture ρ) (I : σ → Prop) : Prop where
  caseStarts : ∀ c, Keeps I (h.caseStarts f c)
  caseFinished : ∀ c completed, Keeps I (h.caseFinished f c completed)
  call : ∀ routine ∈ f.routines, Keeps I (h.call routine)

/-- What a host makes of a fixture: `I` holds before its routines run, `K` while they do, of the
default filament that is installed meanwhile if there is one, and `J` afterwards. -/
structure Host.Leads (h : Host σ ρ) (f : Fixture ρ) (I : σ → Prop)
    (K : Option FilamentId → σ → Prop) (J : σ → Prop) : Prop where
  validates : Keeps I h.validate
  fixtureStarts : Keeps I (h.fixtureStarts f)
  begins : ∀ s, I s → K none s
  /-- A default filament that is not installed changes nothing. -/
  installs : Flow.Leads I (h.installs f) fun
    | .ok (.ok d) => K (some d)
    | _ => I
  upholds : ∀ d?, h.Upholds f (K d?)
  awaits : ∀ d, Keeps (K (some d)) (h.awaits f d)
  revokes : ∀ d, Flow.Leads (K (some d)) (h.revokes f d) fun _ => J
  ends : ∀ s, K none s → J s
  fixtureFinished : ∀ completed, Keeps J (h.fixtureFinished f completed)

/-! ### Routines -/

namespace FixtureRun

variable {h : Host σ ρ} {r : FixtureRun ρ} {f : Fixture ρ} {I J : σ → Prop}
  {K : Option FilamentId → σ → Prop}

lemma keeps_callRoutine (hh : h.Upholds f I) {routine : ρ} (hmem : routine ∈ f.routines) :
    Keeps I (callRoutine h routine) := by
  refine (hh.call routine hmem).bind fun answer => ?_
  cases answer <;> exact keeps_pure _

lemma keeps_callOptional (hh : h.Upholds f I) {routine : Option ρ}
    (hmem : ∀ x ∈ routine, x ∈ f.routines) : Keeps I (callOptional h routine) := by
  cases routine with
  | none => exact keeps_pure _
  | some x => exact keeps_callRoutine hh (hmem x rfl)

lemma keeps_runCase (hh : h.Upholds f I) {c : TestCase ρ} (hc : c ∈ f.cases) :
    Keeps I (runCase h f c) := by
  refine (keeps_callOptional hh f.mem_routines_of_before).bind fun outcome => ?_
  match outcome with
  | .error e => exact keeps_pure _
  | .ok .failed => exact keeps_pure _
  | .ok .aborted => exact keeps_pure _
  | .ok .completed =>
    refine (keeps_callRoutine hh (f.mem_routines_of_mem_cases hc)).bind fun test => ?_
    cases test with
    | error e => exact keeps_pure _
    | ok test =>
      refine (keeps_callOptional hh f.mem_routines_of_after).bind fun after => ?_
      cases after <;> exact keeps_pure _

lemma keeps_runCases (hh : h.Upholds f I) (flags : ExecutionFlags) {cs : List (TestCase ρ)}
    (hcs : ∀ c ∈ cs, c ∈ f.cases) : Keeps I (runCases h flags f cs) := by
  induction cs with
  | nil => exact keeps_pure _
  | cons c rest ih =>
    refine (hh.caseStarts c).bind fun answer => ?_
    cases answer with
    | error e => exact keeps_pure _
    | ok =>
      refine (keeps_runCase hh (hcs c List.mem_cons_self)).bind fun outcome => ?_
      refine (hh.caseFinished c _).bind fun _ => ?_
      split
      · exact keeps_pure _
      · exact ih fun c hc => hcs c (List.mem_cons_of_mem _ hc)

/-- Only test cases of the fixture are selected. -/
lemma mem_cases_of_mem_selected {c : TestCase ρ} (hc : c ∈ r.selected) : c ∈ r.fixture.cases := by
  rw [selected] at hc
  cases hselection : r.selection with
  | none => rwa [hselection] at hc
  | some i =>
    rw [hselection] at hc
    exact List.mem_of_getElem? (Option.mem_toList.mp hc)

lemma keeps_runRoutines (hh : h.Upholds r.fixture I) : Keeps I (runRoutines h r) := by
  have hteardown (result : FixtureResult) : Keeps I (runTeardown h r result) :=
    (keeps_callOptional hh r.fixture.mem_routines_of_teardown).bind fun _ => keeps_pure _
  refine (keeps_callOptional hh r.fixture.mem_routines_of_setup).bind fun outcome => ?_
  match outcome with
  | .error e => exact keeps_pure _
  | .ok .aborted => exact keeps_pure _
  | .ok .failed =>
    dsimp only
    split
    · exact keeps_pure _
    · exact hteardown _
  | .ok .completed =>
    have hselected : ∀ c ∈ r.selected, c ∈ r.fixture.cases := fun _ hc =>
      mem_cases_of_mem_selected hc
    exact (keeps_runCases hh r.options.flags hselected).bind fun _ => hteardown _

/-! ### Fixtures -/

lemma leads_runAccepted (hh : h.Leads r.fixture I K J) :
    Flow.Leads I (runAccepted h r) fun _ => J := by
  have hover (s : σ) (hs : I s) : J s := hh.ends s (hh.begins s hs)
  rw [runAccepted]
  split
  · refine hh.installs.bind (fun answer => ?_) fun _ => hover
    cases answer with
    | error e =>
      have hfinished := Flow.Leads.mono (hh.fixtureFinished false) hover fun _ _ hs => hs
      exact hfinished.bind (fun _ => keeps_pure _) fun _ _ hs => hs
    | ok d =>
      have hadopting : Keeps (K (some d)) (runAdopting h r d) :=
        (keeps_runRoutines (hh.upholds (some d))).bind fun _ =>
          (hh.awaits d).bind fun _ => keeps_pure _
      refine (hadopting.ensuring (hh.revokes d)).bind (fun result => ?_) fun _ _ hs => hs
      exact (hh.fixtureFinished _).bind fun _ => keeps_pure _
  · have hroutines : Flow.Leads I (runRoutines h r) fun _ => J :=
      Flow.Leads.mono (keeps_runRoutines (hh.upholds none)) hh.begins fun _ => hh.ends
    exact hroutines.bind (fun result => (hh.fixtureFinished _).bind fun _ => keeps_pure _)
      fun _ _ hs => hs

/-- However the run of a fixture ends, `J` holds when it is over. -/
theorem leads_run (hh : h.Leads r.fixture I K J) : Flow.Leads I (r.run h) fun _ => J := by
  have hover (s : σ) (hs : I s) : J s := hh.ends s (hh.begins s hs)
  refine Flow.Leads.bind hh.validates (fun valid => ?_) fun _ => hover
  cases valid with
  | error e => exact leads_pure hover
  | ok =>
    refine Flow.Leads.bind hh.fixtureStarts (fun started => ?_) fun _ => hover
    cases started with
    | error e => exact leads_pure hover
    | ok => exact leads_runAccepted hh

end FixtureRun

end Testbench
