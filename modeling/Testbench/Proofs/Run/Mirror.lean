import Mathlib.Tactic.Lemma
import Testbench.Proofs.Run.Cycles
import Testbench.Proofs.Run.Kept

/-!
# Runs that mirror each other

Two states may differ in ways that do not matter to a run.  If whatever a host does from one of two
such states, it does from the other, then so does a run of a fixture: where the one returns, the
other returns the same, and what mattered does still not matter.  Only default filaments may have
other names, and while they are installed the two states have something more in common.

Nothing is said of a run that does not return.
-/

namespace Testbench

variable {σ ρ α β γ δ : Type}

/-! ### Computations -/

namespace Flow

/-- From states in `P`, if the first computation returns, then so does the second, and what they
return and leave behind is as `Q` says. -/
def Mirrors (P : σ → σ → Prop) (m : Flow σ α) (n : Flow σ β) (Q : α → β → σ → σ → Prop) : Prop :=
  ∀ x y a x', P x y → m x = (.ok a, x') → ∃ b y', n y = (.ok b, y') ∧ Q a b x' y'

/-- The second computation returns what the first one does, and the states go on to be in `P`. -/
abbrev Follows (P : σ → σ → Prop) (m n : Flow σ α) : Prop :=
  Mirrors P m n fun a b x y => b = a ∧ P x y

variable {P P' : σ → σ → Prop} {m : Flow σ α} {n : Flow σ β} {k : α → Flow σ γ} {l : β → Flow σ δ}
  {Q : α → β → σ → σ → Prop} {R : γ → δ → σ → σ → Prop}

lemma mirrors_pure {a : α} {b : β} (h : ∀ x y, P x y → Q a b x y) :
    Mirrors P (pure a) (pure b) Q := by
  intro x y a x' hxy hm
  cases hm
  exact ⟨b, y, rfl, h x y hxy⟩

lemma follows_pure (a : α) : Follows P (pure a) (pure a) :=
  mirrors_pure fun _ _ h => ⟨rfl, h⟩

lemma Mirrors.bind (hm : Mirrors P m n Q) (hk : ∀ a b, Mirrors (Q a b) (k a) (l b) R) :
    Mirrors P (m >>= k) (n >>= l) R := by
  intro x y c x' hxy h
  obtain ⟨a, x₁, hma, hka⟩ := of_bind_ok h
  obtain ⟨b, y₁, hnb, hq⟩ := hm x y a x₁ hxy hma
  obtain ⟨d, y', hlb, hr⟩ := hk a b x₁ y₁ c x' hq hka
  exact ⟨d, y', (bind_ok hnb).trans hlb, hr⟩

/-- Where the same was returned, the same comes next. -/
lemma Follows.bind {m n : Flow σ α} {l : α → Flow σ δ} (hm : Follows P m n)
    (hk : ∀ a, Mirrors P (k a) (l a) R) : Mirrors P (m >>= k) (n >>= l) R := by
  refine Mirrors.bind hm fun a b => ?_
  rintro x y c x' ⟨rfl, hxy⟩ h
  exact hk b x y c x' hxy h

/-- What is done at the end may leave the states in `P'`. -/
lemma Follows.ensuring {m n : Flow σ α} {finish finish' : Flow σ Unit} (hm : Follows P m n)
    (hfinish : Mirrors P finish finish' fun _ _ => P') :
    Mirrors P (m.ensuring finish) (n.ensuring finish') fun a b x y => b = a ∧ P' x y := by
  intro x y a x' hxy h
  obtain ⟨x₁, hma, hlast⟩ := of_ensuring_ok h
  obtain ⟨b, y₁, hnb, rfl, hxy₁⟩ := hm x y a x₁ hxy hma
  obtain ⟨u, y', hlast', hxy'⟩ := hfinish x₁ y₁ () x' hxy₁ hlast
  exact ⟨b, y', ensuring_ok hnb hlast', rfl, hxy'⟩

end Flow

open Testbench.Flow

/-! ### Hosts -/

/-- While the routines of a fixture run, the states go on to be in `P`. -/
structure Host.Echoes (h : Host σ ρ) (f : Fixture ρ) (P : σ → σ → Prop) : Prop where
  caseStarts : ∀ c, Follows P (h.caseStarts f c) (h.caseStarts f c)
  caseFinished : ∀ c completed, Follows P (h.caseFinished f c completed)
    (h.caseFinished f c completed)
  call : ∀ routine ∈ f.routines, Follows P (h.call routine) (h.call routine)

/-- A default filament is installed in both states, or refused in both. -/
def Host.Installs (P : σ → σ → Prop) (K : FilamentId → FilamentId → σ → σ → Prop) :
    Except FilamentError FilamentId → Except FilamentError FilamentId → σ → σ → Prop
  | .ok d, .ok d', x, y => K d d' x y
  | .error e, .error e', x, y => e' = e ∧ P x y
  | _, _, _, _ => False

/-- What a host makes of a fixture from states in `P`. While it has default filaments installed, the
states are in `K` of these. -/
structure Host.Mirrors (h : Host σ ρ) (f : Fixture ρ) (P : σ → σ → Prop)
    (K : FilamentId → FilamentId → σ → σ → Prop) : Prop where
  validates : Follows P h.validate h.validate
  fixtureStarts : Follows P (h.fixtureStarts f) (h.fixtureStarts f)
  installs : Flow.Mirrors P (h.installs f) (h.installs f) (Host.Installs P K)
  echoes : h.Echoes f P
  echoesAdopting : ∀ d d', h.Echoes f (K d d')
  awaits : ∀ d d', Follows (K d d') (h.awaits f d) (h.awaits f d')
  revokes : ∀ d d', Flow.Mirrors (K d d') (h.revokes f d) (h.revokes f d') fun _ _ => P
  fixtureFinished : ∀ completed, Follows P (h.fixtureFinished f completed)
    (h.fixtureFinished f completed)

/-! ### Routines -/

namespace FixtureRun

variable {h : Host σ ρ} {r : FixtureRun ρ} {f : Fixture ρ} {P : σ → σ → Prop}
  {K : FilamentId → FilamentId → σ → σ → Prop}

lemma follows_callRoutine (hh : h.Echoes f P) {routine : ρ} (hmem : routine ∈ f.routines) :
    Follows P (callRoutine h routine) (callRoutine h routine) := by
  refine Follows.bind (hh.call routine hmem) fun answer => ?_
  cases answer <;> exact follows_pure _

lemma follows_callOptional (hh : h.Echoes f P) {routine : Option ρ}
    (hmem : ∀ x ∈ routine, x ∈ f.routines) :
    Follows P (callOptional h routine) (callOptional h routine) := by
  cases routine with
  | none => exact follows_pure _
  | some x => exact follows_callRoutine hh (hmem x rfl)

lemma follows_runCase (hh : h.Echoes f P) {c : TestCase ρ} (hc : c ∈ f.cases) :
    Follows P (runCase h f c) (runCase h f c) := by
  refine Follows.bind (follows_callOptional hh f.mem_routines_of_before) fun outcome => ?_
  match outcome with
  | .error e => exact follows_pure _
  | .ok .failed => exact follows_pure _
  | .ok .aborted => exact follows_pure _
  | .ok .completed =>
    refine Follows.bind (follows_callRoutine hh (f.mem_routines_of_mem_cases hc)) fun test => ?_
    cases test with
    | error e => exact follows_pure _
    | ok test =>
      refine Follows.bind (follows_callOptional hh f.mem_routines_of_after) fun after => ?_
      cases after <;> exact follows_pure _

lemma follows_runCases (hh : h.Echoes f P) (flags : ExecutionFlags) {cs : List (TestCase ρ)}
    (hcs : ∀ c ∈ cs, c ∈ f.cases) : Follows P (runCases h flags f cs) (runCases h flags f cs) := by
  induction cs with
  | nil => exact follows_pure _
  | cons c rest ih =>
    refine Follows.bind (hh.caseStarts c) fun answer => ?_
    cases answer with
    | error e => exact follows_pure _
    | ok =>
      refine Follows.bind (follows_runCase hh (hcs c List.mem_cons_self)) fun outcome => ?_
      refine Follows.bind (hh.caseFinished c _) fun _ => ?_
      split
      · exact follows_pure _
      · exact ih fun c hc => hcs c (List.mem_cons_of_mem _ hc)

lemma follows_runRoutines (hh : h.Echoes r.fixture P) :
    Follows P (runRoutines h r) (runRoutines h r) := by
  have hteardown (result : FixtureResult) :
      Follows P (runTeardown h r result) (runTeardown h r result) :=
    Follows.bind (follows_callOptional hh r.fixture.mem_routines_of_teardown) fun _ =>
      follows_pure _
  refine Follows.bind (follows_callOptional hh r.fixture.mem_routines_of_setup) fun outcome => ?_
  match outcome with
  | .error e => exact follows_pure _
  | .ok .aborted => exact follows_pure _
  | .ok .failed =>
    dsimp only
    split
    · exact follows_pure _
    · exact hteardown _
  | .ok .completed =>
    have hselected : ∀ c ∈ r.selected, c ∈ r.fixture.cases := fun _ hc =>
      mem_cases_of_mem_selected hc
    exact Follows.bind (follows_runCases hh r.options.flags hselected) fun _ => hteardown _

/-! ### Fixtures -/

lemma follows_runAccepted (hh : h.Mirrors r.fixture P K) :
    Follows P (runAccepted h r) (runAccepted h r) := by
  rw [runAccepted]
  split
  · refine hh.installs.bind fun answer answer' => ?_
    rcases answer with e | d <;> rcases answer' with e' | d'
    · rintro x y result x' ⟨rfl, hxy⟩ hrun
      exact Follows.bind (hh.fixtureFinished false) (fun _ => follows_pure _) x y result x' hxy hrun
    · exact fun _ _ _ _ h => h.elim
    · exact fun _ _ _ _ h => h.elim
    · have hadopting : Follows (K d d') (runAdopting h r d) (runAdopting h r d') :=
        Follows.bind (follows_runRoutines (hh.echoesAdopting d d')) fun _ =>
          Follows.bind (hh.awaits d d') fun _ => follows_pure _
      refine Mirrors.bind (Follows.ensuring hadopting (hh.revokes d d')) fun result result' => ?_
      rintro x y answer x' ⟨rfl, hxy⟩ hrun
      exact Follows.bind (hh.fixtureFinished _) (fun _ => follows_pure _) x y answer x' hxy hrun
  · exact Follows.bind (follows_runRoutines hh.echoes) fun _ =>
      Follows.bind (hh.fixtureFinished _) fun _ => follows_pure _

/-- Wherever the run of a fixture returns, it returns the same from the other state. -/
theorem follows_run (hh : h.Mirrors r.fixture P K) : Follows P (r.run h) (r.run h) := by
  refine Follows.bind hh.validates fun valid => ?_
  cases valid with
  | error e => exact follows_pure _
  | ok =>
    refine Follows.bind hh.fixtureStarts fun started => ?_
    cases started with
    | error e => exact follows_pure _
    | ok => exact follows_runAccepted hh

end FixtureRun

/-! ### Plans -/

namespace Plan

variable {ε : Type} {p : Plan α} {root i : ActionId}

/-- What stands under an action, and the action itself, is the same in two plans. -/
def SameUnder (p : Plan α) (root : ActionId) (q : Plan α) : Prop :=
  ∀ i, Relation.ReflTransGen p.Contains root i → q.actions.get? i = p.actions.get? i

/-- A leaf stands under an action, or is the action. -/
def Under (p : Plan α) (root : ActionId) (a : α) : Prop :=
  ∃ i, Relation.ReflTransGen p.Contains root i ∧ p.actions.get? i = some (.leaf a)

variable {plan : σ → Plan α} {leaf : α → Flow σ (Except ε Unit)} {P : σ → σ → Prop}

lemma follows_inOrder {f : β → Flow σ (Except ε Unit)} {items : List β}
    (hf : ∀ i ∈ items, Follows P (f i) (f i)) : Follows P (inOrder f items) (inOrder f items) := by
  induction items with
  | nil => exact follows_pure _
  | cons i items ih =>
    refine Follows.bind (hf i List.mem_cons_self) fun answer => ?_
    cases answer with
    | error e => exact follows_pure _
    | ok => exact ih fun j hj => hf j (List.mem_cons_of_mem _ hj)

/-- If all leaves under an action run the same from two states, and the states agree on what stands
there, then the action runs the same. -/
theorem follows_run (hplan : ∀ x y, P x y → p.SameUnder root (plan x) ∧ p.SameUnder root (plan y))
    (hleaf : ∀ a, p.Under root a → Follows P (leaf a) (leaf a)) (depth : Nat)
    (hi : Relation.ReflTransGen p.Contains root i) :
    Follows P (run (lookup plan) leaf depth i) (run (lookup plan) leaf depth i) := by
  induction depth generalizing i with
  | zero =>
    intro x y a x' _ h
    cases h
  | succ depth ih =>
    intro x y a x' hxy h
    obtain ⟨hx, hy⟩ := hplan x y hxy
    cases hfound : p.actions.get? i with
    | none =>
      have hmissing {s : σ} (hs : p.SameUnder root (plan s)) :
          run (lookup plan) leaf (depth + 1) i s = (.ok (.ok ()), s) := by
        have hfind : lookup plan i s = (.ok none, s) := by
          rw [lookup, Flow.see_apply, hs i hi, hfound]
        rw [run, Flow.bind_ok hfind]
        rfl
      rw [hmissing hx] at h
      cases h
      exact ⟨_, y, hmissing hy, rfl, hxy⟩
    | some action =>
      cases action with
      | leaf b =>
        rw [run_of_leaf leaf ((hx i hi).trans hfound)] at h
        rw [run_of_leaf leaf ((hy i hi).trans hfound)]
        exact hleaf b ⟨i, hi, hfound⟩ x y a x' hxy h
      | sequence inner =>
        rw [run_of_sequence leaf ((hx i hi).trans hfound)] at h
        rw [run_of_sequence leaf ((hy i hi).trans hfound)]
        exact follows_inOrder (fun j hj => ih (hi.tail ((contains_iff_of_found hfound).mpr hj)))
          x y a x' hxy h

end Plan

end Testbench
