import Testbench.Proofs.Crew
import Testbench.Proofs.Crew.Taken
import Testbench.Proofs.Run
import Testbench.Proofs.Run.Civil

/-!
# An abort ends a plan

A plan runs its leaves in order, up to the first that stops it.  The first call that is aborted is
one that does: what still belongs to its fixture is done, and nothing else starts.  A child that is
aborted aborts the call, as long as the call has not settled yet.  A child that was left behind is
on its own: whatever becomes of it, the run goes on.
-/

namespace Testbench

variable {σ ρ α ε : Type}

/-- Running a plan that is taken as a tree is running the leaves of the tree in order, up to the
first that stops the run; and a plan that leaves do not change is taken as one if no sequence stands
under itself.  If the leaves are fixtures whose routines can all be called and do not unwind past
their boundary, the run returns; in the world it takes civil routines for that.  Once a call comes
out aborted, only what comes after its test case is called, if the test was aborted, and teardown,
if setup completed; no other test case or fixture starts, and the run comes to the abort.  And a
call comes out aborted if a child noted that before the call settled. -/
theorem leaves_run_until_aborted :
    (∀ (plan : σ → Plan α) (leaf : α → Flow σ (Except ε Unit)) (root : ActionId) (s : σ)
      (t : Forest α) (depth : Nat), Plan.Takes plan leaf [root] s t → t.height ≤ depth →
      Plan.run (Plan.lookup plan) leaf depth root s = Plan.inOrder leaf t.leaves s) ∧
    (∀ (plan : σ → Plan α) (leaf : α → Flow σ (Except ε Unit)) (p : Plan α) (rank : ActionId → Nat),
      p.Acyclic rank → (∀ a s, plan s = p → plan (leaf a s).2 = p) →
      ∀ (root : ActionId) (a : Action α) (s : σ), p.actions.get? root = some a → plan s = p →
      ∃ t, Plan.Takes plan leaf [root] s t ∧ t.height ≤ rank root + 1) ∧
    (∀ (g : Plan.Staging σ ρ α) (I : σ → Prop) (plan : σ → Plan α) (root : ActionId) (s : σ)
      (t : Forest α) (depth : Nat), (∀ a, Plan.Holds plan g.run s a → (g.host a).Calm I) →
      Plan.Takes plan g.run [root] s t → t.height ≤ depth → I s →
      ∃ answer s' notes,
        Plan.runFixtures g plan depth root s = (.ok answer, s') ∧
        Plan.inOrder g.run t.leaves s = (.ok answer, s') ∧
        Plan.runWatched g plan depth root (s, []) = (.ok answer, s', notes) ∧
        ((∃ x, .calls x (.ok .aborted) ∈ notes) →
          answer = .error .aborted ∧ FirstAbort (PlanAborts (g.HoldsFixture plan s)) notes)) ∧
    (∀ (exec : ρ → World.Act ρ ε Unit) (o : ObserverId) (j : Job ρ) (P : ε → Prop),
      j.run.options.joinLimit.Timed → (∀ routine, Civil j.registry P (exec routine)) →
      (j.host exec o).Calm (World.Idle j.registry P)) ∧
    ∀ (reg : RegistryId) (f : FilamentId) (limit : Duration) (before : Outcome)
      (s₀ s s' : Crew.State ρ ε), Crew.Opening f before s₀ → Crew.Runs reg f limit s₀ s →
      Crew.Noted s.workers .aborted →
      (∀ p, s.workers[0]? = some p → p.phase.verdict? = none) → Crew.Runs reg f limit s s' →
      ∀ t e late o, s'.workers[0]? = some ⟨t, .done (.call e late o)⟩ → o = .aborted := by
  refine ⟨fun plan leaf root s t depth ht => Plan.run_eq_inOrder_leaves ht, ?_,
    fun g I plan root s t depth hg ht hdepth => Plan.run_aborts hg ht hdepth,
    fun exec o j P => Job.host_calm, ?_⟩
  · intro plan leaf p rank hp hleaf root a s hroot hs
    exact Plan.exists_takes hp hleaf (rank root + 1) [root]
      (List.forall_mem_singleton.mpr ⟨Nat.lt_succ_self _, a, hroot⟩) hs
  · intro reg f limit before s₀ s s' h₀ h hnoted hunsettled h' t e late o hcaller
    have hle : Outcome.aborted ≤ o := Crew.noted_le h₀ h hnoted hunsettled h' hcaller
    have hmost : o ≤ Outcome.aborted := by cases o <;> decide
    exact le_antisymm hmost hle

/-! ### Errands that are aborted -/

/-- Errands, and the same again in a sequence of its own. -/
def errandsTwice : Plan (Job Nat) where
  actions := ⟨#[.sequence [1, 2], .leaf ⟨errands, 0⟩, .sequence [1]]⟩

/-- The first sequence stands above the other one. -/
def errandsRank : ActionId → Nat
  | 0 => 2
  | 1 => 0
  | _ => 1

lemma acyclic_errandsTwice : errandsTwice.Acyclic errandsRank := by
  intro i inner hi j hj
  match i, hi with
  | 0, hi =>
    cases hi
    rcases List.mem_pair.mp hj with rfl | rfl
    · exact ⟨by decide, _, rfl⟩
    · exact ⟨by decide, _, rfl⟩
  | 1, hi => cases hi
  | 2, hi =>
    cases hi
    rw [List.mem_singleton] at hj
    subst hj
    exact ⟨by decide, _, rfl⟩
  | n + 3, hi =>
    have hlt : n + 3 < 3 := (Array.getElem?_eq_some_iff.mp hi).1
    omega

/-- There is no bread, and nobody wants to go on. All else is written down. -/
def shop (n : Nat) : World.Act Nat (List Nat) Unit :=
  if n = 3 then Flow.unwind (.signal .failedAbort) else World.changeStore (· ++ [n])

lemma civil_shop (n : Nat) : Civil 0 (fun _ => True) (shop n) := by
  rw [shop]
  split
  · exact .unwind (by decide)
  · exact .changeStore fun _ h => h

/-- Errands in the world. -/
def shopping : Plan.Staging (World Nat (List Nat)) Nat (Job Nat) := ⟨Job.host shop 0, Job.run⟩

/-- A world with a registry and nothing else. -/
def vacant {ε : Type} (store : ε) : World Nat ε where
  roster := { registries := ⟨#[{ kind := .program }]⟩ }
  store := store

lemma idle_vacant (store : List Nat) : (vacant store).Idle 0 fun _ => True where
  fits := ThreadTable.fits_empty
  mild := nofun
  kept := trivial
  free := ⟨_, rfl, rfl, Nat.zero_lt_succ _⟩

/-- The first test of the first errands is aborted: the run is over after teardown, though there are
other errands. And a call comes out aborted if a child of it was. -/
theorem leaves_run_until_aborted_errands :
    (∃ w notes, Plan.runFixtures shopping (fun _ => errandsTwice) 3 0 (vacant [])
        = (.ok (.error .aborted), w) ∧
      Plan.runWatched shopping (fun _ => errandsTwice) 3 0 (vacant [], [])
        = (.ok (.error .aborted), w, notes) ∧ w.store = [0, 2, 1] ∧
      FirstAbort (PlanAborts (shopping.HoldsFixture (fun _ => errandsTwice) (vacant []))) notes) ∧
    ∃ s t e late, Crew.Runs 0 0 (.ofSeconds 60) Crew.ready s ∧
      s.workers[0]? = some ⟨t, .done (.call e late .aborted)⟩ := by
  obtain ⟨-, htrees, hplans, -⟩ := leaves_run_until_aborted (σ := World Nat (List Nat)) (ρ := Nat)
    (α := Job Nat) (ε := RunError)
  obtain ⟨-, -, -, hcalm, -⟩ := leaves_run_until_aborted (σ := Unit) (ρ := Nat) (α := Unit)
    (ε := List Nat)
  obtain ⟨-, -, -, -, hcalls⟩ := leaves_run_until_aborted (σ := Unit) (ρ := Empty) (α := Unit)
    (ε := Option Payload)
  constructor
  · obtain ⟨t, ht, hheight⟩ := htrees (fun _ => errandsTwice) shopping.run errandsTwice errandsRank
      acyclic_errandsTwice (fun _ _ _ => rfl) 0 _ (vacant []) rfl rfl
    have hjob (j : Job Nat) (hj : Plan.Holds (fun _ => errandsTwice) shopping.run (vacant []) j) :
        (shopping.host j).Calm (World.Idle 0 fun _ => True) := by
      obtain ⟨i, w, -, hfound⟩ := hj
      obtain rfl : j = ⟨errands, 0⟩ := by
        match i, hfound with
        | 1, hfound => exact (Action.leaf.inj (Option.some.inj hfound)).symm
        | n + 3, hfound =>
          have hlt : n + 3 < 3 := (Array.getElem?_eq_some_iff.mp hfound).1
          omega
      exact hcalm shop 0 ⟨errands, 0⟩ _ (by decide) civil_shop
    obtain ⟨answer, w, notes, hrun, -, hwatched, haborts⟩ :=
      hplans shopping _ _ 0 (vacant []) t 3 hjob ht hheight (idle_vacant [])
    have hseen : (Plan.runWatched shopping (fun _ => errandsTwice) 3 0 (vacant [], [])).2.1.store
        = [0, 2, 1] ∧ ((Plan.runWatched shopping (fun _ => errandsTwice) 3 0
          (vacant [], [])).2.2.any Note.aborts) = true := by decide +kernel
    rw [hwatched] at hseen
    obtain ⟨rfl, hfirst⟩ := haborts (Note.exists_of_any_aborts hseen.2)
    exact ⟨w, notes, hrun, hwatched, hseen.1, hfirst⟩
  · let child : Crew.Exit := ⟨.error (.signal .failedAbort), _, .signalled .failedAbort⟩
    have hstart := Crew.ready_runs (.ofSeconds 60) child
    have hlimit : (Duration.ofSeconds 60).Timed := by decide
    obtain ⟨s, hrest, hworkers⟩ := Crew.childNoted_runs hlimit child .aborted
    have hcaller : s.workers[0]? = some ⟨0, .done (.call ⟨.ok (), _, .returned⟩ false
        (Outcome.completed.worst .aborted))⟩ := hworkers ▸ rfl
    have hnoted : Crew.Noted (Crew.childNoted child .aborted).workers .aborted :=
      ⟨⟨1, .noted child⟩, List.mem_cons_of_mem _ List.mem_cons_self, rfl⟩
    have haborted : Outcome.completed.worst .aborted = .aborted :=
      hcalls 0 0 _ _ _ _ s Crew.opening_ready hstart hnoted (fun p hp => by cases hp; rfl) hrest
        _ _ _ _ hcaller
    rw [haborted] at hcaller
    exact ⟨s, 0, _, false, hstart.trans hrest, hcaller⟩

/-! ### A child that is left behind -/

/-- What routines keep: a child that one of them left behind, and which of the others ran. -/
structure Leftover where
  child : Option Child.Ticket := none
  ran : List Nat := []

/-- The first routine starts a child and returns, the next one lasts until the child is aborted, and
all others only say that they ran. -/
def leaveBehind : Nat → World.Act Nat Leftover Unit
  | 0 => do
    match ← Child.start 0 with
    | .ok k => World.changeStore fun s => { s with child := some k }
    | .error _ => return ()
  | 1 => do
    match ← World.seeStore Leftover.child with
    | some k => let _ ← Child.finish k (Flow.unwind (.signal .failedAbort))
    | none => return ()
  | n => World.changeStore fun s => { s with ran := s.ran ++ [n] }

/-- A fixture that leaves a child behind, and does not wait for it. -/
def leaving : FixtureRun Nat where
  fixture := { Fixture.blank "leaving" with cases := [⟨"leave", 0⟩, ⟨"last", 1⟩, ⟨"go on", 2⟩] }
  options := { joinLimit := ⟨0⟩ }

/-- The fixture that leaves a child behind, and another. -/
def leavingBehind : Plan (Job Nat) where
  actions := ⟨#[.sequence [1, 2], .leaf ⟨leaving, 0⟩,
    .leaf ⟨{ fixture := { Fixture.blank "others" with cases := [⟨"go on", 3⟩] } }, 0⟩]⟩

/-- Whether a plan came to no error, with a child of its first call aborted and the last routines
run. -/
def wentOn : Except Stop (Except RunError Unit) × World Nat Leftover → Bool
  | (.ok (.ok ()), w) =>
    (w.roster.filaments.get? 0).map Filament.childOutcome = some .aborted && w.store.ran = [2, 3]
  | _ => false

lemma of_wentOn {r : Except Stop (Except RunError Unit) × World Nat Leftover}
    (h : wentOn r = true) :
    ∃ w, r = (.ok (.ok ()), w) ∧
      (w.roster.filaments.get? 0).map Filament.childOutcome = some .aborted ∧
      w.store.ran = [2, 3] := by
  rcases r with ⟨stop | e | u, w⟩
  · cases h
  · cases h
  · rw [wentOn, Bool.and_eq_true, decide_eq_true_iff, decide_eq_true_iff] at h
    exact ⟨w, rfl, h⟩

/-- The call of the first routine gives up waiting for the child. The child is aborted while the
next routine runs; after that another test case runs and another fixture, and the plan comes to no
error. -/
theorem child_left_behind_aborts_nothing :
    ∃ w, Plan.runFixtures ⟨Job.host leaveBehind 0, Job.run⟩ (fun _ => leavingBehind) 2 0 (vacant {})
        = (.ok (.ok ()), w) ∧
      (w.roster.filaments.get? 0).map Filament.childOutcome = some .aborted ∧
      w.store.ran = [2, 3] := by
  refine of_wentOn ?_
  decide +kernel

end Testbench
