import Testbench.Child
import Testbench.Proofs.Repeat.Routines

/-!
# Running the same again

If an action is run without an error and leaves everything as it found it, then a sequence that
holds it so many times writes so many times the same history, and its totals are so many times those
of one run.  If the action ends with an error, then a sequence of it ends there and then.

After one run the world is not what it was: there are more filaments, other threads may be bound,
and the observer has its books.  But it is a twin of the world before, in which the action runs the
same, so that the second run leaves a twin too.  Its books are those of the first run twice over.

It is not enough that routines do the same in the same circumstances, since they can change these.
-/

namespace Testbench

open Testbench.Flow World

variable {ρ ε : Type}

/-- A run leaves as many threads in every registry as it found there, and leaves the filaments that
its thread sees and the answers of the observer as they were. -/
structure LeavesAsFound (o : ObserverId) (w w' : World ρ ε) : Prop where
  size_eq : ∀ reg, (w'.roster.table reg).size = (w.roster.table reg).size
  filament_eq : ∀ i f, (w.roster.view w.current).post i = some f →
    w'.roster.filaments.get? f = w.roster.filaments.get? f
  bound_eq : ∀ i f, (w.roster.view w.current).post i = some f →
    ∀ reg, w'.roster.bound reg f = w.roster.bound reg f
  policy_eq : ∀ r r', w.observers.get? o = some (.recorder r) →
    w'.observers.get? o = some (.recorder r') → r'.policy = r.policy

/-- The recorder that an observer is. -/
def World.recorder? (w : World ρ ε) (o : ObserverId) : Option Recorder :=
  match w.observers.get? o with
  | some (.recorder r) => some r
  | _ => none

/-- Entries so many times over. -/
def Recorder.Entries.times (e : Recorder.Entries) (n : Nat) : Recorder.Entries :=
  ⟨(List.replicate n e.history).flatten, n • e.totals⟩

lemma Recorder.Entries.times_succ (e : Recorder.Entries) (n : Nat) :
    e.times (n + 1) = ⟨(e.times n).history ++ e.history, (e.times n).totals + e.totals⟩ := by
  rw [times, List.replicate_succ', List.flatten_append, List.flatten_singleton, succ_nsmul, times]

variable {o : ObserverId} {I : ε → Prop} {before : Recorder.Entries} {w w₁ y : World ρ ε}
  {r r₁ : Recorder}

/-- Worlds that are twins for the running thread of a world. -/
abbrev World.TwinsFor (w : World ρ ε) (o : ObserverId) (I : ε → Prop) (before : Recorder.Entries) :
    World ρ ε → World ρ ε → Prop :=
  World.Twins o I before fun t =>
    Roster.Twins t (w.roster.view w.current) (w.roster.view w.current)

lemma twinsFor_self (hw : Guests.Orderly w) (hI : I w.store)
    (hr : w.observers.get? o = some (.recorder r)) : w.TwinsFor o I ⟨[], 0⟩ w w where
  orderly_left := hw
  orderly_right := hw
  current_eq := rfl
  roster := by
    refine ⟨.refl _, rfl, rfl, fun _ => rfl, fun i f g hf hg => ?_, fun i f g hf hg reg => ?_⟩
    all_goals
      rw [Option.some.inj (hf.symm.trans hg)]
  store_left := hI
  store_right := hI
  books := ⟨r, r, hr, hr, rfl, rfl, (zero_add _).symm⟩

/-- A twin of the world that a run leaves is one of the world that it found, with the entries of the
run in the books. -/
lemma LeavesAsFound.twinsFor (h : LeavesAsFound o w w₁) (hw : Guests.Orderly w) (hI : I w.store)
    {policy : Recorder.Policy} (hr : w.observers.get? o = some (.recorder { policy }))
    (hr₁ : w₁.observers.get? o = some (.recorder r₁)) (htwins : w.TwinsFor o I before w₁ y) :
    w.TwinsFor o I
      ⟨before.history ++ r₁.entries.history, before.totals + r₁.entries.totals⟩ w y := by
  have hcurrent : w₁.current = w.current := congrArg View.thread htwins.roster.view_left
  obtain ⟨r, s, hr', hs, hbooks⟩ := htwins.books
  cases hr₁.symm.trans hr'
  have hsame {i : Post} {f g : FilamentId} (hf : (w.roster.view w.current).post i = some f)
      (hg : (w.roster.view w.current).post i = some g) : f = g := Option.some.inj (hf.symm.trans hg)
  constructor
  · exact hw
  · exact htwins.orderly_right
  · exact htwins.current_eq.trans hcurrent
  · constructor
    · exact .refl _
    · rfl
    · exact hcurrent ▸ htwins.roster.view_right
    · exact fun reg => (htwins.roster.size_eq reg).trans (h.size_eq reg)
    · intro i f g hf hg
      exact (htwins.roster.filament_eq i f g hf hg).trans (h.filament_eq i f hf)
    · intro i f g hf hg reg
      exact (htwins.roster.bound_eq i f g hf hg reg).trans (h.bound_eq i f hf reg)
  · exact hI
  · exact htwins.store_right
  · refine ⟨_, s, hr, hs, ?_, ?_, ?_⟩
    · exact hbooks.policy_eq.trans (h.policy_eq _ _ hr hr₁)
    · exact hbooks.history_eq.trans (List.append_nil _).symm
    · exact hbooks.totals_eq.trans (add_zero _).symm

section

variable {exec : ρ → Act ρ ε Unit} {plan : ε → Plan (Job ρ)} {p : Plan (Job ρ)} {root : ActionId}
  {depth : Nat} {policy : Recorder.Policy}

/-- Runs an action of the plan that the routines keep, with room for sequences to nest so deep. -/
abbrev runPlanned (exec : ρ → Act ρ ε Unit) (plan : ε → Plan (Job ρ)) (o : ObserverId) (depth : Nat)
    (i : ActionId) : Act ρ ε (Except RunError Unit) :=
  Plan.run (Plan.lookup fun w : World ρ ε => plan w.store) (Job.perform exec o) depth i

/-- The fixtures under an action are run with registries that there are, and their routines do the
same in all twins. -/
def Repeatable (exec : ρ → Act ρ ε Unit) (plan : ε → Plan (Job ρ)) (o : ObserverId)
    (root : ActionId) (w : World ρ ε) : Prop :=
  ∀ j, (plan w.store).Under root j → (w.roster.registries.get? j.registry).isSome ∧
    ∀ routine ∈ j.run.fixture.routines,
      World.Repeats o (fun s => (plan w.store).SameUnder root (plan s)) j.registry (exec routine)

/-- An action of such fixtures comes out the same in twins. -/
lemma Repeatable.follows (h : Repeatable exec plan o root w) (depth : Nat) :
    Follows (w.TwinsFor o (fun s => (plan w.store).SameUnder root (plan s)) before)
      (runPlanned exec plan o depth root) (runPlanned exec plan o depth root) := by
  refine Plan.follows_run (fun x y hxy => ⟨hxy.store_left, hxy.store_right⟩) (fun j hj => ?_) depth
    .refl
  obtain ⟨hreg, hroutines⟩ := h j hj
  refine Job.follows_perform ?_ hroutines
  exact (Option.isSome_map (f := Registry.kind)).trans hreg

/-- However often an action is run that leaves everything as it found it, it runs the same. -/
lemma Repeatable.inOrder_replicate (h : Repeatable exec plan o root w) (hw : Guests.Orderly w)
    (hr : w.observers.get? o = some (.recorder { policy }))
    (hrun : runPlanned exec plan o depth root w = (.ok (.ok ()), w₁))
    (hleaves : LeavesAsFound o w w₁) (hr₁ : w₁.observers.get? o = some (.recorder r₁)) (n k : Nat)
    (hy : w.TwinsFor o (fun s => (plan w.store).SameUnder root (plan s)) (r₁.entries.times k) w y) :
    ∃ y', Plan.inOrder (runPlanned exec plan o depth) (List.replicate n root) y
        = (.ok (.ok ()), y') ∧
      w.TwinsFor o (fun s => (plan w.store).SameUnder root (plan s)) (r₁.entries.times (k + n)) w y'
        := by
  induction n generalizing k y with
  | zero => exact ⟨y, rfl, hy⟩
  | succ n ih =>
    obtain ⟨_, y₁, hrun₁, rfl, hy₁⟩ := h.follows depth w y _ w₁ hy hrun
    have hnext := hleaves.twinsFor hw (fun _ _ => rfl) hr hr₁ hy₁
    rw [← Recorder.Entries.times_succ] at hnext
    obtain ⟨y', hrest, hy'⟩ := ih (k + 1) hnext
    refine ⟨y', ?_, Nat.add_right_comm k n 1 ▸ hy'⟩
    rw [List.replicate_succ, Plan.inOrder_cons_ok hrun₁, hrest]

/-- **Repetition scales counts.**  Running an action so many times in a sequence scales the totals
of one run and repeats its history, if the action leaves everything as it found it.  An action that
ends with an error is not run again. -/
theorem repeated_sequence_scales (hw : Guests.Orderly w)
    (hr : w.observers.get? o = some (.recorder { policy })) (h : Repeatable exec plan o root w)
    {times : Nat} {outer : ActionId}
    (houter : (plan w.store).actions.get? outer = some (.sequence (List.replicate times root)))
    (depth : Nat) :
    (∀ w₁, runPlanned exec plan o depth root w = (.ok (.ok ()), w₁) → LeavesAsFound o w w₁ →
      ∃ r₁ r' w', w₁.observers.get? o = some (.recorder r₁) ∧
        runPlanned exec plan o (depth + 1) outer w = (.ok (.ok ()), w') ∧
        w'.observers.get? o = some (.recorder r') ∧
        r'.totals = r₁.totals.scaled (.ofNat times) ∧
        ((∀ x ∈ r₁.totals.toList, x.toNat * times < 2 ^ 32) →
          r'.totals.toList.map UInt32.toNat = r₁.totals.toList.map fun x => x.toNat * times) ∧
        r'.history.toList = (List.replicate times r₁.history.toList).flatten) ∧
    ∀ e w₁, runPlanned exec plan o depth root w = (.ok (.error e), w₁) → times ≠ 0 →
      runPlanned exec plan o (depth + 1) outer w = (.ok (.error e), w₁) := by
  have houter' : runPlanned exec plan o (depth + 1) outer w =
      Plan.inOrder (runPlanned exec plan o depth) (List.replicate times root) w :=
    Plan.run_of_sequence (Job.perform exec o) (s := w) houter depth
  refine ⟨fun w₁ hrun hleaves => ?_, fun e w₁ hrun htimes => ?_⟩
  · have hself := twinsFor_self (I := fun s => (plan w.store).SameUnder root (plan s)) hw
      (fun _ _ => rfl) hr
    obtain ⟨_, y, hrun', -, htwins⟩ := h.follows depth w w _ w₁ hself hrun
    obtain ⟨r₁, -, hr₁, -⟩ := htwins.books
    obtain ⟨w', hall, htwins'⟩ := h.inOrder_replicate hw hr hrun hleaves hr₁ times 0 hself
    obtain ⟨r, r', hr', hbooks', hbooks⟩ := htwins'.books
    cases hr.symm.trans hr'
    rw [Nat.zero_add] at hbooks
    have htotals : r'.totals = r₁.totals.scaled (.ofNat times) := by
      rw [EventCounts.scaled_ofNat]
      exact hbooks.totals_eq.trans (add_zero _)
    refine ⟨r₁, r', w', hr₁, houter'.trans hall, hbooks', htotals, fun hfits => ?_, ?_⟩
    · rw [htotals, EventCounts.toNat_scaled _ _ hfits]
    · exact hbooks.history_eq.trans (List.append_nil _)
  · obtain ⟨n, rfl⟩ := Nat.exists_eq_succ_of_ne_zero htimes
    have hstop : ∀ s', runPlanned exec plan o depth root w ≠ (.ok (.ok ()), s') := by
      rw [hrun]
      intro s' hs'
      cases hs'
    rw [houter', List.replicate_succ, Plan.inOrder_cons_stop hstop, hrun]

end

/-! ### Visitors

Routines that do the same in the same circumstances, most of which do not leave them as they are.
-/

deriving instance DecidableEq for Recorder.Policy, Recorder.Entries

/-- What a visitor leaves behind. -/
inductive Visitor
  /-- Nothing. -/
  | tidy
  /-- A child thread that nobody waits for. -/
  | child
  /-- An observer that answers differently from now on. -/
  | answer
  /-- One more action. -/
  | action
  /-- A default filament. -/
  | default
deriving DecidableEq

namespace Visitor

/-- A visitor finds fault, and goes on as it is told. -/
def complain : Act Visitor (Plan (Job Visitor)) Unit := do
  let verdict ← Report.assertion 0 ⟨"visits.rs", "visit", 1⟩ "tidy"
  let _ ← verdict.apply
  return ()

/-- What the visitors do. -/
def visit : Visitor → Act Visitor (Plan (Job Visitor)) Unit
  | tidy => complain
  | child => do
    let _ ← Child.start 0
    return ()
  | answer => do
    complain
    inform 0 fun
      | .recorder r =>
        .recorder { r with policy := { r.policy with dispositions := ⟨.abort, .abort⟩ } }
      | x => x
  | action => changeStore fun p => (p.add 1 0).2
  | default => do
    match ← onRoster (·.installDefault 0 0 {} 0) with
    | .ok _ => return ()
    | .error _ => complain

/-- A visitor as a fixture with one test case, which does not wait for children. Threads of tidy
visitors may be anonymous. -/
def job (v : Visitor) : Job Visitor where
  run :=
    { fixture := { Fixture.blank "Visits" with
        cases := [⟨"Visit", v⟩]
        flags := ({} : FixtureFlags).withAnonymousThreads (v = tidy) }
      options := { joinLimit := ⟨0⟩ } }
  registry := 0

/-- One visit, and two of the same. -/
def visits (v : Visitor) : Plan (Job Visitor) :=
  ⟨⟨#[.leaf v.job, .sequence [0], .sequence [1, 1]]⟩⟩

/-- A house with so many guests, and an observer who answers in one way. -/
def house (v : Visitor) (guests : Nat) (d : Disposition) : World Visitor (Plan (Job Visitor)) where
  threads := ⟨((List.range (guests + 1)).map fun _ => ({} : Thread)).toArray⟩
  roster :=
    { filaments := ⟨((List.range guests).map fun i =>
        ({ observer := 0, mainThread := i + 1, flags := {} } : Filament)).toArray⟩
      registries := ⟨#[{ kind := .program
                         table := ⟨(List.range guests).map fun i => ⟨i + 1, i, true⟩⟩ }]⟩ }
  observers := ⟨#[.recorder { policy := { dispositions := ⟨d, d⟩ } }]⟩
  store := v.visits

/-- A tidy visitor does the same at every visit. -/
lemma repeatable_tidy (d : Disposition) : Repeatable visit id 0 1 (tidy.house 0 d) := by
  rintro j ⟨i, -, hj⟩
  obtain rfl : j = tidy.job := by
    match i with
    | 0 => exact (Action.leaf.inj (Option.some.inj hj)).symm
    | 1 | 2 => cases hj
    | n + 3 => cases hj
  refine ⟨rfl, fun routine hroutine => ?_⟩
  obtain rfl : routine = tidy := List.mem_singleton.mp hroutine
  exact World.Narrates.repeats <| .bind (.assertion _ _) fun verdict =>
    .bind (.apply verdict) fun _ => .pure ()

lemma orderly_house (v : Visitor) (d : Disposition) : Guests.Orderly (v.house 0 d) := by
  have hempty (reg : RegistryId) : (v.house 0 d).roster.table reg = {} ∧
      (v.house 0 d).roster.default? reg = none := by
    match reg with
    | 0 => exact ⟨rfl, rfl⟩
    | n + 1 => exact ⟨rfl, rfl⟩
  exact (Guests.Reachable.start Nat.zero_lt_one hempty).orderly

/-- A visit after which nobody is bound, there is no default filament and the observer answers as
before leaves everything as it found it. -/
lemma leavesAsFound_house (v : Visitor) (d : Disposition) {w' : World Visitor (Plan (Job Visitor))}
    (hone : w'.roster.registries.items.size = 1) (hempty : w'.roster.table 0 = {})
    (hpolicy : (w'.recorder? 0).map Recorder.policy = some { dispositions := ⟨d, d⟩ }) :
    LeavesAsFound 0 (v.house 0 d) w' := by
  have hnothing (i : Post) : ((v.house 0 d).roster.view (v.house 0 d).current).post i = none := by
    match i with
    | .own 0 | .default 0 => rfl
    | .own (n + 1) | .default (n + 1) => rfl
  have hlacks {i : Post} {f : FilamentId}
      (hf : ((v.house 0 d).roster.view (v.house 0 d).current).post i = some f) : False := by
    rw [hnothing] at hf
    cases hf
  refine ⟨fun reg => ?_, fun i f hf => (hlacks hf).elim, fun i f hf => (hlacks hf).elim,
    fun r r' hr hr' => ?_⟩
  · match reg with
    | 0 => rw [hempty]; rfl
    | n + 1 =>
      have hnone : w'.roster.registries.get? (n + 1) = none :=
        Array.getElem?_eq_none (hone ▸ Nat.le_add_left 1 n)
      rw [Roster.table, hnone]
      rfl
  · rw [World.recorder?, hr'] at hpolicy
    cases hr
    exact Option.some.inj hpolicy

/-- What is left after one visit. -/
def afterOne (v : Visitor) (guests : Nat) (d : Disposition) : World Visitor (Plan (Job Visitor)) :=
  (runPlanned visit id 0 2 1 (v.house guests d)).2

/-- The entries of a tidy visit. -/
def tidyEntries : Recorder.Entries where
  history := [.beforeFixture "Visits", .beforeCase "Visit", .event .failedAssertion "tidy",
    .afterCase "Visit" true, .afterFixture "Visits" true]
  totals := { beforeFixture := 1, afterFixture := 1, fixturesCompleted := 1, beforeCase := 1,
              afterCase := 1, casesCompleted := 1, failedAssertions := 1 }

/-- Two visits of a tidy visitor are twice one visit; and if the first one is aborted, that is all
there is. -/
theorem repeated_sequence_scales_tidy :
    (∃ r' w', runPlanned visit id 0 3 2 (tidy.house 0 .proceed) = (.ok (.ok ()), w') ∧
      w'.observers.get? 0 = some (.recorder r') ∧
      r'.totals = tidyEntries.totals.scaled 2 ∧
      r'.history.toList = tidyEntries.history ++ tidyEntries.history) ∧
    ∃ w', runPlanned visit id 0 2 1 (tidy.house 0 .abort) = (.ok (.error .aborted), w') ∧
      runPlanned visit id 0 3 2 (tidy.house 0 .abort) = (.ok (.error .aborted), w') := by
  have houter : tidy.visits.actions.get? 2 = some (.sequence (List.replicate 2 1)) := rfl
  constructor
  · obtain ⟨hscales, -⟩ := repeated_sequence_scales (orderly_house tidy .proceed) rfl
      (repeatable_tidy .proceed) houter 2
    have hrun : runPlanned visit id 0 2 1 (tidy.house 0 .proceed)
        = (.ok (.ok ()), tidy.afterOne 0 .proceed) := World.ends_at (by decide +kernel)
    have hleaves : LeavesAsFound 0 (tidy.house 0 .proceed) (tidy.afterOne 0 .proceed) :=
      leavesAsFound_house tidy .proceed (by decide +kernel) (by decide +kernel) (by decide +kernel)
    have hentries : ((tidy.afterOne 0 .proceed).recorder? 0).map Recorder.entries
        = some tidyEntries := by decide +kernel
    obtain ⟨r₁, r', w', hr₁, hrun', hr', htotals, -, hhistory⟩ := hscales _ hrun hleaves
    rw [World.recorder?, hr₁, Option.map_some] at hentries
    have hone : r₁.entries = tidyEntries := Option.some.inj hentries
    refine ⟨r', w', hrun', hr', htotals.trans ?_, hhistory.trans ?_⟩
    · exact congrArg (fun e => e.totals.scaled 2) hone
    · exact congrArg (fun e => e.history ++ (e.history ++ [])) hone
  · obtain ⟨-, hstops⟩ := repeated_sequence_scales (orderly_house tidy .abort) rfl
      (repeatable_tidy .abort) houter 2
    obtain ⟨w₁, hrun⟩ : ∃ w₁, runPlanned visit id 0 2 1 (tidy.house 0 .abort)
        = (.ok (.error .aborted), w₁) := World.ends_so (by decide +kernel)
    exact ⟨w₁, hrun, hstops .aborted w₁ hrun two_ne_zero⟩

/-- One visit comes to its end, but two of the same do not, or leave other entries than those of one
visit twice over. -/
abbrev Differs (v : Visitor) (guests : Nat) : Prop :=
  (runPlanned visit id 0 2 1 (v.house guests .proceed)).1 = .ok (.ok ()) ∧
    ¬((runPlanned visit id 0 3 2 (v.house guests .proceed)).1 = .ok (.ok ()) ∧
      ((runPlanned visit id 0 3 2 (v.house guests .proceed)).2.recorder? 0).map Recorder.entries =
        ((v.afterOne guests .proceed).recorder? 0).map (·.entries.times 2))

/-- Leaving a thread behind makes a difference once a registry is full, and anything else does at
once. -/
theorem second_visit_differs :
    child.Differs 254 ∧ answer.Differs 0 ∧ action.Differs 0 ∧ default.Differs 0 := by
  refine ⟨?_, ?_, ?_, ?_⟩
  all_goals decide +kernel

end Visitor

end Testbench
