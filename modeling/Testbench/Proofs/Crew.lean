import Testbench.Proofs.Crew.Program

/-!
# What becomes of a call

However its threads take turns, a call that is not late comes out when nobody is left, with the worst
outcome of all.  A call that is late fails, and says so once.
-/

namespace Testbench.Crew

variable {ρ ε : Type} {reg : RegistryId} {f : FilamentId} {limit : Duration} {main : ThreadId}
  {before o : Outcome} {s₀ s : State ρ ε} {t : ThreadId} {e : Exit} {i : Nat} {p : Worker}

/-- How a thread came out that has left the filament. -/
def Phase.left? : Phase → Option Exit
  | done (.child e) | done (.call e _ _) => some e
  | _ => none

/-- An outcome that some thread of the call came out with. -/
def CameOut (workers : List Worker) (o : Outcome) : Prop :=
  ∃ p ∈ workers, ∃ e, p.phase.left? = some e ∧ o = e.caught.toOutcome

/-- A thread that left the filament without an unwind that goes on has noted how it came out, unless
it is the calling thread. -/
lemma Phase.note?_of_left {φ : Phase} (hleft : φ.left? = some e) (hchild : φ.ofCaller = false)
    (hstays : e.caught.payload? = none) : φ.note? = some e.caught.toOutcome := by
  cases φ with
  | done ending =>
    cases ending with
    | child e' =>
      cases hleft
      rw [Phase.note?, Phase.exit?, Option.bind_some, Exit.note?]
      cases hcaught : e.caught with
      | outcome o => rfl
      | reraise payload =>
        rw [hcaught] at hstays
        cases hstays
    | call => cases hchild
  | _ => cases hleft

/-- Who has noted an outcome, and is finished, has left with it. -/
lemma Phase.of_note {φ : Phase} (hfinished : φ.finished = true) (hnote : φ.note? = some o) :
    ∃ e, φ = .done (.child e) ∧ e.note? = some o := by
  cases φ with
  | done ending =>
    cases ending with
    | child e => exact ⟨e, rfl, hnote⟩
    | call => cases hnote
  | gone => cases hnote
  | _ => cases hfinished

lemma Exit.toOutcome_of_note (h : e.note? = some o) : e.caught.toOutcome = o := by
  rw [Exit.note?] at h
  cases hcaught : e.caught with
  | outcome o' =>
    rw [hcaught] at h
    exact Option.some.inj h
  | reraise payload =>
    rw [hcaught] at h
    cases h

/-- A thread that is finished is not counted. -/
lemma Phase.counts_of_finished {φ : Phase} (h : φ.finished = true) : φ.counts = false := by
  cases φ <;> first | rfl | cases h

/-- A child that is finished left the filament or never was in it. -/
lemma Phase.cases_of_finished {φ : Phase} (h : φ.finished = true) (hchild : φ.ofCaller = false) :
    (∃ e, φ = .done (.child e)) ∨ ∃ why, φ = .gone why := by
  cases φ with
  | done ending =>
    cases ending with
    | child e => exact .inl ⟨e, rfl⟩
    | call => cases hchild
  | gone why => exact .inr ⟨why, rfl⟩
  | _ => cases h

/-- When the call has come out in time, everybody is finished. -/
lemma Sound.finished (hs : Sound reg f limit main before s)
    (hcaller : s.workers[0]? = some ⟨t, .done (.call e false o)⟩) :
    ∀ p ∈ s.workers, p.phase.finished = true := by
  obtain ⟨p₀, hp₀, hsound⟩ := hs.caller
  obtain rfl := Option.some.inj (hp₀.symm.trans hcaller)
  intro p hp
  obtain ⟨j, hj⟩ := List.getElem?_of_mem hp
  cases j with
  | zero =>
    obtain rfl := Option.some.inj (hcaller.symm.trans hj)
    rfl
  | succ j => exact hsound.joined rfl j p hj

/-- The outcome of a call that is in time. -/
lemma Sound.isGreatest (hs : Sound reg f limit main before s)
    (hcaller : s.workers[0]? = some ⟨t, .done (.call e false o)⟩) :
    IsGreatest (insert e.caught.toOutcome (outcomes before s.workers)) o := by
  obtain ⟨p₀, hp₀, hsound⟩ := hs.caller
  obtain rfl := Option.some.inj (hp₀.symm.trans hcaller)
  exact (hsound.verdict e false o rfl).1 rfl

/-- If no unwind goes on past its boundary, what the call takes in is what its threads came out
with. -/
lemma Sound.outcomes_eq (hs : Sound reg f limit main before s)
    (hcaller : s.workers[0]? = some ⟨t, .done (.call e false o)⟩)
    (hstay : ∀ p ∈ s.workers, ∀ e', p.phase.left? = some e' → e'.caught.payload? = none) :
    insert e.caught.toOutcome (outcomes before s.workers)
      = {q | q = before ∨ CameOut s.workers q} := by
  have hmem := List.mem_of_getElem? hcaller
  ext q
  constructor
  · rintro (rfl | rfl | ⟨p, hp, hnote⟩)
    · exact .inr ⟨_, hmem, e, rfl, rfl⟩
    · exact .inl rfl
    · obtain ⟨e', hphase, hnote'⟩ := Phase.of_note (hs.finished hcaller p hp) hnote
      exact .inr ⟨p, hp, e', by rw [hphase]; rfl, (Exit.toOutcome_of_note hnote').symm⟩
  · rintro (rfl | ⟨p, hp, e', hleft, rfl⟩)
    · exact .inr (.inl rfl)
    · obtain ⟨j, hj⟩ := List.getElem?_of_mem hp
      cases j with
      | zero =>
        obtain rfl := Option.some.inj (hcaller.symm.trans hj)
        obtain rfl := Option.some.inj hleft
        exact .inl rfl
      | succ j =>
        have hnote := Phase.note?_of_left hleft (hs.children j p hj).2 (hstay p hp e' hleft)
        exact .inr (.inr ⟨p, hp, hnote⟩)

lemma completed_le (o : Outcome) : Outcome.completed ≤ o := Nat.zero_le o.severity

/-- What the filament knew before does not matter if it is that everything completed. -/
lemma isGreatest_of_completed {S : Set Outcome} {q : Outcome}
    (h : IsGreatest {r | r = before ∨ r ∈ S} o) (hbefore : before = .completed) (hq : q ∈ S) :
    IsGreatest S o := by
  refine ⟨?_, fun r hr => h.2 (.inr hr)⟩
  rcases h.1 with ho | ho
  · have hle : q ≤ .completed := (h.2 (.inr hq)).trans_eq (ho.trans hbefore)
    have heq : o = q := (ho.trans hbefore).trans (le_antisymm hle (completed_le q)).symm
    exact heq ▸ hq
  · exact ho

/-- When the call has come out in time, the filament counts nobody. -/
lemma Sound.running_eq_zero (hs : Sound reg f limit main before s)
    (hcaller : s.workers[0]? = some ⟨t, .done (.call e false o)⟩) {x : Filament}
    (hx : s.world.roster.filaments.get? f = some x) : x.running = 0 := by
  obtain ⟨x', hx', hfilament⟩ := hs.filament
  obtain rfl := Option.some.inj (hx.symm.trans hx')
  refine hfilament.running.trans (List.countP_eq_zero.mpr fun p hp => ?_)
  rw [Worker.counted, Phase.counts_of_finished (hs.finished hcaller p hp)]
  exact Bool.false_ne_true

/-- However the threads of a call take turns: while a thread is left that was started, the filament
counts somebody, except when the routine is about to hear of it.  A call that comes out in time comes
out when all of them have left the filament, or never were in it, and its outcome is the worst of
those that it and they came out with, and of those that the filament knew before.  A call that comes
out late has failed at least, and has reported that once; no other reports anything. -/
theorem call_outcome (h₀ : Opening f before s₀) (h : Runs reg f limit s₀ s) :
    (∀ q i p x, s.workers[0]? = some q → (∀ u, q.phase ≠ .awaits u) →
      s.workers[i + 1]? = some p → p.phase.finished = false →
      s.world.roster.filaments.get? f = some x → x.running ≠ 0) ∧
    (∀ t e o, s.workers[0]? = some ⟨t, .done (.call e false o)⟩ →
      (∀ i p, s.workers[i + 1]? = some p →
        (∃ e', p.phase = .done (.child e')) ∨ ∃ why, p.phase = .gone why) ∧
      (∀ x, s.world.roster.filaments.get? f = some x → x.running = 0) ∧
      s.told = [] ∧
      IsGreatest {q | q = e.caught.toOutcome ∨ q = before ∨ Noted s.workers q} o ∧
      ((∀ p ∈ s.workers, ∀ e', p.phase.left? = some e' → e'.caught.payload? = none) →
        IsGreatest {q | q = before ∨ CameOut s.workers q} o ∧
          (before = .completed → IsGreatest {q | CameOut s.workers q} o))) ∧
    (∀ t e o, s.workers[0]? = some ⟨t, .done (.call e true o)⟩ →
      Outcome.failed ≤ o ∧ s.told = [lateNote limit]) := by
  obtain ⟨main, hopening⟩ := Sound.opening h₀
  have hs : Sound reg f limit main before s := hopening.runs h
  obtain ⟨p₀, hp₀, hsound⟩ := hs.caller
  refine ⟨fun q i p x hcaller hended hp hleft hx hzero => ?_, fun t e o hcaller => ?_,
    fun t e o hcaller => ?_⟩
  · have hfinished := hs.all_finished hx hzero hcaller hended hp
    rw [hleft] at hfinished
    cases hfinished
  · have hworst := hs.isGreatest hcaller
    refine ⟨fun i p hp => ?_, fun x hx => hs.running_eq_zero hcaller hx, ?_, hworst,
      fun hstay => ?_⟩
    · have hfinished := hs.finished hcaller p (List.mem_of_getElem? hp)
      exact Phase.cases_of_finished hfinished (hs.children i p hp).2
    · obtain rfl := Option.some.inj (hp₀.symm.trans hcaller)
      exact hsound.told
    · rw [hs.outcomes_eq hcaller hstay] at hworst
      refine ⟨hworst, fun hbefore => ?_⟩
      exact isGreatest_of_completed hworst hbefore ⟨_, List.mem_of_getElem? hcaller, e, rfl, rfl⟩
  · obtain rfl := Option.some.inj (hp₀.symm.trans hcaller)
    exact ⟨(hsound.verdict e true o rfl).2 rfl, hsound.told⟩

/-- A thread that is about to call a routine, in a program that keeps the payload of an unwind. -/
def ready : State Empty (Option Payload) where
  world := {
    roster := {
      filaments := ⟨#[{ observer := 0, mainThread := 0, flags := {} }]⟩
      registries := ⟨#[{ kind := .program }]⟩ }
    store := none }
  workers := [⟨0, .outside⟩]

lemma opening_ready : Opening 0 .completed ready :=
  ⟨⟨_, rfl, rfl, rfl, by decide⟩, ⟨0, rfl, by decide⟩, rfl⟩

/-- The routine has started a child, which is past its boundary, and the filament knows an outcome. -/
def childNoted (e : Exit) (o : Outcome) :
    State Empty (Option Payload) where
  world := {
    threads := ⟨#[{}, {}]⟩
    roster := {
      filaments := ⟨#[{ observer := 0, mainThread := 0, flags := {}, running := 1, childOutcome := o }]⟩
      registries := ⟨#[{ kind := .program, table := ⟨[⟨0, 0, true⟩, ⟨1, 0, true⟩]⟩ }]⟩ }
    store := none }
  workers := [⟨0, .runs⟩, ⟨1, .noted e⟩]

lemma ready_runs (limit : Duration) (e : Exit) :
    Runs 0 0 limit ready (childNoted e (e.note?.getD .completed)) := by
  have h₁ : Runs 0 0 limit ready _ := .single (.goes (i := 0) rfl (.counts rfl))
  have h₂ := h₁.tail (.goes (i := 0) rfl (.sits rfl))
  have h₃ := h₂.tail (.goes (i := 0) rfl .begins)
  have h₄ := h₃.tail (.starts (i := 0) rfl rfl)
  -- the child
  have h₅ := h₄.tail (.goes (i := 1) rfl (.counts rfl))
  have h₆ := h₅.tail (.goes (i := 1) rfl (.sits rfl))
  have h₇ := h₆.tail (.goes (i := 1) rfl .begins)
  have h₈ := h₇.tail (.hears (i := 0) (j := 1) rfl rfl rfl)
  have h₉ := h₈.tail (.goes (i := 1) rfl (.ends e.result))
  have h₁₀ := h₉.tail (.goes (i := 1) rfl (.catches e))
  cases he : e.note? with
  | none => exact h₁₀.tail (.goes (i := 1) rfl (.passesOn he))
  | some o =>
    have h₁₁ := h₁₀.tail (.goes (i := 1) rfl (.notes he))
    cases o <;> exact h₁₁

/-- The child leaves, and then the call, whose routine returns. -/
lemma childNoted_runs {limit : Duration} (hlimit : limit.Timed) (e : Exit) (o : Outcome) :
    ∃ s, Runs 0 0 limit (childNoted e o) s ∧
      s.workers = [⟨0, .done (.call ⟨.ok (), _, .returned⟩ false (Outcome.completed.worst o))⟩,
        ⟨1, .done (.child e)⟩] := by
  have h₁ : Runs 0 0 limit (childNoted e o) _ := .single (.goes (i := 1) rfl (.unbinds rfl rfl))
  have h₂ := h₁.tail (.goes (i := 1) rfl .releases)
  have h₃ := h₂.tail (.goes (i := 0) rfl (.ends (.ok ())))
  have h₄ := h₃.tail (.goes (i := 0) rfl (.catches ⟨.ok (), _, .returned⟩))
  have h₅ := h₄.tail (.goes (i := 0) rfl (.joins hlimit rfl rfl))
  have h₆ := h₅.tail (.goes (i := 0) rfl (.settles rfl))
  have h₇ := h₆.tail (.goes (i := 0) rfl (.unbinds rfl rfl))
  exact ⟨_, h₇.tail (.goes (i := 0) rfl .releases), rfl⟩

/-- A call with a child that fails. -/
theorem call_outcome_failing_child : ∃ s e, Opening 0 .completed ready ∧
    Runs 0 0 (.ofSeconds 60) ready s ∧ s.workers[0]? = some ⟨0, .done (.call e false .failed)⟩ ∧
    (∀ x, s.world.roster.filaments.get? 0 = some x → x.running = 0) ∧
    IsGreatest {q | CameOut s.workers q} .failed := by
  let child : Exit := ⟨.error (.signal .failed), _, .signalled .failed⟩
  have hlimit : (Duration.ofSeconds 60).Timed := by decide
  obtain ⟨s, hrest, hworkers⟩ := childNoted_runs hlimit child .failed
  have hruns : Runs 0 0 (.ofSeconds 60) ready s := (ready_runs (.ofSeconds 60) child).trans hrest
  have hcaller : s.workers[0]? = some ⟨0, .done (.call ⟨.ok (), _, .returned⟩ false .failed)⟩ :=
    hworkers ▸ rfl
  obtain ⟨-, hintime, -⟩ := call_outcome opening_ready hruns
  obtain ⟨-, hzero, -, -, hworst⟩ := hintime _ _ _ hcaller
  refine ⟨s, _, opening_ready, hruns, hcaller, hzero, (hworst fun p hp e he => ?_).2 rfl⟩
  rw [hworkers] at hp
  rcases List.mem_pair.mp hp with rfl | rfl <;> cases he <;> rfl

/-! ### Children that unwind -/

/-- Only those who return come out completed. -/
lemma Exit.toOutcome_eq_completed_iff (e : Exit) :
    e.caught.toOutcome = .completed ↔ e.result = .ok () := by
  obtain ⟨result, caught, hstands⟩ := e
  cases hstands with
  | returned => exact ⟨fun _ => rfl, fun _ => rfl⟩
  | signalled s => cases s <;> exact ⟨fun h => (nomatch h), fun h => (nomatch h)⟩
  | panicked text d => cases d <;> exact ⟨fun h => (nomatch h), fun h => (nomatch h)⟩

/-- A child notes nothing worse than that it completed only if it returned, or if its unwind goes on
past its boundary. -/
lemma Exit.note_completed_iff (e : Exit) :
    (∀ q, e.note? = some q → q = .completed) ↔ e.result = .ok () ∨ e.caught.payload? ≠ none := by
  rw [← e.toOutcome_eq_completed_iff, Exit.note?]
  cases e.caught with
  | outcome o =>
    refine ⟨fun h => .inl (h o rfl), ?_⟩
    rintro (h | h) q hq
    · exact (Option.some.inj hq).symm.trans h
    · exact absurd rfl h
  | reraise payload =>
    refine ⟨fun _ => .inr (Option.some_ne_none payload), fun _ q hq => ?_⟩
    cases hq

/-- The worst outcome is that everything completed only if there is no other. -/
lemma eq_completed_iff {S : Set Outcome} (h : IsGreatest S o) :
    o = .completed ↔ ∀ q ∈ S, q = .completed := by
  constructor
  · rintro rfl q hq
    exact le_antisymm (h.2 hq) (completed_le q)
  · exact fun hall => hall o h.1

/-- A call in time comes out completed just if nothing else was noted before, its routine returned, and
each of its children returned or unwound past its own boundary: the unwind of a child counts only if
it stays within. -/
theorem call_completed_iff (h₀ : Opening f before s₀) (h : Runs reg f limit s₀ s)
    (hcaller : s.workers[0]? = some ⟨t, .done (.call e false o)⟩) :
    o = .completed ↔ before = .completed ∧ e.result = .ok () ∧
      ∀ i u e', s.workers[i + 1]? = some ⟨u, .done (.child e')⟩ →
        e'.result = .ok () ∨ e'.caught.payload? ≠ none := by
  obtain ⟨main, hopening⟩ := Sound.opening h₀
  have hs : Sound reg f limit main before s := hopening.runs h
  rw [eq_completed_iff (hs.isGreatest hcaller), ← e.toOutcome_eq_completed_iff]
  constructor
  · intro hall
    refine ⟨hall _ (.inr (.inl rfl)), hall _ (.inl rfl), fun i u e' hi => ?_⟩
    refine e'.note_completed_iff.mp fun q hq => hall q (.inr (.inr ?_))
    exact ⟨_, List.mem_of_getElem? hi, hq⟩
  · rintro ⟨hbefore, hown, hchildren⟩ q (rfl | rfl | ⟨p, hp, hnote⟩)
    · exact hown
    · exact hbefore
    · obtain ⟨e', hphase, hnote'⟩ := Phase.of_note (hs.finished hcaller p hp) hnote
      obtain ⟨u, φ⟩ := p
      obtain rfl : φ = .done (.child e') := hphase
      obtain ⟨j, hj⟩ := List.getElem?_of_mem hp
      cases j with
      | zero => cases hcaller.symm.trans hj
      | succ j => exact e'.note_completed_iff.mpr (hchildren j u e' hj) q hnote'

/-- A call with a child that breaks comes out completed. -/
theorem call_completed_breaking_child : ∃ s e o, Opening 0 .completed ready ∧
    Runs 0 0 (.ofSeconds 60) ready s ∧ s.workers[0]? = some ⟨0, .done (.call e false o)⟩ ∧
    (∃ child, s.workers[1]? = some ⟨1, .done (.child child)⟩ ∧
      child.result = .error (.signal .breakpoint)) ∧ o = .completed := by
  let child : Exit := ⟨.error (.signal .breakpoint), _, .signalled .breakpoint⟩
  have hlimit : (Duration.ofSeconds 60).Timed := by decide
  obtain ⟨s, hrest, hworkers⟩ := childNoted_runs hlimit child .completed
  have hruns : Runs 0 0 (.ofSeconds 60) ready s := (ready_runs (.ofSeconds 60) child).trans hrest
  have hcaller : s.workers[0]? = some ⟨0, .done (.call ⟨.ok (), _, .returned⟩ false .completed)⟩ :=
    hworkers ▸ rfl
  have hchild : s.workers[1]? = some ⟨1, .done (.child child)⟩ := hworkers ▸ rfl
  refine ⟨s, _, _, opening_ready, hruns, hcaller, ⟨child, hchild, rfl⟩,
    (call_completed_iff opening_ready hruns hcaller).mpr ⟨rfl, rfl, fun i u e' hi => ?_⟩⟩
  rw [hworkers] at hi
  match i with
  | 0 =>
    cases hi
    exact .inr (fun h => nomatch h)
  | i + 1 => cases hi

/-- A routine that starts a child which breaks, and returns, whatever became of the child. -/
def breaking (reg : RegistryId) : World.Act Empty (Option Payload) Unit := do
  match ← Child.start reg with
  | .ok k =>
    let payload ← Child.finish k (Flow.unwind (.signal .breakpoint))
    World.changeStore fun _ => payload
  | .error _ => return ()

/-- The child unwound, and the call came out completed. -/
theorem call_breaking : ∃ w, Boundary.call 0 0 (.ofSeconds 60) (breaking 0) ready.world
    = (.ok (.ok .completed), w) ∧ w.store = some (.signal .breakpoint) :=
  ⟨_, rfl, rfl⟩

end Testbench.Crew
