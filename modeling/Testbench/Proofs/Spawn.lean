import Testbench.Proofs.Spawn.Finish

/-!
# Children, all or nothing

A thread hands a new child the function that it is to run.  If the child cannot be started, for
whatever reason, then nobody has the function any more, and everything is as if it had not been
tried.  If it is started, then it is bound, counted and told of before the function begins; and when
the function has ended, however it does, the child is told of once more, and its binding and its
place in the count are free again.
-/

namespace Testbench

open World

variable {ρ ε : Type} {w₀ w w' : World ρ ε} {reg : RegistryId}

namespace Child

/-- Starts a child thread that is to run a function.  What is left of the child's life then is an
answer: the function has not run. -/
def spawn (reg : RegistryId) (routine : Act ρ ε Unit) :
    Act ρ ε (Except SpawnError (Ticket × Act ρ ε (Option Payload))) := do
  return (← start reg).map fun k => (k, finish k routine)

lemma spawn_apply {answer : Except SpawnError Ticket} (h : start reg w = (.ok answer, w'))
    (routine : Act ρ ε Unit) :
    spawn reg routine w = (.ok (answer.map fun k => (k, finish k routine)), w') := Flow.bind_ok h

/-- Whatever filaments and registries hold and whatever the observer answers, either a child is
denied, for a reason that there is, and nothing is left of it; or it is started, and when it has had
its turn, in whatever world `w₁` that is, it comes to its end with its function. -/
theorem spawn_all_or_nothing (hroster : w₀.roster = {})
    (hcurrent : w₀.current < w₀.threads.items.size) (hmoves : Moves w₀ w) (reg : RegistryId) :
    (∃ why w', (∀ routine, spawn reg routine w = (.ok (.error why), w')) ∧
        denial? w reg = some why ∧ Untouched w w') ∨
      ∃ k x w', (∀ routine, spawn reg routine w = (.ok (.ok (k, finish k routine)), w')) ∧
        denial? w reg = none ∧ Started reg w k x w' ∧
        ∀ routine w₁, Moves w' w₁ → Mannered w₁.threads.items.size routine →
          ∀ result w₂, routine.attempt (begun k w₁) = (.ok result, w₂) →
            ∃ payload w₃, finish k routine w₁ = (.ok payload, w₃) ∧ Ended k x result w₂ w₃ := by
  have hw : w.Kempt := (Kempt.blank hroster hcurrent).moves hmoves
  rcases start_cases hw reg with ⟨why, w', hstart, hdenied, huntouched⟩ |
    ⟨k, x, w', hstart, hgranted, hstarted⟩
  · exact .inl ⟨why, w', spawn_apply hstart, hdenied, huntouched⟩
  · refine .inr ⟨k, x, w', spawn_apply hstart, hgranted, hstarted, ?_⟩
    intro routine w₁ hwait hroutine result w₂ hrun
    have hchild : k.thread ≠ x.mainThread :=
      hstarted.thread_eq ▸ (Nat.ne_of_lt (hw.main_lt _ x hstarted.filament)).symm
    have hthere := Nat.lt_of_lt_of_le (hstarted.lt hw) hwait.later.threads
    exact finish_apply hw hstarted.filament hchild (hstarted.moves.trans hwait) hthere hroutine
      (Nat.le_refl _) hrun

/-- One thread that reports to a recorder. -/
def nursery : World Unit Unit where
  roster :=
    let r := ((({} : Roster).newFilament 0 {} 0).2.newRegistry .program).2
    (r.attach 0 ⟨0, 0, true⟩).2
  observers := ⟨#[.recorder (.answering .proceed)]⟩
  store := ()

/-- What a child may do: it reports, starts a child of its own, sees that panic, and breaks in. -/
def unruly : Act Unit Unit Unit := do
  let _ ← Report.log 0 "here"
  if let .ok k ← start 0 then
    let _ ← finish k (panicking none)
  Flow.unwind (.signal .breakpoint)

lemma unruly_mannered (n : Nat) : Mannered n unruly := by
  have hlog : Mannered n (Report.log 0 "here" : Act Unit Unit Verdict) :=
    Mannered.closed.reports (.log "here")
  refine hlog.bind fun _ => ?_
  refine start_bind_mannered (fun _ => .unwind _) fun k _ => ?_
  exact (Mannered.finish (Nat.lt_succ_self _) (.panicking none)).bind fun _ => .unwind _

/-- A child that breaks in without a debugger is gone like any other, although the unwind goes on
past its boundary. -/
theorem spawn_all_or_nothing_unruly :
    ∃ x w' w₂ w₃, spawn 0 unruly nursery
        = (.ok (.ok (⟨1, 0, 0⟩, finish ⟨1, 0, 0⟩ unruly)), w') ∧
      Started 0 nursery ⟨1, 0, 0⟩ x w' ∧
      unruly.attempt (begun ⟨1, 0, 0⟩ w') = (.ok (.error (.signal .breakpoint)), w₂) ∧
      finish ⟨1, 0, 0⟩ unruly w' = (.ok (some (.signal .breakpoint)), w₃) ∧
      Ended ⟨1, 0, 0⟩ x (.error (.signal .breakpoint)) w₂ w₃ := by
  let blank : World Unit Unit := { nursery with roster := {} }
  have hroster : blank.roster = {} := rfl
  have hlt : 0 < blank.threads.items.size := Nat.zero_lt_one
  have hmoves : Moves blank nursery :=
    ((Moves.of_move (.filament 0 {} hlt)).trans (.of_move (.registry .program))).trans
      (.of_move (.attach 0 (b := ⟨0, 0, true⟩) hlt))
  rcases spawn_all_or_nothing hroster hlt hmoves 0 with
    ⟨why, w', -, hdenied, -⟩ | ⟨k, x, w', hspawn, -, hstarted, hends⟩
  · cases hdenied
  · -- the child is the second thread
    have hstart : start 0 nursery = (.ok (.ok ⟨1, 0, 0⟩), (start 0 nursery).2) := rfl
    have hsame := (spawn_apply hstart unruly).symm.trans (hspawn unruly)
    obtain rfl : (start 0 nursery).2 = w' := congrArg Prod.snd hsame
    obtain rfl : ⟨1, 0, 0⟩ = k := by
      injection hsame with hanswer
      injection hanswer with hanswer
      injection hanswer with hanswer
      injection hanswer
    have hrun : unruly.attempt (begun ⟨1, 0, 0⟩ (start 0 nursery).2)
        = (.ok (.error (.signal .breakpoint)),
          (unruly.attempt (begun ⟨1, 0, 0⟩ (start 0 nursery).2)).2) := rfl
    obtain ⟨payload, w₃, hfinish, hended⟩ :=
      hends unruly _ (.refl _) (unruly_mannered _) _ _ hrun
    have hpast : (finish ⟨1, 0, 0⟩ unruly (start 0 nursery).2).1
        = .ok (some (.signal .breakpoint)) := rfl
    have hleft := congrArg Prod.snd hfinish
    exact ⟨x, _, _, w₃, hspawn _, hstarted, hrun, Prod.ext hpast hleft, hended⟩

end Child

end Testbench
