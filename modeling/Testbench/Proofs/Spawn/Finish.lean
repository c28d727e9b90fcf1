import Testbench.Proofs.Spawn.Start

/-!
# Children that end

Once it has its turn, a child runs its function under a boundary.  However the function ends, by a
return or by an unwind, the observer is told first of a panic and then, once, that the child
finished, and the child lets go of its binding.  The function may do what it likes, as long as all
that it does to registries are moves.
-/

namespace Testbench

open World

variable {ρ ε α β : Type} {w w' : World ρ ε} {reg : RegistryId} {f : FilamentId} {t : ThreadId}
  {x : Filament} {n : Nat}

namespace Child

/-- The world in which the function of a child begins: the child has its turn, and its cells are
set. -/
def begun (k : Ticket) (w : World ρ ε) : World ρ ε :=
  (Boundary.enter k.filament { w with current := k.thread }).2

/-- What a child leaves behind, `w₂` being the world in which its function ended. -/
structure Ended (k : Ticket) (x : Filament) (result : Except Payload Unit) (w₂ w₃ : World ρ ε) :
    Prop where
  /-- Apart from its last words, the observer is told that it finished, once. -/
  observers : w₃.observers = w₂.observers.modify x.observer fun o =>
    (o.concluding ⟨x.mainThread, k.thread⟩ (Boundary.stackIn w₂ k.filament) result).childFinished
      ⟨x.mainThread, k.thread⟩
  /-- It is not bound, -/
  unbound : ∀ b ∈ (w₃.roster.table k.registry).bindings, b.thread ≠ k.thread
  /-- and others are bound as they were. -/
  others : ∀ reg, ((w₃.roster.table reg).bindings.filter (·.thread ≠ k.thread)).Perm
    ((w₂.roster.table reg).bindings.filter (·.thread ≠ k.thread))
  /-- If nobody took its seat away and it was not adopted elsewhere, one child less is counted. -/
  released : w₂.roster.Seated k.registry k.filament k.thread →
    (∀ a ∈ w₂.roster.adoptions, a.thread ≠ k.thread) →
    ∃ y y', w₂.roster.filaments.get? k.filament = some y ∧
      w₃.roster.filaments.get? k.filament = some y' ∧ y.running = y'.running + 1
  /-- In any case the counts are exact: those who are bound are counted, and nobody else. -/
  kempt : w₃.Kempt

/-- What is told and done last. -/
lemma conclude_apply {k : Ticket} (hx : w.roster.filaments.get? k.filament = some x)
    (hcurrent : w.current = k.thread) (before : Bool) (result : Except Payload Unit) :
    ∃ payload, ∃ g : Filament → Filament, (∀ y, (g y).running = y.running ∧
        (g y).mainThread = y.mainThread ∧ (g y).observer = y.observer) ∧
      conclude k before result w = (.ok payload, { w.disarmed before with
        observers := w.observers.modify x.observer fun o =>
          (o.concluding ⟨x.mainThread, k.thread⟩ (Boundary.stackIn w k.filament)
            result).childFinished ⟨x.mainThread, k.thread⟩
        roster := Roster.detach { w.roster with
          filaments := w.roster.filaments.modify k.filament g } k.registry k.thread }) := by
  obtain ⟨t, reg, f⟩ := k
  obtain rfl : w.current = t := hcurrent
  obtain ⟨caught, hleave⟩ := Boundary.leave_apply f ⟨x.mainThread, w.current⟩ before result w
  have hobserver : Boundary.reportsTo w f = x.observer := by rw [Boundary.reportsTo, hx]
  rw [hobserver] at hleave
  let left : World ρ ε := { w.disarmed before with
    observers := w.observers.modify x.observer fun o =>
      o.concluding ⟨x.mainThread, w.current⟩ (Boundary.stackIn w f) result }
  let told : World ρ ε := { w.disarmed before with
    observers := w.observers.modify x.observer fun o =>
      (o.concluding ⟨x.mainThread, w.current⟩ (Boundary.stackIn w f) result).childFinished
        ⟨x.mainThread, w.current⟩ }
  have hx' : left.roster.filaments.get? f = some x := hx
  have hinform : inform x.observer (·.childFinished ⟨x.mainThread, w.current⟩) left
      = (.ok (), told) := by
    obtain ⟨u, htold⟩ := tell_modify x.observer ()
      (fun o => ((), o.childFinished ⟨x.mainThread, w.current⟩)) left
    rwa [Pool.modify_modify] at htold
  rw [conclude, Flow.bind_ok (identityIn_eq hx), Flow.bind_ok hleave,
    Flow.bind_ok (observerOf_eq hx'), Flow.bind_ok hinform]
  -- whatever is noted, the child lets go of its binding
  have hdetach (r : Roster) : detach reg { told with roster := r }
      = (.ok (), { told with roster := r.detach reg w.current }) := withRegistry_eq _ reg _
  cases caught with
  | outcome o =>
    refine ⟨none, (·.note o), fun _ => ⟨rfl, rfl, rfl⟩, ?_⟩
    have hnote : changeFilament f (·.note o) told = (.ok (), { told with
      roster := { w.roster with filaments := w.roster.filaments.modify f (·.note o) } }) := rfl
    exact (Flow.bind_ok hnote).trans (Flow.bind_ok (hdetach _))
  | reraise payload =>
    refine ⟨some payload, id, fun _ => ⟨rfl, rfl, rfl⟩, ?_⟩
    have hsame : w.roster.filaments.modify f id = w.roster.filaments :=
      Pool.modify_eq_self fun _ _ => rfl
    rw [hsame]
    exact Flow.bind_ok (hdetach w.roster)

/-! ### Seats that are given back -/

variable {r : Roster}

/-- A thread that lets go of its binding and ends is in the table no more. -/
lemma unbound_departed (hfits : ((r.detach reg t).table reg).Fits) (hfits' : (r.table reg).Fits)
    {b : Binding} (hb : b ∈ (((r.detach reg t).threadEnded t).table reg).bindings) :
    b.thread ≠ t := by
  have hstays := (List.mem_filter.mp ((Roster.threadEnded_perm hfits t).mem_iff.mp hb)).1
  rw [Roster.table_detach, if_pos rfl] at hstays
  simpa using (List.mem_filter.mp ((hfits'.unbind_perm_filter t).mem_iff.mp hstays)).2

/-- The tables hold of others what they held. -/
lemma others_departed {reg' : RegistryId} (hfits : ((r.detach reg t).table reg').Fits)
    (hfits' : (r.table reg').Fits) :
    ((((r.detach reg t).threadEnded t).table reg').bindings.filter (·.thread ≠ t)).Perm
      ((r.table reg').bindings.filter (·.thread ≠ t)) := by
  have hended := (Roster.threadEnded_perm hfits t).filter (·.thread ≠ t)
  have hsame : (((r.detach reg t).table reg').bindings.filter (·.thread ≠ t)).Perm
      ((r.table reg').bindings.filter (·.thread ≠ t)) := by
    rw [Roster.table_detach]
    split
    · rename_i hreg
      subst hreg
      have hperm := (hfits'.unbind_perm_filter t).filter (·.thread ≠ t)
      rwa [List.filter_filter, List.filter_congr (fun b _ => Bool.and_self _)] at hperm
    · exact .refl _
  refine hended.trans (.trans (.of_eq ?_) hsame)
  rw [List.filter_filter]
  refine List.filter_congr fun b _ => ?_
  by_cases heq : b.thread = t <;> simp [heq]

/-- Who is in one table is in all of them together. -/
lemma mem_bindings {b : Binding} (hb : b ∈ (r.table reg).bindings) : b ∈ r.bindings := by
  cases hg : r.registries.get? reg with
  | none =>
    rw [Roster.table, hg] at hb
    cases hb
  | some g =>
    rw [Roster.table_eq hg] at hb
    exact List.mem_flatMap.mpr ⟨g, Array.mem_toList_iff.mpr (Array.mem_of_getElem? hg), hb⟩

/-- A child that has its seat still, and was adopted nowhere else, is counted no more. -/
lemma released_departed (hsound : (Accounts.mk r []).Sound) (hx : r.filaments.get? f = some x)
    (hmain : x.mainThread ≠ t) (hseat : r.Seated reg f t)
    (hnobody : ∀ a ∈ r.adoptions, a.thread ≠ t) :
    ∃ y, ((r.detach reg t).threadEnded t).filaments.get? f = some y ∧
      x.running = y.running + 1 := by
  have hended : (r.detach reg t).threadEnded t = r.detach reg t :=
    threadEnded_eq_self fun a ha => hnobody a (r.detach_adoptions reg t ▸ ha)
  rcases hunbind : r.onTable reg none (·.unbind t) with ⟨b?, r'⟩
  obtain ⟨rfl, hfilaments, -⟩ := Roster.seated_unbind hseat hunbind
  have hdetach : r.detach reg t = r'.release ⟨t, f, true⟩ := by rw [Roster.detach, hunbind]
  have hx' : r'.filaments.get? f = some x := hfilaments ▸ hx
  have hweight : Roster.weight x.mainThread t = 1 := if_neg hmain
  have hcounted : 1 ≤ x.running := by
    have hmem : (⟨t, f, true⟩ : Binding) ∈ (r.table reg).bindingsOf t := by
      rw [hseat]
      exact List.mem_singleton_self _
    have hle := hsound.weight_le (mem_bindings (List.mem_filter.mp hmem).1) hx
    rwa [hweight] at hle
  refine ⟨_, hended.symm ▸ hdetach ▸ (Roster.release_eq hx').2, ?_⟩
  rw [hweight]
  exact (Nat.sub_add_cancel hcounted).symm

/-! ### Ending -/

variable {k : Ticket} {body : Act ρ ε Unit} {result : Except Payload Unit} {w₁ w₂ : World ρ ε}

/-- What is left of the child when its function has ended is done without fail. -/
lemma finish_eq (hx : w₂.roster.filaments.get? k.filament = some x)
    (hcurrent : w₂.current = k.thread) (hrun : body.attempt (begun k w₁) = (.ok result, w₂)) :
    ∃ payload w₃, ∃ g : Filament → Filament, finish k body w₁ = (.ok payload, w₃) ∧
      (∀ y, (g y).running = y.running ∧ (g y).mainThread = y.mainThread ∧
        (g y).observer = y.observer) ∧
      w₃.observers = w₂.observers.modify x.observer (fun o =>
        (o.concluding ⟨x.mainThread, k.thread⟩ (Boundary.stackIn w₂ k.filament)
          result).childFinished ⟨x.mainThread, k.thread⟩) ∧
      w₃.roster = (Roster.detach { w₂.roster with
        filaments := w₂.roster.filaments.modify k.filament g } k.registry k.thread).threadEnded
          k.thread := by
  have henter : Boundary.enter k.filament { w₁ with current := k.thread }
      = (.ok (World.running { w₁ with current := k.thread }).keepsPanicStack, begun k w₁) := rfl
  generalize (World.running { w₁ with current := k.thread }).keepsPanicStack = before at henter
  obtain ⟨payload, g, hg, hconclude⟩ := conclude_apply hx hcurrent before result
  have hlife : (do
      let before ← Boundary.enter k.filament
      let result ← body.attempt
      conclude k before result : Act ρ ε (Option Payload)) { w₁ with current := k.thread } = _ :=
    (Flow.bind_ok henter).trans ((Flow.bind_ok hrun).trans hconclude)
  exact ⟨payload, _, g, Flow.bind_ok (asThread_ok hlife), hg, rfl, rfl⟩

/-- A child has its turn only after a while, in `w₁`.  However its function ends, the child comes to
its end. -/
theorem finish_apply (hw : w.Kempt) (hx : w.roster.filaments.get? k.filament = some x)
    (hchild : k.thread ≠ x.mainThread) (hwait : Moves w w₁)
    (hk : k.thread < w₁.threads.items.size) (hbody : Mannered n body)
    (hn : n ≤ w₁.threads.items.size) (hrun : body.attempt (begun k w₁) = (.ok result, w₂)) :
    ∃ payload w₃, finish k body w₁ = (.ok payload, w₃) ∧ Ended k x result w₂ w₃ := by
  have hw₁ := hw.moves hwait
  -- up to the end of the function there are moves alone
  have hsize : (begun k w₁).threads.items.size = w₁.threads.items.size := Array.size_modify
  have hbegun : Moves w₁ (begun k w₁) := .of_move (.besides rfl hsize (hsize ▸ hk))
  obtain ⟨hran, hcurrent⟩ := hbody _ (hw₁.moves hbegun) (hsize ▸ hn) result w₂ hrun
  have hmoved : Moves w w₂ := hwait.trans (hbegun.trans hran)
  have hw₂ := hw.moves hmoved
  obtain ⟨x₂, hx₂, hmain, hobserver⟩ := hmoved.later.filaments k.filament x hx
  -- and so there are until the child is gone
  obtain ⟨payload, w₃, g, hfinish, hg, htold, hroster⟩ := finish_eq hx₂ hcurrent hrun
  rw [hmain, hobserver] at htold
  obtain ⟨hended, -⟩ := Mannered.finish hk (hbody.mono hn) w₁ hw₁ (Nat.le_refl _) _ _
    (Flow.attempt_ok hfinish)
  have hnoted := hw₂.remark k.filament fun y => ⟨(hg y).1, (hg y).2.1⟩
  have hleft := hnoted.detach k.registry k.thread
  refine ⟨payload, w₃, hfinish, {
    observers := htold
    unbound := ?_
    others := ?_
    released := ?_
    kempt := hw₁.moves hended }⟩ <;> rw [hroster]
  · exact fun b hb => unbound_departed (hleft.fits _) (hnoted.fits _) hb
  · exact fun reg => others_departed (hleft.fits reg) (hnoted.fits reg)
  · intro hseat hnobody
    have hchild' : (g x₂).mainThread ≠ k.thread := by
      rw [(hg x₂).2.1, hmain]
      exact hchild.symm
    obtain ⟨y, hy, hcount⟩ := released_departed hnoted.sound (Pool.get?_modify_self g hx₂) hchild'
      hseat hnobody
    exact ⟨x₂, y, hx₂, hy, (hg x₂).1 ▸ hcount⟩

end Child

end Testbench
