import Testbench.Proofs.Guests.Call
import Testbench.Proofs.Spawn.Moves
import Testbench.Proofs.Stacks.Program

/-!
# Good manners

What a thread does has manners if all that it does to filaments and registries are moves, and if it
is the same thread when it is over.  That is so of all that threads do by themselves: they report,
bind and unbind themselves, call routines, wait and unwind.
-/

namespace Testbench

open World

variable {ρ ε α β : Type} {w w' : World ρ ε} {reg : RegistryId} {f : FilamentId} {t : ThreadId}
  {n n' : Nat} {m : Act ρ ε α} {k : α → Act ρ ε β}

/-- Something that makes nothing but moves, if it comes to an end.  It may be about the first `n`
threads, which are there when it begins. -/
def Mannered (n : Nat) (m : Act ρ ε α) : Prop :=
  ∀ w, w.Kempt → n ≤ w.threads.items.size → ∀ result w', m.attempt w = (.ok result, w') →
    Moves w w' ∧ w'.current = w.current

namespace Mannered

/-- It may be about more threads if more are there. -/
lemma mono (h : Mannered n m) (hn : n ≤ n') : Mannered n' m :=
  fun w hw hsize => h w hw (Nat.le_trans hn hsize)

/-- Something that returns after some moves. -/
lemma of_ok {g : World ρ ε → α} {g' : World ρ ε → World ρ ε} (h : ∀ w, m w = (.ok (g w), g' w))
    (hmoves : ∀ w, w.Kempt → Moves w (g' w)) (hcurrent : ∀ w, (g' w).current = w.current) :
    Mannered n m := by
  intro w hw _ result w' hm
  rw [Flow.attempt_ok (h w)] at hm
  cases hm
  exact ⟨hmoves w hw, hcurrent w⟩

lemma of_quietly (h : Quietly m) : Mannered n m := by
  intro w hw _ result w' hm
  obtain ⟨a, w₁, hok, hquiet⟩ := h w
  rw [Flow.attempt_ok hok] at hm
  cases hm
  exact ⟨.of_move (.besides hquiet.roster hquiet.threads (by
    rw [hquiet.current, hquiet.threads]
    exact hw.current_lt)), hquiet.current⟩

lemma pure (a : α) : Mannered n (Pure.pure a : Act ρ ε α) := of_quietly (.pure a)

lemma see (g : World ρ ε → α) : Mannered n (Flow.see g) := of_quietly (.see g)

lemma unwind (payload : Payload) : Mannered n (Flow.unwind payload : Act ρ ε α) := by
  intro w _ _ result w' hm
  cases hm
  exact ⟨.refl w, rfl⟩

lemma bind (hm : Mannered n m) (hk : ∀ a, Mannered n (k a)) : Mannered n (m >>= k) := by
  intro w hw hn result w' h
  rcases Flow.attempt_bind_cases h with ⟨a, w₁, hfirst, hsecond⟩ | ⟨payload, -, hfirst⟩
  · obtain ⟨hmoves, hcurrent⟩ := hm w hw hn _ _ hfirst
    obtain ⟨hmoves', hcurrent'⟩ :=
      hk a w₁ (hw.moves hmoves) (Nat.le_trans hn hmoves.later.threads) _ _ hsecond
    exact ⟨hmoves.trans hmoves', hcurrent'.trans hcurrent⟩
  · exact hm w hw hn _ _ hfirst

lemma attempt (hm : Mannered n m) : Mannered n m.attempt := by
  intro w hw hn result w' h
  rcases hcaught : m.attempt w with ⟨e | r, w₁⟩
  · rw [Flow.attempt_error hcaught] at hcaught
    rw [Flow.attempt, hcaught] at h
    cases h
  · rw [Flow.attempt_ok hcaught] at h
    cases h
    exact hm w hw hn _ _ hcaught

lemma panicking (text : Option String) : Mannered n (World.panicking text : Act ρ ε α) := by
  refine (see _).bind fun keeps => ?_
  split
  · exact (see _).bind fun _ => (of_quietly (.changeThread _)).bind fun _ => unwind _
  · exact unwind _

/-! ### Filaments and registries -/

lemma attach (reg : RegistryId) (f : FilamentId) :
    Mannered n (World.attach reg f : Act ρ ε (Except FilamentError Unit)) :=
  of_ok (fun w => withRegistry_eq w reg (·.attach reg ⟨w.current, f, true⟩))
    (fun _ hw => .of_move (.attach reg hw.current_lt)) fun _ => rfl

lemma detach (reg : RegistryId) : Mannered n (World.detach reg : Act ρ ε Unit) :=
  of_ok (fun w => withRegistry_eq w reg fun r => ((), r.detach reg w.current))
    (fun w _ => .of_move (.detach reg w.current)) fun _ => rfl

lemma membership (reg : RegistryId) (derive : Bool) :
    Mannered n (World.membership reg derive : Act ρ ε (Except FilamentError Member)) :=
  of_ok (fun w => Guests.membership_eq w reg derive)
    (fun _ hw => .of_move (.current reg derive hw.current_lt)) fun _ => rfl

lemma changeFilament (f : FilamentId) {g : Filament → Filament} (hg : ∀ x,
    (g x).running = x.running ∧ (g x).mainThread = x.mainThread ∧ (g x).observer = x.observer) :
    Mannered n (World.changeFilament f g : Act ρ ε Unit) :=
  of_ok (fun _ => rfl) (fun _ _ => .of_move (.remark f hg)) fun _ => rfl

lemma endThread (t : ThreadId) : Mannered n (World.endThread t : Act ρ ε Unit) :=
  of_ok (fun _ => rfl) (fun _ _ => .of_move (.ended t)) fun _ => rfl

/-- Something that is done as another thread, which is there. -/
lemma asThread (ht : t < n) (hm : Mannered n m) : Mannered n (World.asThread t m) := by
  intro w hw hn result w' h
  let turned : World ρ ε := { w with current := t }
  have hturned : Moves w turned := .of_move (.besides rfl rfl (Nat.lt_of_lt_of_le ht hn))
  have hself : self w = (.ok w.current, w) := rfl
  rw [World.asThread, Flow.attempt_bind_ok (Flow.attempt_ok hself),
    Flow.attempt_bind_ok (Flow.attempt_ok (Flow.change_apply _ w))] at h
  obtain ⟨w₁, hran, rfl⟩ := Flow.attempt_ensuring (Flow.change_apply _) h
  have hmoves := hturned.trans (hm turned (hw.moves hturned) hn _ _ hran).1
  exact ⟨hmoves.trans (.of_move (.besides rfl rfl
    (Nat.lt_of_lt_of_le hw.current_lt hmoves.later.threads))), rfl⟩

/-! ### Reports and calls -/

/-- All that a thread does to report has manners. -/
theorem closed : Guests.Reports.Closed (ρ := ρ) (ε := ε) reg (Mannered n) where
  quiet := of_quietly
  unwind := unwind
  membership := membership reg
  setValue f tag _ := changeFilament f fun _ => by cases tag <;> exact ⟨rfl, rfl, rfl⟩
  bind := bind

lemma of_aside (h : Guests.Aside m) : Mannered n m :=
  of_quietly fun w => by
    obtain ⟨a, w', hm, hquiet, -⟩ := h w
    exact ⟨a, w', hm, hquiet⟩

lemma identityIn (f : FilamentId) : Mannered n (World.identityIn f : Act ρ ε Identity) :=
  (see _).bind fun _ => see _

lemma goOn (payload : Option Payload) : Mannered n (Boundary.goOn payload : Act ρ ε Unit) := by
  cases payload with
  | none => exact pure ()
  | some p => exact unwind p

lemma guard (f : FilamentId) (i : Identity) {routine : Act ρ ε Unit} (h : Mannered n routine) :
    Mannered n (Boundary.guard f i routine) :=
  (of_aside (.enter f)).bind fun before => h.attempt.bind fun result =>
    of_aside (.leave f i before result)

lemma settle (f : FilamentId) (i : Identity) (limit : Duration) (o : Outcome) :
    Mannered n (Boundary.settle f i limit o : Act ρ ε Outcome) := by
  by_cases hlimit : limit.Timed
  · exact of_aside (.settle hlimit f i o)
  · rw [Boundary.settle_untimed hlimit]
    exact panicking _

/-- A call of a routine has manners if the routine has. -/
theorem call (reg : RegistryId) (f : FilamentId) (limit : Duration) {routine : Act ρ ε Unit}
    (h : Mannered n routine) : Mannered n (Boundary.call reg f limit routine) := by
  refine (attach reg f).bind fun attached => ?_
  cases attached with
  | error why => exact pure _
  | ok u =>
    exact (identityIn f).bind fun i => (guard f i h).bind fun caught =>
      (settle f i limit caught.toOutcome).bind fun _ => (detach reg).bind fun _ =>
        (goOn caught.payload?).bind fun _ => pure _

/-! ### Other threads -/

/-- A child that was started before runs to its end. -/
theorem finish {c : Child.Ticket} (hc : c.thread < n) {routine : Act ρ ε Unit}
    (h : Mannered n routine) : Mannered n (Child.finish c routine) := by
  have hconclude (before : Bool) (result : Except Payload Unit) :
      Mannered n (Child.conclude c before result : Act ρ ε (Option Payload)) := by
    refine (identityIn _).bind fun i => (of_aside (.leave _ i before result)).bind fun caught =>
      (see _).bind fun _ => (of_quietly (.tell _ _ _)).bind fun _ => ?_
    have hend (payload : Option Payload) : Mannered n (do
        World.detach c.registry
        return payload : Act ρ ε (Option Payload)) := (detach c.registry).bind fun _ => pure _
    cases caught with
    | outcome o =>
      have hnote : Mannered n (World.changeFilament c.filament (·.note o) : Act ρ ε Unit) :=
        changeFilament _ fun _ => ⟨rfl, rfl, rfl⟩
      exact hnote.bind fun _ => hend none
    | reraise payload => exact hend payload
  exact (asThread hc ((of_aside (.enter _)).bind fun before => h.attempt.bind fun result =>
    hconclude before result)).bind fun _ => (endThread _).bind fun _ => pure _

/-- A thread that no filament knows of runs to its end. -/
theorem anonymous (ht : t < n) {routine : Act ρ ε Unit} (h : Mannered n routine) :
    Mannered n (Child.anonymous t routine) := by
  refine (asThread ht h.attempt).bind fun result => (endThread t).bind fun _ => ?_
  cases result with
  | ok u => exact pure _
  | error payload => exact pure _

end Mannered

end Testbench
