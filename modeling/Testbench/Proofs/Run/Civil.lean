import Testbench.Proofs.Guests.Reachable
import Testbench.Proofs.Run.Abort
import Testbench.Proofs.Waits
import Testbench.Run.InWorld

/-!
# Civil routines

The world is a calm host if nobody in it makes trouble.  A routine is civil if it comes to an end
when it is called on a thread that is bound, leaves the thread bound, and does not ask for a
debugger; an observer is mild if it does not ask for one when it hears of a panic.  Then every call
comes out, as long as the clock can time its wait, and the next one finds the thread free again.

What test code keeps may matter to how routines end, so something may be known about it all the
time.
-/

namespace Testbench

open World

variable {ρ ε α β σ : Type}

/-! ### Computations that return -/

namespace Flow

/-- From states with `I` a computation returns, as `Q` says. -/
def ReturnsFrom (I : σ → Prop) (m : Flow σ α) (Q : α → σ → Prop) : Prop :=
  ∀ s, I s → ∃ a s', m s = (.ok a, s') ∧ Q a s'

variable {I : σ → Prop} {m : Flow σ α} {k : α → Flow σ β} {Q Q' : α → σ → Prop} {R : β → σ → Prop}

lemma returnsFrom_pure {a : α} (ha : ∀ s, I s → Q a s) : ReturnsFrom I (pure a) Q :=
  fun s hs => ⟨a, s, rfl, ha s hs⟩

lemma ReturnsFrom.bind (hm : ReturnsFrom I m Q) (hk : ∀ a, ReturnsFrom (Q a) (k a) R) :
    ReturnsFrom I (m >>= k) R := by
  intro s hs
  obtain ⟨a, s₁, hfirst, hs₁⟩ := hm s hs
  obtain ⟨b, s₂, hsecond, hs₂⟩ := hk a s₁ hs₁
  exact ⟨b, s₂, (bind_ok hfirst).trans hsecond, hs₂⟩

lemma ReturnsFrom.mono (hm : ReturnsFrom I m Q) (hQ : ∀ a s, Q a s → Q' a s) :
    ReturnsFrom I m Q' := by
  intro s hs
  obtain ⟨a, s', hreturn, hs'⟩ := hm s hs
  exact ⟨a, s', hreturn, hQ a s' hs'⟩

end Flow

open Testbench.Flow

/-! ### Mild observers -/

/-- No debugger is asked for. -/
def Disposition.Mild (d : Disposition) : Prop := d = .proceed ∨ d = .abort

namespace Observer

/-- The observer does not ask for a debugger when it hears of a panic, now or later. -/
def Mild : Observer → Prop
  | .recorder r => r.policy.dispositions.uncaughtException.Mild ∧ ∀ d ∈ r.policy.script, d.Mild
  | .channel c => c.dispositions.uncaughtException.Mild
  | .console c => c.disposition.Mild

namespace Mild

variable {x : Observer}

lemma write_all (frames : List String) (c : Console) :
    (frames.foldl (fun c frame => c.write ("        " ++ frame)) c).disposition
      = c.disposition := by
  induction frames generalizing c with
  | nil => rfl
  | cons frame frames ih => exact ih _

/-- The answer to a panic does not ask for a debugger, and no later answer will. -/
lemma report (h : x.Mild) (i : Identity) (e : Event) :
    (e.kind = .uncaughtException → (x.report i e).1.Mild) ∧ (x.report i e).2.Mild := by
  cases x with
  | recorder r =>
    obtain ⟨hpanic, hscript⟩ := h
    cases hanswers : r.policy.script with
    | nil =>
      simp only [Observer.report, Recorder.report, Recorder.count, Recorder.remember, hanswers]
      refine ⟨fun he => ?_, hpanic, ?_⟩
      · rw [he]
        exact hpanic
      · rw [hanswers]
        exact nofun
    | cons d rest =>
      rw [hanswers] at hscript
      simp only [Observer.report, Recorder.report, Recorder.count, Recorder.remember, hanswers]
      exact ⟨fun _ => hscript d List.mem_cons_self, hpanic,
        fun d' hd' => hscript d' (List.mem_cons_of_mem d hd')⟩
  | channel c =>
    refine ⟨fun he => ?_, h⟩
    change (c.dispositions.answer e.kind).Mild
    rw [he]
    exact h
  | console c =>
    have hsame : (c.report i e).2.disposition = c.disposition := write_all _ _
    refine ⟨fun he => ?_, ?_⟩
    · change ((c.report i e).2.query e.kind).Mild
      rw [he, Console.query, hsame]
      exact h
    · change (c.report i e).2.disposition.Mild
      rw [hsame]
      exact h

lemma unhandledException (h : x.Mild) (message : String) : (x.unhandledException message).Mild := by
  cases x <;> exact h

lemma fixtureStarts (h : x.Mild) (i : Identity) (fixture : String) :
    (x.fixtureStarts i fixture).2.Mild := by
  cases x with
  | recorder r =>
    simp only [Observer.fixtureStarts, Recorder.fixtureStarts]
    split <;> exact h
  | channel c => exact h
  | console c => exact h

lemma fixtureFinished (h : x.Mild) (i : Identity) (fixture : String) (completed : Bool) :
    (x.fixtureFinished i fixture completed).Mild := by
  cases x with
  | recorder r => exact h
  | channel c => exact h
  | console c => cases completed <;> exact h

lemma caseStarts (h : x.Mild) (i : Identity) (fixture case : String) :
    (x.caseStarts i fixture case).2.Mild := by
  cases x with
  | recorder r =>
    simp only [Observer.caseStarts, Recorder.caseStarts]
    split <;> exact h
  | channel c => exact h
  | console c => exact h

lemma caseFinished (h : x.Mild) (i : Identity) (fixture case : String) (completed : Bool) :
    (x.caseFinished i fixture case completed).Mild := by
  cases x with
  | recorder r => exact h
  | channel c => exact h
  | console c => cases completed <;> exact h

end Mild

end Observer

/-! ### Worlds without trouble -/

/-- What is there all the time: a table in order, mild observers, and what is known about what test
code keeps. -/
structure World.Peaceful (reg : RegistryId) (P : ε → Prop) (w : World ρ ε) : Prop where
  fits : (w.roster.table reg).Fits
  mild : ∀ o x, w.observers.get? o = some x → x.Mild
  kept : P w.store

/-- Between calls: the running thread can be bound. -/
structure World.Idle (reg : RegistryId) (P : ε → Prop) (w : World ρ ε) : Prop extends
    w.Peaceful reg P where
  free : w.roster.Free reg w.current

/-- During a call: the running thread is bound to a filament. -/
structure World.Busy (reg : RegistryId) (P : ε → Prop) (f : FilamentId) (w : World ρ ε) : Prop
    extends w.Peaceful reg P where
  bound : ⟨w.current, f, true⟩ ∈ (w.roster.table reg).bindings

/-- A routine that makes no trouble. -/
def Civil (reg : RegistryId) (P : ε → Prop) (routine : Act ρ ε Unit) : Prop :=
  ∀ f, ReturnsFrom (World.Busy reg P f) routine.attempt fun result w =>
    result ≠ .error (.signal .breakpoint) ∧ w.Busy reg P f

namespace Civil

variable {reg : RegistryId} {P : ε → Prop}

/-- A routine may fail, by a signal or by a panic. -/
lemma unwind {payload : Payload} (h : payload ≠ .signal .breakpoint) :
    Civil reg P (Flow.unwind payload : Act ρ ε Unit) :=
  fun _ w hw => ⟨.error payload, w, rfl, fun heq => h (Except.error.inj heq), hw⟩

/-- What test code keeps may change, as long as what is known about it stays true. -/
lemma changeStore {g : ε → ε} (hg : ∀ s, P s → P (g s)) :
    Civil reg P (World.changeStore g : Act ρ ε Unit) :=
  fun _ w hw => ⟨.ok (), { w with store := g w.store }, rfl, nofun,
    ⟨hw.fits, hw.mild, hg _ hw.kept⟩, hw.bound⟩

end Civil

variable {reg : RegistryId} {P : ε → Prop} {f : FilamentId} {w w' : World ρ ε}

/-- What was there before is there, and observers that were mild still are. -/
structure World.Leaves (w w' : World ρ ε) : Prop where
  roster : w'.roster = w.roster
  current : w'.current = w.current
  store : w'.store = w.store
  mild : (∀ o x, w.observers.get? o = some x → x.Mild) →
    ∀ o x, w'.observers.get? o = some x → x.Mild

namespace World

lemma Peaceful.leaves (h : w.Peaceful reg P) (hleaves : w.Leaves w') : w'.Peaceful reg P where
  fits := hleaves.roster ▸ h.fits
  mild := hleaves.mild h.mild
  kept := hleaves.store ▸ h.kept

lemma Idle.leaves (h : w.Idle reg P) (hleaves : w.Leaves w') : w'.Idle reg P where
  toPeaceful := h.toPeaceful.leaves hleaves
  free := by
    rw [hleaves.roster, hleaves.current]
    exact h.free

lemma Busy.leaves (h : w.Busy reg P f) (hleaves : w.Leaves w') : w'.Busy reg P f where
  toPeaceful := h.toPeaceful.leaves hleaves
  bound := by
    rw [hleaves.roster, hleaves.current]
    exact h.bound

end World

/-! ### What is done besides -/

/-- Something known about a world in which there is no trouble, as far as it matters here. -/
structure Placid (I : World ρ ε → Prop) : Prop where
  mild : ∀ w, I w → ∀ o x, w.observers.get? o = some x → x.Mild
  leaves : ∀ w w', I w → w.Leaves w' → I w'

lemma placid_idle : Placid (World.Idle reg P : World ρ ε → Prop) :=
  ⟨fun _ h => h.mild, fun _ _ h hleaves => h.leaves hleaves⟩

lemma placid_busy : Placid (World.Busy reg P f : World ρ ε → Prop) :=
  ⟨fun _ h => h.mild, fun _ _ h hleaves => h.leaves hleaves⟩

namespace Placid

variable {I : World ρ ε → Prop} (h : Placid I)
include h

omit h in
lemma see (g : World ρ ε → α) : ReturnsFrom I (Flow.see g) fun _ => I :=
  fun w hw => ⟨g w, w, rfl, hw⟩

lemma changeThread (g : Thread → Thread) :
    ReturnsFrom I (World.changeThread g : Act ρ ε Unit) fun _ => I :=
  fun w hw => ⟨(), _, rfl, h.leaves w _ hw ⟨rfl, rfl, rfl, id⟩⟩

/-- Observers may be told what leaves them mild. -/
lemma tell (o : ObserverId) {fallback : α} {g : Observer → α × Observer} {R : α → Prop}
    (hfallback : R fallback) (hg : ∀ x, x.Mild → R (g x).1 ∧ (g x).2.Mild) :
    ReturnsFrom I (World.tell o fallback g : Act ρ ε α) fun a w => R a ∧ I w := by
  intro w hw
  have hmild := h.mild w hw
  let told := w.observers.update o fallback g
  refine ⟨told.1, { w with observers := told.2 }, rfl, ?_,
    h.leaves w _ hw ⟨rfl, rfl, rfl, fun _ => ?_⟩⟩
  · rw [Pool.update_fst]
    cases hx : w.observers.get? o with
    | none => exact hfallback
    | some x => exact (hg x (hmild o x hx)).1
  · intro o' y hy
    rw [Pool.update_snd] at hy
    obtain ⟨x, hx, rfl⟩ := Pool.get?_modify_eq_some hy
    split
    · exact (hg x (hmild o' x hx)).2
    · exact hmild o' x hx

lemma report (o : ObserverId) (i : Identity) (e : Event) :
    ReturnsFrom I (World.report o i e : Act ρ ε Disposition)
      fun d w => (e.kind = .uncaughtException → d.Mild) ∧ I w :=
  h.tell o (fun _ => .inl rfl) fun _ hx => hx.report i e

/-- Their answers need not matter. -/
lemma asks (o : ObserverId) (fallback : α) {g : Observer → α × Observer}
    (hg : ∀ x, x.Mild → (g x).2.Mild) :
    ReturnsFrom I (World.tell o fallback g : Act ρ ε α) fun _ => I :=
  (h.tell o (R := fun _ => True) trivial fun x hx => ⟨trivial, hg x hx⟩).mono fun _ _ hw => hw.2

/-! ### Boundaries -/

lemma reportPanic (f : FilamentId) (i : Identity) (text : Option String)
    (left : Option StackTrace) :
    ReturnsFrom I (Boundary.reportPanic f i text left : Act ρ ε Disposition)
      fun d w => d.Mild ∧ I w := by
  have htold (stack : Option StackTrace) : ReturnsFrom I (do
      let o ← observerOf f
      World.inform o (·.unhandledException (panicMessage text))
      World.report o i ⟨.uncaughtException (panicMessage text), stack⟩ : Act ρ ε Disposition)
      fun d w => d.Mild ∧ I w := by
    refine (see _).bind fun o => (h.asks o () fun _ hx => hx.unhandledException _).bind fun _ => ?_
    exact (h.report o i _).mono fun d w hw => ⟨hw.1 rfl, hw.2⟩
  cases left with
  | some stack => exact htold (some stack)
  | none =>
    refine ReturnsFrom.bind (Q := fun _ => I) ?_ htold
    refine (see _).bind fun captures => ?_
    cases captures
    · exact returnsFrom_pure fun _ hw => hw
    · exact (see _).bind fun _ => returnsFrom_pure fun _ hw => hw

lemma enter (f : FilamentId) : ReturnsFrom I (Boundary.enter f : Act ρ ε Bool) fun _ => I :=
  (see _).bind fun _ => (see _).bind fun _ => (h.changeThread _).bind fun _ =>
    returnsFrom_pure fun _ hw => hw

/-- Nothing unwinds past a boundary but the wish for a debugger. -/
lemma leave (f : FilamentId) (i : Identity) (before : Bool) {result : Except Payload Unit}
    (hresult : result ≠ .error (.signal .breakpoint)) :
    ReturnsFrom I (Boundary.leave f i before result : Act ρ ε Boundary.Caught)
      fun caught w => caught.payload? = none ∧ I w := by
  refine (see _).bind fun left => (h.changeThread _).bind fun _ => ?_
  rcases result with (s | text) | u
  · refine returnsFrom_pure fun _ hw => ⟨?_, hw⟩
    cases s with
    | breakpoint => exact absurd rfl hresult
    | _ => rfl
  · refine (h.reportPanic f i text left).bind fun d => returnsFrom_pure fun _ hw => ⟨?_, hw.2⟩
    rcases hw.1 with rfl | rfl <;> rfl
  · exact returnsFrom_pure fun _ hw => ⟨rfl, hw⟩

lemma settle {limit : Duration} (hlimit : limit.Timed) (f : FilamentId) (i : Identity)
    (o : Outcome) : ReturnsFrom I (Boundary.settle f i limit o : Act ρ ε Outcome) fun _ => I := by
  rw [Boundary.settle, joinChildren_timed hlimit]
  have hlast (o : Outcome) : ReturnsFrom I (do
      return o.worst (← seeFilament f .completed Filament.childOutcome) : Act ρ ε Outcome)
      fun _ => I := (see _).bind fun _ => returnsFrom_pure fun _ hw => hw
  refine (see _).bind fun joined => ?_
  cases joined with
  | ok u => exact (returnsFrom_pure fun _ hw => hw).bind hlast
  | error why =>
    exact (see _).bind fun o => (h.report o i _).bind fun _ =>
      (returnsFrom_pure fun _ hw => hw.2).bind hlast

end Placid

/-! ### Calls -/

namespace World

/-- A new filament is the running thread's. -/
lemma Idle.newFilament (h : w.Idle reg P) (o : ObserverId) (flags : FilamentFlags) :
    ∃ w', newFilament o flags w = (.ok w.nextFilament, w') ∧ w'.Idle reg P ∧
      w'.roster.mainThread? w.nextFilament = some w'.current := by
  refine ⟨_, rfl, ⟨⟨h.fits, h.mild, h.kept⟩, h.free⟩, ?_⟩
  exact congrArg (Option.map Filament.mainThread) (Pool.get?_add_self _ _)

lemma Idle.attach (h : w.Idle reg P) (hmain : w.roster.mainThread? f = some w.current) :
    ∃ w', attach reg f w = (.ok (.ok ()), w') ∧ w'.Busy reg P f := by
  have hself : self w = (.ok w.current, w) := rfl
  have hattach := Roster.attach_eq h.free hmain true
  let roster := { w.roster with registries := w.roster.binding reg ⟨w.current, f, true⟩ }
  have hattached : Guests.Attached w.roster reg ⟨w.current, f, true⟩ roster :=
    Guests.attach_ok hattach
  refine ⟨{ w with roster }, ?_, ⟨hattached.fits reg h.fits, h.mild, h.kept⟩, ?_⟩
  · rw [World.attach, Flow.bind_ok hself, withRegistry_eq, hattach]
  · exact hattached.table_self ▸ List.mem_append_right _ List.mem_cons_self

lemma Busy.detach (h : w.Busy reg P f) : ∃ w', detach reg w = (.ok (), w') ∧ w'.Idle reg P := by
  have hself : self w = (.ok w.current, w) := rfl
  have hdetach := withRegistry_eq w reg fun r => ((), r.detach reg w.current)
  refine ⟨_, (Flow.bind_ok hself).trans hdetach, ⟨?_, h.mild, h.kept⟩, ?_⟩
  · have htable := w.roster.table_detach reg w.current reg
    rw [if_pos rfl] at htable
    exact htable ▸ h.fits.of_perm ((w.roster.table reg).unbind_perm w.current)
  · exact Roster.free_detach h.fits h.bound rfl

end World

lemma Civil.guard {routine : Act ρ ε Unit} (hroutine : Civil reg P routine) (i : Identity) :
    ReturnsFrom (World.Busy reg P f) (Boundary.guard f i routine)
      fun caught w => caught.payload? = none ∧ w.Busy reg P f := by
  have hplacid : Placid (World.Busy reg P f : World ρ ε → Prop) := placid_busy
  refine (hplacid.enter f).bind fun before => (hroutine f).bind fun result => ?_
  intro w hw
  exact hplacid.leave f i before hw.1 w hw.2

/-- A civil routine comes out of its call, and the thread is free again. -/
theorem Civil.call {routine : Act ρ ε Unit} (hroutine : Civil reg P routine) {limit : Duration}
    (hlimit : limit.Timed) (h : w.Idle reg P)
    (hmain : w.roster.mainThread? f = some w.current) :
    ∃ o w', Boundary.call reg f limit routine w = (.ok (.ok o), w') ∧ w'.Idle reg P := by
  obtain ⟨w₁, hattach, hbusy⟩ := h.attach hmain
  have hrest : ReturnsFrom (World.Busy reg P f) (do
      let i ← identityIn f
      let caught ← Boundary.guard f i routine
      let o ← Boundary.settle f i limit caught.toOutcome
      detach reg
      Boundary.goOn caught.payload?
      return .ok o : Act ρ ε (Except FilamentError Outcome))
      fun answer w => (∃ o, answer = .ok o) ∧ w.Idle reg P := by
    refine ReturnsFrom.bind ((Placid.see _).bind fun t => Placid.see _) fun i => ?_
    refine (hroutine.guard i).bind fun caught w hw => ?_
    obtain ⟨hcaught, hw⟩ := hw
    refine (placid_busy.settle hlimit f i caught.toOutcome).bind (fun o => ?_) w hw
    refine ReturnsFrom.bind (Q := fun _ => World.Idle reg P) (fun w hw => ?_) fun _ => ?_
    · obtain ⟨w', hdetach, hidle⟩ := hw.detach
      exact ⟨(), w', hdetach, hidle⟩
    · rw [hcaught]
      exact returnsFrom_pure fun _ hw => ⟨⟨o, rfl⟩, hw⟩
  obtain ⟨_, w', hcall, ⟨o, rfl⟩, hidle⟩ := hrest w₁ hbusy
  exact ⟨o, w', (Flow.bind_ok hattach).trans hcall, hidle⟩

/-! ### The world as a host -/

namespace Job

variable {exec : ρ → Act ρ ε Unit} {o : ObserverId} {j : Job ρ}

lemma returnsFrom_callRoutine (hlimit : j.run.options.joinLimit.Timed) {routine : ρ}
    (hroutine : Civil j.registry P (exec routine)) :
    ReturnsFrom (World.Idle j.registry P) (j.callRoutine exec o routine)
      fun answer w => (∃ o, answer = .ok o) ∧ w.Idle j.registry P := by
  intro w hw
  obtain ⟨w₁, hmade, hidle, hmain⟩ := hw.newFilament o j.filamentFlags
  obtain ⟨out, w', hcall, hidle'⟩ := hroutine.call hlimit hidle hmain
  exact ⟨.ok out, w', (Flow.bind_ok hmade).trans hcall, ⟨out, rfl⟩, hidle'⟩

lemma returnsFrom_install :
    ReturnsFrom (World.Idle j.registry P) (j.install o : Act ρ ε (Except FilamentError FilamentId))
      fun _ => World.Idle j.registry P := by
  intro w hw
  let installed := w.roster.installDefault j.registry o j.filamentFlags w.current
  have hinstalled :
      (installed.2.table j.registry).Fits ∧ installed.2.Free j.registry w.current := by
    rcases Guests.installDefault_cases w.roster j.registry o j.filamentFlags w.current with
      ⟨-, hcase⟩ | ⟨r, hcase, -, -, htable, hnone, -⟩
    · simp only [installed, hcase]
      exact ⟨hw.fits, hw.free⟩
    · obtain ⟨f, r', hinstall, -, hfree, -⟩ :=
        Roster.installDefault_eq hw.free hnone o j.filamentFlags w.current
      obtain ⟨-, rfl⟩ := Prod.mk.inj (hcase.symm.trans hinstall)
      simp only [installed, hcase]
      exact ⟨htable j.registry ▸ hw.fits, hfree⟩
  exact ⟨installed.1, { w with roster := installed.2 }, rfl,
    ⟨hinstalled.1, hw.mild, hw.kept⟩, hinstalled.2⟩

lemma returnsFrom_awaitAdopted (hlimit : j.run.options.joinLimit.Timed) (f : FilamentId)
    (fixture : Fixture ρ) : ReturnsFrom (World.Idle j.registry P)
      (j.awaitAdopted o f fixture : Act ρ ε Bool) fun _ => World.Idle j.registry P := by
  rw [awaitAdopted, joinChildren_timed hlimit]
  refine (Placid.see _).bind fun joined => ?_
  cases joined with
  | ok u => exact returnsFrom_pure fun _ hw => hw
  | error why =>
    exact (Placid.see _).bind fun _ => (placid_idle.report _ _ _).bind fun _ =>
      returnsFrom_pure fun _ hw => hw.2

lemma returnsFrom_revoke (f : FilamentId) : ReturnsFrom (World.Idle reg P)
    (revoke reg f : Act ρ ε Unit) fun _ => World.Idle reg P := by
  intro w hw
  refine ⟨(), { w with roster := w.roster.revokeDefault reg f }, rfl, ⟨?_, hw.mild, hw.kept⟩,
    hw.free.revokeDefault f⟩
  have htable := Guests.table_revokeDefault w.roster reg f reg
  rw [if_pos rfl] at htable
  exact htable ▸ hw.fits.of_sublist (.refl _) List.filter_sublist

/-- The world is a calm host of civil routines, if the clock can time their waits. -/
theorem host_calm (hlimit : j.run.options.joinLimit.Timed)
    (hroutines : ∀ routine, Civil j.registry P (exec routine)) :
    (j.host exec o).Calm (World.Idle j.registry P) := by
  refine ⟨?_, fun f => ?_, fun f completed => ?_, fun f c => ?_, fun f c completed => ?_,
    fun routine w hw => ?_, fun f => ?_, fun f d => ?_, fun f d => ?_⟩
  · exact placid_idle.asks o _ (g := fun x => (x.validate, x)) fun _ hx => hx
  · exact (Placid.see _).bind fun t => placid_idle.asks o _ fun _ hx => hx.fixtureStarts _ f.name
  · exact (Placid.see _).bind fun t =>
      placid_idle.asks o _ fun _ hx => hx.fixtureFinished _ f.name completed
  · exact (Placid.see _).bind fun t =>
      placid_idle.asks o _ fun _ hx => hx.caseStarts _ f.name c.name
  · exact (Placid.see _).bind fun t =>
      placid_idle.asks o _ fun _ hx => hx.caseFinished _ f.name c.name completed
  · obtain ⟨_, w', hcall, ⟨out, rfl⟩, hidle⟩ :=
      returnsFrom_callRoutine (o := o) hlimit (hroutines routine) w hw
    exact ⟨out, w', hcall, hidle⟩
  · exact returnsFrom_install
  · exact returnsFrom_awaitAdopted hlimit d f
  · exact returnsFrom_revoke d

end Job

end Testbench
