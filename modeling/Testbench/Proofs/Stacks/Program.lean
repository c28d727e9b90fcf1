import Testbench.Driver.Client
import Testbench.Proofs.Levels.Body

/-!
# Programs that nest boundaries

What a thread does, as far as it matters to the stacks of panics: it panics, it unwinds in other
ways, it catches unwinds and goes on, and it runs routines under boundaries, all of it as deeply
nested as it likes.  Whatever else it does leaves its two cells alone, and so does whatever is done
by other threads meanwhile.

Calls of routines are such programs, in user mode as well as through the device, if the routines
are.
-/

namespace Testbench

namespace World

variable {ρ ε α β : Type} {w w' w'' : World ρ ε}

/-! ### What leaves the cells alone -/

/-- The same thread runs and has in its cells what it had, no thread is gone, and filaments stay
what they are. -/
structure Still (w w' : World ρ ε) : Prop where
  current : w'.current = w.current
  threads : w.threads.items.size ≤ w'.threads.items.size
  switch : w'.running.keepsPanicStack = w.running.keepsPanicStack
  stack : w'.running.panicStack = w.running.panicStack
  face : ∀ f, w.roster.KeepsFace f w'.roster

namespace Still

lemma of_threads (hcurrent : w'.current = w.current) (hthreads : w'.threads = w.threads)
    (hface : ∀ f, w.roster.KeepsFace f w'.roster) : Still w w' := by
  have hrunning : w'.running = w.running := by rw [running, running, hcurrent, hthreads]
  exact ⟨hcurrent, by rw [hthreads], by rw [hrunning], by rw [hrunning], hface⟩

lemma refl (w : World ρ ε) : Still w w := of_threads rfl rfl fun _ => .refl _

lemma trans (h : Still w w') (h' : Still w' w'') : Still w w'' where
  current := h'.current.trans h.current
  threads := Nat.le_trans h.threads h'.threads
  switch := h'.switch.trans h.switch
  stack := h'.stack.trans h.stack
  face f := (h.face f).trans (h'.face f)

end Still

/-- Something that leaves the cells of the running thread alone if it comes to an end. -/
def Calm (m : Act ρ ε α) : Prop :=
  ∀ w result w', m.attempt w = (.ok result, w') → Still w w'

namespace Calm

variable {m : Act ρ ε α} {k : α → Act ρ ε β}

lemma of_ok {g : World ρ ε → α} {g' : World ρ ε → World ρ ε} (h : ∀ w, m w = (.ok (g w), g' w))
    (hstill : ∀ w, Still w (g' w)) : Calm m := by
  intro w result w' hm
  rw [Flow.attempt_ok (h w)] at hm
  cases hm
  exact hstill w

lemma pure (a : α) : Calm (Pure.pure a : Act ρ ε α) := of_ok (fun _ => rfl) .refl

lemma see (f : World ρ ε → α) : Calm (Flow.see f) := of_ok (fun _ => rfl) .refl

lemma bind (hm : Calm m) (hk : ∀ a, Calm (k a)) : Calm (m >>= k) := by
  intro w result w' h
  rcases Flow.attempt_bind_cases h with ⟨a, w₁, hfirst, hsecond⟩ | ⟨payload, -, hfirst⟩
  · exact (hm w _ _ hfirst).trans (hk a w₁ _ _ hsecond)
  · exact hm w _ _ hfirst

/-- The level of a thread is not in its cells. -/
lemma setLevel (l : Irql) : Calm (World.setLevel l : Act ρ ε Unit) := by
  refine of_ok (fun _ => rfl) fun w => ?_
  have hcells : (World.running { w with threads := w.threads.modify w.current fun t =>
      { t with level := l } }).keepsPanicStack = w.running.keepsPanicStack ∧
      (World.running { w with threads := w.threads.modify w.current fun t =>
        { t with level := l } }).panicStack = w.running.panicStack := by
    simp only [running, Pool.get?_modify_same]
    cases w.threads.get? w.current <;> exact ⟨rfl, rfl⟩
  exact ⟨rfl, Nat.le_of_eq Array.size_modify.symm, hcells.1, hcells.2, fun _ => .refl _⟩

lemma onRoster {f : Roster → α × Roster} (hf : ∀ r g, Roster.KeepsFace g r (f r).2) :
    Calm (World.onRoster f : Act ρ ε α) :=
  of_ok (fun _ => rfl) fun w => .of_threads rfl rfl (hf w.roster)

lemma withRegistry (reg : RegistryId) {f : Roster → α × Roster}
    (hf : ∀ r g, Roster.KeepsFace g r (f r).2) :
    Calm (World.withRegistry reg (World.onRoster f) : Act ρ ε α) :=
  of_ok (fun w => withRegistry_eq w reg f) fun w => .of_threads rfl rfl (hf w.roster)

lemma changeFilament (f : FilamentId) {g : Filament → Filament}
    (hg : ∀ x, (g x).observer = x.observer ∧ (g x).flags = x.flags) :
    Calm (World.changeFilament f g : Act ρ ε Unit) :=
  onRoster fun r _ => .modify hg r f

lemma newFilament (o : ObserverId) (flags : FilamentFlags) :
    Calm (World.newFilament o flags : Act ρ ε FilamentId) :=
  (see _).bind fun _ => onRoster fun _ _ x hx => ⟨x, Pool.get?_add_of_some hx _, rfl, rfl⟩

lemma attach (reg : RegistryId) (f : FilamentId) :
    Calm (World.attach reg f : Act ρ ε (Except FilamentError Unit)) :=
  (see _).bind fun _ => withRegistry reg fun r _ => .attach r reg _

lemma detach (reg : RegistryId) : Calm (World.detach reg : Act ρ ε Unit) :=
  (see _).bind fun _ => withRegistry reg fun r _ => .detach r reg _

lemma membership (reg : RegistryId) (derive : Bool) :
    Calm (World.membership reg derive : Act ρ ε (Except FilamentError Member)) :=
  (see _).bind fun t => withRegistry reg fun r _ => .current r reg t derive

lemma identityIn (f : FilamentId) : Calm (World.identityIn f : Act ρ ε Identity) :=
  (see _).bind fun _ => see _

/-- Observers have nothing to do with it. -/
lemma tell (o : ObserverId) (fallback : α) (f : Observer → α × Observer) :
    Calm (World.tell o fallback f : Act ρ ε α) :=
  of_ok (fun _ => rfl) fun _ => .of_threads rfl rfl fun _ => .refl _

lemma newObserver (x : Observer) : Calm (World.newObserver x : Act ρ ε ObserverId) :=
  of_ok (fun _ => rfl) fun _ => .of_threads rfl rfl fun _ => .refl _

lemma lookup (address : UInt64) :
    Calm (Driver.lookup address : Act ρ ε (Except TableError ConnectionId)) :=
  of_ok (fun w => onDevice_eq w (·.lookup address)) fun _ => .of_threads rfl rfl fun _ => .refl _

lemma release (c : ConnectionId) : Calm (Driver.release c : Act ρ ε Unit) :=
  of_ok (fun w => changeDevice_eq w (·.release c)) fun _ => .of_threads rfl rfl fun _ => .refl _

lemma takeEvents (channel : ObserverId) :
    Calm (Driver.takeEvents channel : Act ρ ε EventBuffer) :=
  of_ok (fun _ => rfl) fun _ => .of_threads rfl rfl fun _ => .refl _

lemma restoreLevel (channel : ObserverId) (entry : Irql) :
    Calm (Driver.restoreLevel channel entry : Act ρ ε Unit) := by
  refine (see _).bind fun exit => ?_
  split
  · exact (tell channel () _).bind fun _ => setLevel entry
  · exact pure ()

lemma attempt (hm : Calm m) : Calm m.attempt := by
  intro w result w' h
  rcases result with payload | result
  · exact nomatch Flow.attempt_error (Flow.of_attempt_unwound h)
  · exact hm w result w' (Flow.of_attempt_ok h)

/-- What others do in their turn they do on threads of their own. -/
lemma turn {exec : Routines ρ ε} (h : Calm exec.others) : Calm exec.turn :=
  h.attempt.bind fun _ => pure ()

lemma note (m : Member) (message : String) :
    Calm (RemoteRoutine.note m message : Act ρ ε Unit) :=
  (see _).bind fun _ => (tell _ _ _).bind fun _ => pure ()

lemma forward (m : Member) (rs : List Record.Placed) :
    Calm (RemoteRoutine.forward m rs : Act ρ ε Unit) := by
  induction rs with
  | nil => exact pure ()
  | cons r rs ih => exact (see _).bind fun _ => (tell _ _ _).bind fun _ => ih

lemma deliver (m : Member) (response : CallResponse) (events : List UInt8) :
    Calm (RemoteRoutine.deliver m response events : Act ρ ε Unit) := by
  have hword : Calm (if response.truncated then
      RemoteRoutine.note m ("Event buffer full, only the first "
        ++ toString response.eventCount.toNat ++ " events were delivered")
      else Pure.pure () : Act ρ ε Unit) := by
    split
    · exact note m _
    · exact pure ()
  refine (changeFilament (g := (·.setValue .ordinary response.value)) m.filament
    fun _ => ⟨rfl, rfl⟩).bind fun _ => (forward m _).bind fun _ => ?_
  generalize (Record.readAll events).failure = failure
  cases failure with
  | none => exact hword
  | some why => exact (note m _).bind fun _ => hword

lemma request (r : RemoteRoutine) (m : Member) : Calm (r.request m : Act ρ ε CallRequest) :=
  (see _).bind fun _ => (tell _ _ _).bind fun _ => (tell _ _ _).bind fun _ =>
    (see _).bind fun _ => pure _

end Calm

end World

open World

variable {ρ ε α β : Type}

/-! ### Programs -/

/-- What a thread does. -/
inductive Program (ρ ε : Type) : Type → Type 1
  /-- It returns. -/
  | returns {α : Type} (a : α) : Program ρ ε α
  /-- It does something that leaves its cells alone, and goes on. -/
  | does {α β : Type} (m : Act ρ ε β) (calm : Calm m) (next : β → Program ρ ε α) : Program ρ ε α
  /-- It panics. -/
  | panics {α : Type} (text : Option String) : Program ρ ε α
  /-- It unwinds without a panic: with a signal, or with the payload of an unwind that was caught.
  -/
  | unwinds {α : Type} (payload : Payload) : Program ρ ε α
  /-- It catches what unwinds out of a part of it, and goes on. -/
  | catches {α β : Type} (body : Program ρ ε β) (next : Except Payload β → Program ρ ε α) :
    Program ρ ε α
  /-- It runs a routine under a boundary, reporting as `i` of the filament, and goes on. -/
  | guards {α : Type} (f : FilamentId) (i : Identity) (body : Program ρ ε Unit)
    (next : Boundary.Caught → Program ρ ε α) : Program ρ ε α

namespace Program

/-- The program as a computation. -/
def run {α : Type} : Program ρ ε α → Act ρ ε α
  | returns a => pure a
  | does m _ next => m >>= fun b => (next b).run
  | panics text => panicking text
  | unwinds payload => Flow.unwind payload
  | catches body next => body.run.attempt >>= fun result => (next result).run
  | guards f i body next => Boundary.guard f i body.run >>= fun caught => (next caught).run

/-- One program after another. -/
def andThen {α β : Type} : Program ρ ε α → (α → Program ρ ε β) → Program ρ ε β
  | returns a, k => k a
  | does m calm next, k => does m calm fun b => (next b).andThen k
  | panics text, _ => panics text
  | unwinds payload, _ => unwinds payload
  | catches body next, k => catches body fun result => (next result).andThen k
  | guards f i body next, k => guards f i body fun caught => (next caught).andThen k

lemma run_andThen (p : Program ρ ε α) (k : α → Program ρ ε β) :
    (p.andThen k).run = p.run >>= fun a => (k a).run := by
  induction p with
  | returns a => rw [andThen, run, pure_bind]
  | does m calm next ih => simp only [andThen, run, ih, bind_assoc]
  | panics text => exact (panicking_bind text _).symm
  | unwinds payload => rfl
  | catches body next _ ih => simp only [andThen, run, ih, bind_assoc]
  | guards f i body next _ ih => simp only [andThen, run, ih, bind_assoc]

end Program

/-- Something that a program does. -/
def Nested (m : Act ρ ε α) : Prop := ∃ p : Program ρ ε α, p.run = m

namespace Nested

variable {m : Act ρ ε α} {k : α → Act ρ ε β}

lemma pure (a : α) : Nested (Pure.pure a : Act ρ ε α) := ⟨.returns a, rfl⟩

lemma unwind (payload : Payload) : Nested (Flow.unwind payload : Act ρ ε α) :=
  ⟨.unwinds payload, rfl⟩

lemma of_calm (h : Calm m) : Nested m := ⟨.does m h .returns, bind_pure m⟩

lemma bind (hm : Nested m) (hk : ∀ a, Nested (k a)) : Nested (m >>= k) := by
  obtain ⟨p, rfl⟩ := hm
  choose q hq using hk
  exact ⟨p.andThen q, by rw [p.run_andThen, funext hq]⟩

lemma attempt (hm : Nested m) : Nested m.attempt := by
  obtain ⟨p, rfl⟩ := hm
  exact ⟨.catches p .returns, bind_pure _⟩

lemma guard (f : FilamentId) (i : Identity) {routine : Act ρ ε Unit} (h : Nested routine) :
    Nested (Boundary.guard f i routine) := by
  obtain ⟨p, rfl⟩ := h
  exact ⟨.guards f i p .returns, bind_pure _⟩

lemma ensuring {finish : Act ρ ε Unit} (hm : Nested m) (hfinish : Nested finish) :
    Nested (m.ensuring finish) := by
  refine hm.attempt.bind fun result => hfinish.bind fun _ => ?_
  cases result with
  | ok a => exact pure a
  | error payload => exact unwind payload

lemma goOn (payload : Option Payload) : Nested (Boundary.goOn payload : Act ρ ε Unit) := by
  cases payload with
  | none => exact pure ()
  | some payload => exact unwind payload

/-! ### Calls of routines -/

/-- A wait that cannot be timed is a panic. -/
lemma settle (f : FilamentId) (i : Identity) (limit : Duration) (o : Outcome) :
    Nested (Boundary.settle f i limit o : Act ρ ε Outcome) := by
  have hworst (o : Outcome) : Calm (do
      return o.worst (← World.seeFilament f .completed Filament.childOutcome) : Act ρ ε Outcome) :=
    (Calm.see _).bind fun _ => .pure _
  by_cases hlimit : limit.Timed
  · rw [Boundary.settle, joinChildren_timed hlimit]
    refine of_calm ((Calm.see _).bind fun joined => ?_)
    cases joined with
    | ok u => exact (Calm.pure o).bind hworst
    | error why =>
      exact (Calm.see _).bind fun _ => (Calm.tell _ _ _).bind fun _ => (Calm.pure _).bind hworst
  · rw [Boundary.settle_untimed hlimit]
    exact ⟨.panics (some untimedText), rfl⟩

/-- A call in user mode. -/
theorem call (reg : RegistryId) (f : FilamentId) (limit : Duration) {routine : Act ρ ε Unit}
    (h : Nested routine) : Nested (Boundary.call reg f limit routine) := by
  refine (of_calm (.attach reg f)).bind fun attached => ?_
  cases attached with
  | error why => exact pure _
  | ok u =>
    exact (of_calm (.identityIn f)).bind fun i => (guard f i h).bind fun caught =>
      (settle f i limit _).bind fun _ => (of_calm (.detach reg)).bind fun _ =>
        (goOn _).bind fun _ => pure _

section

variable {exec : Routines ρ ε} (hexec : ∀ routine, Nested (exec routine))
  (hothers : Calm exec.others)
include hexec hothers

lemma callProtected (registry : RegistryId) (limit : Duration) (routine : ρ) (channel : ObserverId)
    (value : UInt64) :
    Nested (Driver.callProtected exec registry limit routine channel value) := by
  refine (of_calm (.newFilament channel {})).bind fun f => (of_calm (.changeFilament
    (g := (·.setValue .ordinary value)) f fun _ => ⟨rfl, rfl⟩)).bind fun _ => ?_
  refine (of_calm (.attach registry f)).bind fun attached => ?_
  cases attached with
  | error why => exact pure _
  | ok u =>
    refine (of_calm (.identityIn f)).bind fun i => (of_calm (.see _)).bind fun entry => ?_
    refine (guard f i (hexec routine)).bind fun caught => ?_
    refine (of_calm (.turn hothers)).bind fun _ => ?_
    refine (of_calm (.restoreLevel channel entry)).bind fun _ => ?_
    refine (of_calm (.turn hothers)).bind fun _ => ?_
    refine (settle f i limit _).bind fun o => (of_calm (.see _)).bind fun v => ?_
    exact (of_calm (.detach registry)).bind fun _ => (goOn _).bind fun _ => pure _

lemma driverCall (c : ConnectionId) (fixture routine : UInt16) (channel : ObserverId)
    (value : UInt64) : Nested (Driver.call exec c fixture routine channel value) := by
  have hmodify (f : Connection ρ → Connection ρ) : Nested (Driver.modify c f : Act ρ ε Unit) :=
    of_calm (.of_ok (fun _ => rfl) fun _ => .of_threads rfl rfl fun _ => .refl _)
  refine (hmodify _).bind fun _ => ensuring ?_ (hmodify _)
  refine (of_calm (.see _)).bind fun found => ?_
  cases found with
  | none => exact pure _
  | some connection =>
    simp only []
    split
    · exact pure _
    · split
      · exact pure _
      · exact callProtected hexec hothers _ _ _ _ _

lemma callAt (r : CallRequest) (channel : ObserverId) : Nested (Driver.callAt exec r channel) := by
  refine (of_calm (.lookup r.address)).bind fun found => ?_
  cases found with
  | error why => exact pure _
  | ok c =>
    have hcall := driverCall hexec hothers c
    refine (ensuring (hcall _ _ _ _) (of_calm (.release c))).bind fun result => ?_
    cases result <;> exact pure _

lemma callRoutine (input output : List UInt8) : Nested (Driver.callRoutine exec input output) := by
  rw [Driver.callRoutine]
  cases CallRequest.ofBytes? input with
  | none => exact pure _
  | some request =>
    simp only []
    split
    · exact pure _
    cases Driver.dispositionsOf request with
    | error why => exact pure _
    | ok dispositions =>
      simp only []
      split
      · exact pure _
      refine (of_calm (.newObserver _)).bind fun channel => ?_
      refine (callAt hexec hothers request channel).bind fun result => ?_
      cases result with
      | error why => exact pure _
      | ok r => exact (of_calm (.takeEvents channel)).bind fun _ => pure _

/-- A call of a remote routine. -/
theorem remote (r : RemoteRoutine) : Nested (r.run exec) := by
  refine (of_calm (.membership _ false)).bind fun found => ?_
  cases found with
  | error why => exact unwind _
  | ok m =>
    have hcontrol (input output : List UInt8) :
        Nested (Driver.control exec ControlCode.call.code input output) := by
      rw [Driver.control, ControlCode.ofCode?_code]
      exact callRoutine hexec hothers input output
    refine Nested.bind (.bind (of_calm (.request r m)) fun request =>
      (hcontrol _ _).bind fun result => ?_) fun answer => ?_
    · cases result with
      | error why => exact pure _
      | ok done =>
        simp only []
        split
        · exact pure _
        · exact (of_calm (.deliver m _ _)).bind fun _ => pure _
    · cases answer with
      | error why => exact (of_calm (.note m _)).bind fun _ => unwind _
      | ok response =>
        simp only []
        split
        · exact unwind _
        split
        · exact unwind _
        · exact pure _

/-- A remote routine that is called in user mode: there is a boundary around that of the driver. -/
theorem call_remote (reg : RegistryId) (f : FilamentId) (limit : Duration) (r : RemoteRoutine) :
    Nested (Boundary.call reg f limit (r.run exec)) := call reg f limit (remote hexec hothers r)

end

end Nested

end Testbench
