import Testbench.Proofs.Crew
import Testbench.Proofs.Crew.Heard
import Testbench.Proofs.Remote.Call

/-!
# Routines that are called through the device

A routine that is called through the device begins on the calling thread, which has a seat in a
filament of its own.  When the routine is over its threads may go on: they have a turn before the
level of the calling thread is restored, and another one while the call waits for them.  Once they
are finished, the call knows the worst of their outcomes and the value that was left in the filament,
and its channel holds what was reported until then, the last words at the boundary and the word about
the level included.
-/

namespace Testbench

/-- The value of a filament. -/
def World.valueIn {ρ ε : Type} (w : World ρ ε) (f : FilamentId) : Option UInt64 :=
  (w.roster.filaments.get? f).map (·.value .ordinary)

namespace Crew

open World

variable {ρ ε α β : Type} {reg : RegistryId} {limit : Duration} {channel : ObserverId}
  {value : UInt64} {s s₁ : State ρ ε} {w : World ρ ε} {es : List Event} {ch : Channel}
  {result : Except Payload Unit}

/-- A routine begins that is called through the device: its thread has taken its seat. -/
def begun (w : World ρ ε) (reg : RegistryId) (channel : ObserverId) (value : UInt64) : State ρ ε where
  world := (w.seated reg (w.freshFilament channel {} value)).armed
  workers := [⟨w.current, .runs⟩]

lemma begun_filament (w : World ρ ε) (reg : RegistryId) (channel : ObserverId) (value : UInt64) :
    (begun w reg channel value).world.roster.filaments.get? w.nextFilament
      = some (w.freshFilament channel {} value) := seated_filament ..

/-- Such a filament asks for no stacks. -/
lemma begun_flags (w : World ρ ε) (channel : ObserverId) (value : UInt64) :
    (w.freshFilament channel {} value).flags.capturesStacks = false := by
  have hflags : ({} : FilamentFlags).capturesStacks = false := by decide
  exact hflags

lemma calling_world (w : World ρ ε) (channel : ObserverId) (value : UInt64) :
    (calling w channel value).world = w.making (w.freshFilament channel {} value) :=
  congrArg Prod.snd (setValue_making w channel {} value)

/-- A thread that can be bound comes to run its routine. -/
lemma calling_runs_begun (hfree : w.roster.Free reg w.current) :
    Runs reg w.nextFilament limit (calling w channel value) (begun w reg channel value) := by
  let s : State ρ ε := calling w channel value
  have houtside : Runs reg w.nextFilament limit s (s.move 0 w.current .outside s.world) := by
    rw [State.move_self rfl]
    exact .refl
  obtain ⟨attached, w₁, hattach, -, -, hruns⟩ := houtside.attach (Nat.zero_lt_one) rfl
  rw [show s.world = _ from calling_world w channel value, attach_eq hfree rfl] at hattach
  obtain ⟨hok, rfl⟩ := Prod.mk.inj hattach
  cases hok
  have hanswered := hruns.answers Nat.zero_lt_one
  exact hanswered.trans (Runs.quiet ⟨rfl, rfl, Array.size_modify⟩)

/-- All that holds of the threads of a call holds when its routine begins. -/
lemma sound_begun (hw : w.current < w.threads.items.size) (hfree : w.roster.Free reg w.current) :
    Sound reg w.nextFilament limit w.current .completed (begun w reg channel value) := by
  obtain ⟨main, hopening⟩ : ∃ main, Sound reg w.nextFilament limit main .completed
      (calling w channel value) := Sound.opening (opening_calling hw channel value)
  have hs := hopening.runs (calling_runs_begun hfree)
  obtain ⟨x, hx, hfilament⟩ := hs.filament
  obtain rfl := Option.some.inj (hx.symm.trans (begun_filament w reg channel value))
  obtain rfl := hfilament.mainThread
  exact hs

/-- A routine that begins reports to its channel. -/
lemma reporting_begun (hw : w.current < w.threads.items.size) (hfree : w.roster.Free reg w.current)
    (hch : w.observers.get? channel = some (.channel ch))
    (hadopts : (begun w reg channel value).world.roster.AdoptsNobody w.nextFilament) :
    Reporting reg w.nextFilament limit channel 0 (begun w reg channel value) where
  sound := ⟨_, _, sound_begun hw hfree⟩
  there := rfl
  face := ⟨_, begun_filament w reg channel value, rfl, begun_flags w channel value⟩
  channel := ⟨ch, hch⟩
  adopts := hadopts

/-! ### What the call says itself -/

/-- The word about a routine that returned at another level. -/
def levelNote (entry exit : Irql) : List Event :=
  if exit ≠ entry then
    [.note ("Routine returned at " ++ exit.text ++ ", restoring " ++ entry.text)]
  else []

lemma restoreLevel_channel (hch : w.observers.get? channel = some (.channel ch)) (entry : Irql) :
    ∃ w', Driver.restoreLevel channel entry w = (.ok (), w') ∧ Quiet w w' ∧
      w'.observers = (w.observing channel
        (.channel (ch.hearing (levelNote entry w.running.level)))).observers := by
  have hlevel : level w = (.ok w.running.level, w) := rfl
  rw [Driver.restoreLevel, Flow.bind_ok hlevel, levelNote]
  by_cases h : w.running.level ≠ entry
  · have hinform := tell_eq hch () fun o => ((), o.queue
      (.note ("Routine returned at " ++ w.running.level.text ++ ", restoring " ++ entry.text)))
    rw [if_pos h, if_pos h, inform, Flow.bind_ok hinform]
    exact ⟨_, rfl, ⟨rfl, rfl, Array.size_modify⟩, rfl⟩
  · rw [if_neg h, if_neg h]
    exact ⟨w, rfl, .refl w, congrArg World.observers (observing_self hch).symm⟩

/-- The state after the boundary of the running thread took in how its routine ended. -/
def State.leaving (f : FilamentId) (before : Bool) (result : Except Payload Unit) (s : State ρ ε) :
    State ρ ε :=
  { s with world := (Boundary.leave f (.ownMain s.world.current) before result s.world).2 }

/-- The state after the running thread was brought back to a level. -/
def State.restoring (channel : ObserverId) (entry : Irql) (s : State ρ ε) : State ρ ε :=
  { s with world := (Driver.restoreLevel channel entry s.world).2 }

/-- All that the channel of a call is told whose routine is over when its threads are: what they
report, what the boundary reports, and the word about the level. -/
def told (entry : Irql) (es : List Event) (result : Except Payload Unit) (w : World ρ ε) :
    List Event :=
  es ++ Boundary.lastWords w.running.panicStack result ++ levelNote entry w.running.level

/-- How the call of a driver's routine goes, until there is nobody left to wait for: what is reported
on the way, how the routine ends, and the state that is left.  The routine runs; others have a turn
when it is over, and another one when its thread is back at the level at which it began. -/
inductive Course (exec : Routines ρ ε) (reg : RegistryId) (limit : Duration) (channel : ObserverId)
    (value : UInt64) (routine : ρ) (w : World ρ ε) :
    List Event → Except Payload Unit → State ρ ε → Prop
  | mk {es₁ es₂ es₃ : List Event} {result ended₂ ended₃ : Except Payload Unit} {s₁ s₂ s₃ : State ρ ε}
      (runs : Does reg w.nextFilament limit channel 0 (exec routine) (begun w reg channel value) es₁
        result s₁)
      (turn : Does reg w.nextFilament limit channel 0 exec.others
        (s₁.leaving w.nextFilament w.running.keepsPanicStack result) es₂ ended₂ s₂)
      (wait : Does reg w.nextFilament limit channel 0 exec.others
        (s₂.restoring channel w.running.level) es₃ ended₃ s₃)
      (finished : ∀ i p, s₃.workers[i + 1]? = some p → p.phase.finished = true) :
      Course exec reg limit channel value routine w
        (es₁ ++ Boundary.lastWords s₁.world.running.panicStack result ++ es₂
          ++ levelNote w.running.level s₂.world.running.level ++ es₃) result s₃

lemma Course.finished {exec : Routines ρ ε} {routine : ρ}
    (h : Course exec reg limit channel value routine w es result s₁) :
    ∀ i p, s₁.workers[i + 1]? = some p → p.phase.finished = true := by
  obtain ⟨-, -, -, hfinished⟩ := h
  exact hfinished

/-! ### The call -/

/-- A change to the running thread that leaves its level alone. -/
lemma running_level_modify (w : World ρ ε) {g : Thread → Thread} (hg : ∀ t, (g t).level = t.level) :
    ({ w with threads := w.threads.modify w.current g } : World ρ ε).running.level
      = w.running.level := by
  rw [running, running]
  dsimp only
  cases ht : w.threads.get? w.current with
  | none =>
    rw [Pool.get?, Pool.modify, Array.getElem?_modify, if_pos rfl, ← Pool.get?, ht]
    rfl
  | some t =>
    rw [Pool.get?_modify_self _ ht]
    exact hg t

lemma running_level_disarmed (w : World ρ ε) (before : Bool) :
    (w.disarmed before).running.level = w.running.level := running_level_modify w fun _ => rfl

lemma running_level_panicked (w : World ρ ε) : w.panicked.running.level = w.running.level := by
  rw [panicked]
  split
  · exact running_level_modify w fun _ => rfl
  · rfl

/-- When the children of a routine are finished that is about to leave its boundary, the filament
counts nobody. -/
lemma Sound.join_eq {f : FilamentId} {main : ThreadId} {before : Outcome} {s : State ρ ε}
    {x : Filament} {φ : Phase} (hs : Sound reg f limit main before s)
    (hx : s.world.roster.filaments.get? f = some x) (hcaller : s.workers[0]? = some ⟨main, φ⟩)
    (hleft : ∀ i p, s.workers[i + 1]? = some p → p.phase.finished = true) :
    x.join limit = .ok () := by
  obtain ⟨x', hx', hfilament⟩ := hs.filament
  obtain rfl := Option.some.inj (hx.symm.trans hx')
  refine if_pos (hfilament.running.trans (List.countP_eq_zero.mpr fun p hp => ?_))
  obtain ⟨j, hj⟩ := List.getElem?_of_mem hp
  cases j with
  | zero =>
    obtain rfl := Option.some.inj (hcaller.symm.trans hj)
    simp [Worker.counted]
  | succ j =>
    rw [Worker.counted, Phase.counts_of_finished (hleft j p hj)]
    exact Bool.false_ne_true

/-- The boundary takes in how the routine ended, and its last words are heard. -/
lemma leave_heard {f : FilamentId} {x : Filament} (hx : s.world.roster.filaments.get? f = some x)
    (hobserver : x.observer = channel) (hflags : x.flags.capturesStacks = false)
    (hch : s.world.observers.get? channel = some (.channel ch)) (before : Bool)
    (result : Except Payload Unit) :
    Boundary.leave f (.ownMain s.world.current) before result s.world
      = (.ok (Boundary.caughtFor ch.dispositions result), (s.leaving f before result).world) ∧
    Heard reg f limit channel s (Boundary.lastWords s.world.running.panicStack result)
      (s.leaving f before result) ∧
    (s.leaving f before result).world.current = s.world.current ∧
    (s.leaving f before result).world.running.level = s.world.running.level := by
  have hleave := leave_channel hx hobserver hflags hch (.ownMain s.world.current) before result
  have hnothing : Heard reg f limit channel s [] s := .refl s
  have hwords := hnothing.leave hch before s.world.running.panicStack result
  have hworld := congrArg Prod.snd hleave
  refine ⟨hleave.trans (congrArg _ hworld.symm), ?_⟩
  rw [State.leaving, hworld]
  exact ⟨hwords, rfl, running_level_disarmed s.world before⟩

/-- The level is restored, and the channel is told of it if it was another one. -/
lemma restoring_heard {f : FilamentId} (hch : s.world.observers.get? channel = some (.channel ch))
    (entry : Irql) :
    Driver.restoreLevel channel entry s.world = (.ok (), (s.restoring channel entry).world) ∧
    Heard reg f limit channel s (levelNote entry s.world.running.level)
      (s.restoring channel entry) ∧
    (s.restoring channel entry).world.current = s.world.current := by
  have hlevel : level s.world = (.ok s.world.running.level, s.world) := rfl
  have hnothing : Heard reg f limit channel s [] s := .refl s
  by_cases h : s.world.running.level ≠ entry
  · let note : Event := .note ("Routine returned at " ++ s.world.running.level.text
      ++ ", restoring " ++ entry.text)
    have htell := tell_eq hch () fun o => ((), o.queue note)
    have htold := hnothing.tells (.ownMain 0) note
    rw [World.report, tell_eq hch] at htold
    let w₁ : World ρ ε := s.world.observing channel ((Observer.channel ch).queue note)
    obtain ⟨w', hset, hroster, hthreads, hobservers, hcurrent⟩ : ∃ w',
        setLevel entry w₁ = (.ok (), w') ∧ w'.roster = s.world.roster ∧
        w'.threads.items.size = s.world.threads.items.size ∧ w'.observers = w₁.observers ∧
        w'.current = s.world.current := ⟨_, rfl, rfl, Array.size_modify, rfl, rfl⟩
    have hrestore : Driver.restoreLevel channel entry s.world = (.ok (), w') := by
      rw [Driver.restoreLevel, Flow.bind_ok hlevel, if_pos h, inform]
      exact (Flow.bind_ok htell).trans hset
    have hworld := congrArg Prod.snd hrestore
    refine ⟨hrestore.trans (congrArg _ hworld.symm), ?_⟩
    rw [State.restoring, hworld, levelNote, if_pos h]
    exact ⟨htold.spares (.of_roster hroster hthreads) (.of_eq hobservers hroster), hcurrent⟩
  · have hrestore : Driver.restoreLevel channel entry s.world = (.ok (), s.world) := by
      rw [Driver.restoreLevel, Flow.bind_ok hlevel, if_neg h]
      rfl
    have hworld := congrArg Prod.snd hrestore
    refine ⟨hrestore.trans (congrArg _ hworld.symm), ?_⟩
    rw [State.restoring, hworld, levelNote, if_neg h]
    exact ⟨hnothing, rfl⟩

/-- A turn of others comes out, however it ends. -/
lemma turn_eq {exec : Routines ρ ε} {ended : Except Payload Unit} {w' : World ρ ε}
    (h : exec.others.attempt w = (.ok ended, w')) : exec.turn w = (.ok (), w') := Flow.bind_ok h

/-- A call by its steps, up to the wait for its threads. -/
lemma callProtected_eq_closing {exec : Routines ρ ε} {routine : ρ} {e : Exit}
    {w₁ w₂ w₃ w₄ : World ρ ε} (hfree : w.roster.Free reg w.current)
    (hguard : Boundary.guard w.nextFilament (.ownMain w.current) (exec routine)
      (w.seated reg (w.freshFilament channel {} value)) = (.ok e.caught, w₁))
    (hturn : exec.turn w₁ = (.ok (), w₂))
    (hrestore : Driver.restoreLevel channel w.running.level w₂ = (.ok (), w₃))
    (hwait : exec.turn w₃ = (.ok (), w₄)) :
    Driver.callProtected exec reg limit routine channel value w
      = closing reg w.nextFilament (.ownMain w.current) limit e w₄ := by
  let w₀ : World ρ ε := w.seated reg (w.freshFilament channel {} value)
  have hidentity : identityIn w.nextFilament w₀ = (.ok (.ownMain w.current), w₀) :=
    identityIn_eq (seated_filament ..)
  have hlevel : level w₀ = (.ok w.running.level, w₀) := rfl
  rw [Driver.callProtected, Flow.bind_ok (newFilament_eq ..), Flow.bind_ok (setValue_making ..),
    Flow.bind_ok (attach_eq hfree rfl)]
  refine (Flow.bind_ok hidentity).trans ((Flow.bind_ok hlevel).trans ?_)
  refine (Flow.bind_ok hguard).trans ((Flow.bind_ok hturn).trans ?_)
  exact (Flow.bind_ok hrestore).trans (Flow.bind_ok hwait)

section

variable {t : Thread} (ht : w.threads.get? w.current = some t)
  (hch : w.observers.get? channel = some (.channel ch))

include hch

/-- The routine is over, and its last words are heard. -/
lemma leave_begun {routine : Act ρ ε Unit}
    (hbody : Does reg w.nextFilament limit channel 0 routine (begun w reg channel value) es result
      s₁) (before : Bool) :
    Boundary.leave w.nextFilament (.ownMain s₁.world.current) before result s₁.world
      = (.ok (Boundary.caughtFor ch.dispositions result),
        (s₁.leaving w.nextFilament before result).world) ∧
    Heard reg w.nextFilament limit channel (begun w reg channel value)
      (es ++ Boundary.lastWords s₁.world.running.panicStack result)
      (s₁.leaving w.nextFilament before result) ∧
    (s₁.leaving w.nextFilament before result).world.current = s₁.world.current ∧
    (s₁.leaving w.nextFilament before result).world.running.level = s₁.world.running.level := by
  obtain ⟨x, hx, hobserver, hflags⟩ := hbody.heard.face _ (begun_filament w reg channel value)
  obtain ⟨hleave, hheard, hsame⟩ := leave_heard hx hobserver
    (hflags ▸ begun_flags w channel value) (hbody.heard.channel_eq hch) before result
  exact ⟨hleave, hbody.heard.trans hheard, hsame⟩

/-- Where others have nothing to do, the call goes on at once. -/
lemma Course.alone {exec : ρ → Act ρ ε Unit} {routine : ρ}
    (hbody : Does reg w.nextFilament limit channel 0 (exec routine) (begun w reg channel value) es
      result s₁) (hfinished : ∀ i p, s₁.workers[i + 1]? = some p → p.phase.finished = true) :
    Course exec reg limit channel value routine w (told w.running.level es result s₁.world) result
      ((s₁.leaving w.nextFilament w.running.keepsPanicStack result).restoring channel
        w.running.level) := by
  let left := s₁.leaving w.nextFilament w.running.keepsPanicStack result
  let restored := left.restoring channel w.running.level
  obtain ⟨-, hleft, hcurrent₁, hlevel⟩ := leave_begun hch hbody w.running.keepsPanicStack
  have hrestoring : _ ∧ Heard reg w.nextFilament limit channel left _ restored ∧ _ :=
    restoring_heard (hleft.channel_eq hch) w.running.level
  obtain ⟨-, -, hcurrent₂⟩ := hrestoring
  have hthere : s₁.workers[0]? = some ⟨s₁.world.current, .runs⟩ := hbody.current ▸ hbody.there
  have hturn : Does reg w.nextFilament limit channel 0 (pure ()) left [] (.ok ()) left :=
    .pure (by rw [hcurrent₁]; exact hthere) ()
  have hwait : Does reg w.nextFilament limit channel 0 (pure ()) restored [] (.ok ()) restored :=
    .pure (by rw [hcurrent₂, hcurrent₁]; exact hthere) ()
  have hcourse : Course exec reg limit channel value routine w _ _ _ :=
    .mk hbody hturn hwait hfinished
  rwa [List.append_nil, List.append_nil, hlevel] at hcourse

include ht

/-- The routine comes out of its boundary. -/
lemma guard_begun {routine : Act ρ ε Unit}
    (hbody : Does reg w.nextFilament limit channel 0 routine (begun w reg channel value) es result
      s₁) :
    Boundary.guard w.nextFilament (.ownMain w.current) routine
        (w.seated reg (w.freshFilament channel {} value))
      = (.ok (Boundary.caughtFor ch.dispositions result),
        (s₁.leaving w.nextFilament w.running.keepsPanicStack result).world) := by
  have henter := enter_eq (w := w.seated reg (w.freshFilament channel {} value)) ht
    (begun_filament w reg channel value) (begun_flags w channel value)
  have hkeeps : w.running.keepsPanicStack = t.keepsPanicStack := by
    rw [running, ht]
    rfl
  obtain ⟨hleave, -⟩ := leave_begun hch hbody t.keepsPanicStack
  have hcurrent : s₁.world.current = w.current := hbody.current
  rw [hcurrent] at hleave
  rw [Boundary.guard, Flow.bind_ok henter, hkeeps]
  exact (Flow.bind_ok hbody.attempt).trans hleave

/-- A call goes its way, of which the channel hears, and then the calling thread waits for nobody. -/
theorem Course.reaches {exec : Routines ρ ε} {routine : ρ} (hfree : w.roster.Free reg w.current)
    (h : Course exec reg limit channel value routine w es result s₁) :
    ∃ e : Exit, e.result = result ∧ e.caught = Boundary.caughtFor ch.dispositions result ∧
      Heard reg w.nextFilament limit channel (begun w reg channel value) es s₁ ∧
      s₁.world.current = w.current ∧ s₁.workers[0]? = some ⟨w.current, .runs⟩ ∧
      Driver.callProtected exec reg limit routine channel value w
        = closing reg w.nextFilament (.ownMain w.current) limit e s₁.world := by
  obtain ⟨runs, turn, wait, -⟩ := h
  rename_i es₁ es₂ es₃ ended₂ ended₃ s₂ s₃
  obtain ⟨e, rfl, hcaught⟩ := exists_exit ch.dispositions result
  have hguard := guard_begun ht hch runs
  rw [← hcaught] at hguard
  obtain ⟨-, hleft, hcurrent₁, -⟩ := leave_begun hch runs w.running.keepsPanicStack
  have hturn := hleft.trans turn.heard
  obtain ⟨hrestore, hrestored, hcurrent₂⟩ :=
    restoring_heard (hturn.channel_eq hch) w.running.level
  have hcurrent : s₁.world.current = w.current := wait.current.trans
    (hcurrent₂.trans (turn.current.trans (hcurrent₁.trans runs.current)))
  refine ⟨e, rfl, hcaught, (hturn.trans hrestored).trans wait.heard, hcurrent, ?_, ?_⟩
  · rw [wait.there, ← wait.current, hcurrent]
  · exact callProtected_eq_closing hfree hguard (turn_eq turn.attempt) hrestore
      (turn_eq wait.attempt)

/-- A routine that is called through the device comes out, whether it returns or unwinds, with the
worst outcome of its threads and the value that it left; and all that was said is in the channel of
the call.  The calling thread leaves its seat, and nothing else happens to the roster. -/
theorem attempt_callProtected {exec : Routines ρ ε} {routine : ρ} (hlimit : limit.Timed)
    (hfree : w.roster.Free reg w.current)
    (h : Course exec reg limit channel value routine w es result s₁) :
    ∃ (e : Exit) (o : Outcome) (v : UInt64) (w' : World ρ ε),
      e.caught = Boundary.caughtFor ch.dispositions result ∧
      (Driver.callProtected exec reg limit routine channel value).attempt w
        = (.ok (e.answer (.ok (Driver.resultFor o v))), w') ∧
      IsGreatest (insert e.caught.toOutcome (outcomes .completed s₁.workers)) o ∧
      s₁.world.valueIn w.nextFilament = some v ∧
      w'.observers = s₁.world.observers ∧
      w'.observers.get? channel = some (.channel (ch.hearing es)) ∧
      w'.roster = s₁.world.roster.detach reg w.current := by
  have hknown : w.current < w.threads.items.size := (Array.getElem?_eq_some_iff.mp ht).1
  obtain ⟨e, -, hcaught, hheard, hcurrent, hcaller, heq⟩ := h.reaches ht hch hfree
  have hs₁ := (sound_begun hknown hfree).runs hheard.runs
  obtain ⟨x, hx, hfilament⟩ := hs₁.filament
  have hjoin := hs₁.join_eq hx hcaller h.finished
  have hsettle := settle_of_join hlimit hx hjoin (.ownMain w.current) e.caught.toOutcome
  have hvalue := seeFilament_eq hx 0 (·.value .ordinary)
  have hdetach := withRegistry_eq s₁.world reg (fun r => ((), r.detach reg s₁.world.current))
  let o := e.caught.toOutcome.worst x.childOutcome
  refine ⟨e, o, x.value .ordinary,
    { s₁.world with roster := s₁.world.roster.detach reg s₁.world.current }, hcaught,
    ?_, ?_, ?_, rfl, hheard.channel_eq hch, by rw [hcurrent]⟩
  · rw [Flow.attempt, heq, ← Flow.attempt]
    exact attempt_closing hsettle hvalue hdetach
  · rw [show o = _ from worst_eq_max _ _]
    exact hfilament.worst.insert _
  · rw [valueIn, hx]
    rfl

/-- With a limit that no clock can time, it unwinds from its wait instead. -/
theorem attempt_callProtected_untimed {exec : Routines ρ ε} {routine : ρ} (hlimit : ¬ limit.Timed)
    (hfree : w.roster.Free reg w.current)
    (h : Course exec reg limit channel value routine w es result s₁) :
    (Driver.callProtected exec reg limit routine channel value).attempt w
      = (.ok (.error untimed), s₁.world.panicked) := by
  obtain ⟨e, -, -, -, -, -, heq⟩ := h.reaches ht hch hfree
  rw [Flow.attempt, heq, ← Flow.attempt]
  exact attempt_closing_untimed hlimit ..

end

end Crew

end Testbench
