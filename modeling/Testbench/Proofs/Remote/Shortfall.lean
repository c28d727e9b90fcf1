import Testbench.Proofs.Remote.Unwound

/-!
# What a client says of missing events

If not everything that was said in a call found room in the buffer, the observer of the client hears
a word about it behind the events that did: only the first so many events were delivered.  The
number is that of the events delivered, but they need not be the first ones.  An event that is too
long is left out by itself, and a shorter one that comes later may find room again.  The word is
true just if none does.
-/

namespace Testbench

namespace Record

variable {capacity : Nat} {es before after : List Event} {e : Event}

/-! ### The first event that is left out -/

/-- Of events that share so many bytes, those of `before` have room, and `e`, which comes next, has
not. -/
structure Spills (capacity : Nat) (es before : List Event) (e : Event) (after : List Event) :
    Prop where
  split : es = before ++ e :: after
  fits : (before.flatMap encode).length ≤ capacity
  spills : capacity < (before.flatMap encode).length + (encode e).length

/-- What has room goes in, and the rest is left for what comes after. -/
lemma fitting_append (h : (before.flatMap encode).length ≤ capacity) (rest : List Event) :
    fitting capacity (before ++ rest)
      = before ++ fitting (capacity - (before.flatMap encode).length) rest := by
  induction before generalizing capacity with
  | nil => rfl
  | cons e before ih =>
    rw [List.flatMap_cons, List.length_append] at h ⊢
    rw [List.cons_append, fitting, if_neg (by omega), ih (by omega), Nat.sub_sub]
    rfl

lemma Spills.fitting_eq (h : Spills capacity es before e after) :
    fitting capacity es
      = before ++ fitting (capacity - (before.flatMap encode).length) after := by
  have hlost : capacity - (before.flatMap encode).length < (encode e).length := by
    have hspills := h.spills
    have hfits := h.fits
    omega
  rw [h.split, fitting_append h.fits, fitting, if_pos hlost]

/-- If something is left out, there is a first such event. -/
lemma exists_spills (h : (fitting capacity es).length < es.length) :
    ∃ before e after, Spills capacity es before e after := by
  induction es generalizing capacity with
  | nil => exact absurd h (Nat.lt_irrefl 0)
  | cons e es ih =>
    by_cases hfits : capacity < (encode e).length
    · refine ⟨[], e, es, rfl, Nat.zero_le _, ?_⟩
      rwa [List.flatMap_nil, List.length_nil, Nat.zero_add]
    · rw [fitting, if_neg hfits] at h
      obtain ⟨before, e', after, hsplit, hroom, hspills⟩ := ih (Nat.lt_of_succ_lt_succ h)
      refine ⟨e :: before, e', after, congrArg (e :: ·) hsplit, ?_, ?_⟩ <;>
        rw [List.flatMap_cons, List.length_append] <;> omega

/-- Whatever has room is not too long. -/
lemma length_encode_le_of_mem (h : e ∈ fitting capacity es) : (encode e).length ≤ capacity := by
  induction es generalizing capacity with
  | nil => cases h
  | cons e' es ih =>
    rw [fitting] at h
    split at h
    · exact ih h
    · rcases List.mem_cons.mp h with rfl | hmem
      · omega
      · have hle := ih hmem
        omega

lemma fitting_eq_nil_iff : fitting capacity es = [] ↔ ∀ e ∈ es, capacity < (encode e).length := by
  induction es with
  | nil => simp [fitting]
  | cons e es ih =>
    rw [fitting, List.forall_mem_cons]
    split
    · rename_i hlost
      exact ih.trans ⟨fun h => ⟨hlost, h⟩, And.right⟩
    · rename_i hfits
      exact ⟨fun h => absurd h (List.cons_ne_nil _ _), fun h => absurd h.1 hfits⟩

lemma fitting_sublist (capacity : Nat) (es : List Event) : (fitting capacity es).Sublist es := by
  induction es generalizing capacity with
  | nil => exact .slnil
  | cons e es ih =>
    rw [fitting]
    split
    · exact (ih capacity).cons e
    · exact (ih _).cons_cons e

/-- The events that have room are the first ones just if, after one that had none, all the others
are too long for what is left. -/
theorem Spills.fitting_eq_take_iff (h : Spills capacity es before e after) :
    fitting capacity es = es.take (fitting capacity es).length ↔
      ∀ e' ∈ after, capacity < (before.flatMap encode).length + (encode e').length := by
  obtain ⟨room, hroom⟩ : ∃ room, capacity - (before.flatMap encode).length = room := ⟨_, rfl⟩
  have hfits := h.fits
  have hlong (e' : Event) : capacity < (before.flatMap encode).length + (encode e').length ↔
      room < (encode e').length := by omega
  simp only [hlong, ← fitting_eq_nil_iff]
  have heq : fitting capacity es = before ++ fitting room after := hroom ▸ h.fitting_eq
  rw [heq, List.length_append, h.split, List.take_length_add_append]
  constructor
  · intro htake
    cases hrest : fitting room after with
    | nil => rfl
    | cons e' rest =>
      -- the next of the first events would be the one that has no room
      rw [hrest, List.length_cons, List.take_succ_cons] at htake
      obtain ⟨rfl, -⟩ := List.cons.inj (List.append_cancel_left htake)
      have hmem : e' ∈ fitting room after := hrest ▸ List.mem_cons_self
      exact absurd ((hlong e').mp h.spills) (Nat.not_lt.mpr (length_encode_le_of_mem hmem))
  · intro hrest
    rw [hrest]
    rfl

/-! ### The word about it -/

/-- The word about events that are missing. -/
def shortfall (n : Nat) : Event :=
  .note ("Event buffer full, only the first " ++ toString n ++ " events were delivered")

/-- What a client passes on of events that share so many bytes, and how far its word about those
that are missing is true. -/
structure Account (capacity : Nat) (es heard : List Event) : Prop where
  /-- Nothing is said if nothing is missing. -/
  all : (fitting capacity es).length = es.length → heard = es.map kept
  /-- Otherwise the last thing said is how many events there were before. -/
  some_missing : (fitting capacity es).length < es.length →
    ∃ n, heard = (fitting capacity es).map kept ++ [shortfall n] ∧
      (capacity < 0x2000000000 → n = (fitting capacity es).length)
  /-- The events come in the order in which they were reported. -/
  in_order : (fitting capacity es).Sublist es
  /-- Up to the first one that is missing all are there, and these are the first so many just if all
  later ones were too long for what was left. -/
  first_iff : (fitting capacity es).length < es.length →
    ∃ before e after, Spills capacity es before e after ∧ before <+: fitting capacity es ∧
      (fitting capacity es = es.take (fitting capacity es).length ↔
        ∀ e' ∈ after, capacity < (before.flatMap encode).length + (encode e').length)

/-- Such is what is delivered. -/
lemma account_delivered (capacity : Nat) (es : List Event) :
    Account capacity es (delivered capacity es) where
  all hall := by
    have hself : fitting capacity es = es := (fitting_sublist capacity es).eq_of_length hall
    rw [delivered, if_pos hall, List.append_nil, hself]
  some_missing hfew := by
    refine ⟨(UInt32.ofNat (fitting capacity es).length).toNat, ?_, fun hcapacity => ?_⟩
    · rw [delivered, if_neg (Nat.ne_of_lt hfew)]
      rfl
    · rw [UInt32.toNat_ofNat']
      exact Nat.mod_eq_of_lt (Driver.length_fitting_lt capacity es hcapacity)
  in_order := fitting_sublist capacity es
  first_iff hfew := by
    obtain ⟨before, e, after, h⟩ := exists_spills hfew
    exact ⟨before, e, after, h, ⟨_, h.fitting_eq.symm⟩, h.fitting_eq_take_iff⟩

end Record

namespace RemoteRoutine

open World Crew Driver
open Record (encode fitting shortfall)

variable {ρ ε : Type} {exec : Routines ρ ε} {c : ConnectionId} {k : Connection ρ} {routine : ρ}
  {w : World ρ ε} {es : List Event} {result : Except Payload Unit} {s₁ : State ρ ε} {m : Member}
  {y : Filament} {x x₁ : Observer}

/-- A remote routine whose driver's routine stays within its boundary comes out by the worst outcome
of its threads, and the observer of the client hears what is delivered of all that was said. -/
lemma run_hears (r : RemoteRoutine)
    (hm : membership r.client.registry false w = (.ok (.ok m), w))
    (hy : w.roster.filaments.get? m.filament = some y) (hx : w.observers.get? y.observer = some x)
    (h : InOrder w (r.requestFor y x) (answersOf x) c k routine) (hlimit : k.joinLimit.Timed)
    (hperforms : Performs exec w (r.requestFor y x) (answersOf x) r.client.eventBuffer c k routine
      es result s₁)
    (hstays : (Boundary.caughtFor (answersOf x) result).payload? = none)
    (hface : w.roster.KeepsFace m.filament s₁.world.roster)
    (hx₁ : s₁.world.observers.get? y.observer = some x₁) :
    ∃ o w', IsGreatest (insert (Boundary.caughtFor (answersOf x) result).toOutcome
        (outcomes .completed s₁.workers)) o ∧
      r.run exec w = (Script.resultOf (Script.endingFor o), w') ∧
      w'.observers.get? y.observer
        = some (x₁.hears m.identity (Record.delivered r.client.eventBuffer es)) := by
  let ch := (Channel.make (answersOf x) r.client.eventBuffer).hearing es
  obtain ⟨e, o, v, w₁, hcaught, hat, hworst, -, hobservers, hch, hroster⟩ :=
    attempt_callAt_performs h hlimit hperforms
  rw [hcaught] at hworst
  rw [Exit.answer, hcaught, hstays] at hat
  -- the request is answered out of the channel of the call
  have hcontrol := control_call_eq (CallRequest.ofBytes?_bytes (r.requestFor y x)) h.address
    h.dispositions (le_length_blankBuffer r.client.eventBuffer)
    (by rw [blankBuffer_room]; exact Flow.of_attempt_ok hat) hch
  -- which is none of the client's
  have hne : w.observers.items.size ≠ y.observer := (Pool.ne_add_of_some hx x).symm
  have hx₂ : (w₁.observing w.observers.items.size (.channel ch.take.2)).observers.get? y.observer
      = some x₁ := by
    refine (Pool.get?_modify_of_ne hne _).trans ?_
    rw [hobservers]
    exact hx₁
  obtain ⟨y₂, hy₂, hobserver, -⟩ := (hface.trans (.detach _ k.registry w.current)) y hy
  rw [← hroster] at hy₂
  rw [← hobserver] at hx₂
  have hrun := r.run_of_control hm hy hx hcontrol (List.take_left' rfl) hy₂ hx₂
  refine ⟨o, _, hworst, hrun, ?_⟩
  rw [hobserver] at hx₂ ⊢
  exact touched_observer hx₂ ..

/-- When a remote routine comes out, the observer of the client has heard as much of what was said
in the call as found room, and a word if something did not.  That word calls the events that were
delivered the first ones, which they are just if nothing found room after the first one that did
not.  If the wait for the threads of the driver's routine cannot be timed, the remote routine unwinds
and the observer hears nothing. -/
theorem run_tells_shortfall (r : RemoteRoutine)
    (hm : membership r.client.registry false w = (.ok (.ok m), w))
    (hy : w.roster.filaments.get? m.filament = some y) (hx : w.observers.get? y.observer = some x)
    (h : InOrder w (r.requestFor y x) (answersOf x) c k routine)
    (hperforms : Performs exec w (r.requestFor y x) (answersOf x) r.client.eventBuffer c k routine
      es result s₁)
    (hstays : (Boundary.caughtFor (answersOf x) result).payload? = none)
    (hface : w.roster.KeepsFace m.filament s₁.world.roster)
    (hx₁ : s₁.world.observers.get? y.observer = some x₁) :
    (k.joinLimit.Timed →
      ∃ o w' heard, r.run exec w = (Script.resultOf (Script.endingFor o), w') ∧
        w'.observers.get? y.observer = some (x₁.hears m.identity heard) ∧
        Record.Account r.client.eventBuffer es heard) ∧
    (¬ k.joinLimit.Timed → ∃ w', (r.run exec).attempt w = (.ok (.error untimed), w') ∧
      w'.observers.get? y.observer = some x₁) := by
  constructor
  · intro hlimit
    obtain ⟨o, w', -, hrun, hheard⟩ := r.run_hears hm hy hx h hlimit hperforms hstays hface hx₁
    exact ⟨o, w', _, hrun, hheard, Record.account_delivered ..⟩
  · intro hlimit
    rw [← blankBuffer_room r.client.eventBuffer] at hperforms
    obtain ⟨w', hcontrol, hobservers, -⟩ := attempt_control_untimed
      (CallRequest.ofBytes?_bytes (r.requestFor y x)) (le_length_blankBuffer _) h hlimit hperforms
    exact ⟨w', r.attempt_run hm hy hx hcontrol, hobservers ▸ hx₁⟩

/-! ### A long message between two short ones -/

/-- The client's side of a world is as it was before any call. -/
structure Apart (w : World Unit Unit) : Prop where
  recorder : w.observers.get? 0 = some fresh
  filament : w.roster.filaments.get? 0 = clientWorld.roster.filaments.get? 0
  level : w.running.level = .passive

/-- A routine of the driver logs something, and the client's side of the world stays. -/
lemma log_apart {s : State Unit Unit} (hs : Reporting 0 1 (.ofSeconds 60) 1 0 s)
    (hapart : Apart s.world) (message : String) :
    ∃ s₁, Does 0 1 (.ofSeconds 60) 1 0 (sink.log message) s [.note message] (.ok ()) s₁ ∧
      Reporting 0 1 (.ofSeconds 60) 1 0 s₁ ∧ s₁.workers = s.workers ∧ Apart s₁.world := by
  obtain ⟨s₁, hdoes, hs₁, hworkers⟩ := hs.log sink rfl message
  obtain ⟨i, hlog⟩ := hs.log_eq sink rfl message
  have hworld : s₁.world = (World.report 1 i (.note message) s.world).2 :=
    (congrArg Prod.snd (hdoes.attempt.symm.trans (Flow.attempt_ok hlog)) :)
  refine ⟨s₁, hdoes, hs₁, hworkers, ?_⟩
  rw [hworld]
  refine ⟨?_, hapart.filament, hapart.level⟩
  have hupdate := Pool.get?_update s.world.observers 1 Disposition.proceed
    (fun x => x.report i (.note message)) 0
  exact hupdate.trans hapart.recorder

/-- A message that has no room once the buffer has another one. -/
def longMessage : String := "a message that is too long for what is left of the buffer"

/-- A routine with something short to say before and after it. -/
def logsThrice : Act Unit Unit Unit := do
  sink.log "opened"
  sink.log longMessage
  sink.log "closed"

/-- What it says. -/
def threeNotes : List Event := [.note "opened", .note longMessage, .note "closed"]

/-- Such a thread leaves its boundary and restores its level, and the client's side stays. -/
lemma Apart.restoring {s : State Unit Unit} (h : Apart s.world) :
    Apart ((s.leaving 1 false (.ok ())).restoring 1 .passive).world := by
  have hleaving : (s.leaving 1 false (.ok ())).world = s.world.disarmed false := rfl
  have hlevel : (s.world.disarmed false).running.level = .passive :=
    (running_level_disarmed s.world false).trans h.level
  have hpassive : World.level (s.world.disarmed false)
      = (.ok .passive, s.world.disarmed false) :=
    congrArg (fun l => (Except.ok l, s.world.disarmed false)) hlevel
  have hsame : restoreLevel 1 .passive (s.world.disarmed false)
      = (.ok (), s.world.disarmed false) := Flow.bind_ok hpassive
  rw [State.restoring, hleaving, hsame]
  exact ⟨h.recorder, h.filament, hlevel⟩

/-- The routine runs and returns. -/
lemma performs_logsThrice : ∃ s₁,
    Performs (fun _ : Unit => logsThrice) clientWorld breakRequest (answersOf fresh) 100 0 depot ()
      threeNotes (.ok ()) s₁ ∧
    s₁.workers = breakStart.workers ∧ Apart s₁.world := by
  have hs₀ : Reporting 0 1 (.ofSeconds 60) 1 0 breakStart :=
    reporting_begun (w := admitted clientWorld (answersOf fresh) 100 0) Nat.zero_lt_one
      inOrder_break.free rfl (fun _ ha => nomatch ha)
  obtain ⟨s₁, hopened, hs₁, hworkers₁, hapart₁⟩ := log_apart hs₀ ⟨rfl, rfl, rfl⟩ "opened"
  obtain ⟨s₂, hlong, hs₂, hworkers₂, hapart₂⟩ := log_apart hs₁ hapart₁ longMessage
  obtain ⟨s₃, hclosed, -, hworkers₃, hapart₃⟩ := log_apart hs₂ hapart₂ "closed"
  have hdoes : Does 0 1 (.ofSeconds 60) 1 0 logsThrice breakStart threeNotes (.ok ()) s₃ :=
    hopened.bind (hlong.bind hclosed)
  have hworkers : s₃.workers = breakStart.workers :=
    hworkers₃.trans (hworkers₂.trans hworkers₁)
  have hcourse : Course (fun _ : Unit => logsThrice : Unit → Act Unit Unit Unit) 0 (.ofSeconds 60) 1
      breakRequest.value () (admitted clientWorld (answersOf fresh) 100 0) _ _ _ :=
    .alone rfl hdoes fun i p hp => by
      rw [hworkers] at hp
      cases hp
  rw [told, hapart₃.level] at hcourse
  exact ⟨_, hcourse, hworkers, hapart₃.restoring⟩

lemma Apart.keepsFace {w : World Unit Unit} (h : Apart w) :
    clientWorld.roster.KeepsFace 0 w.roster :=
  fun y hy => ⟨y, h.filament.trans hy, rfl, rfl⟩

/-- Only the short ones have room. -/
lemma fitting_threeNotes : fitting 100 threeNotes = [.note "opened", .note "closed"] := by
  decide +kernel

/-- Two events are delivered, and they are not the first two. -/
theorem run_tells_shortfall_thrice : ∃ o w' heard,
    remoteBreak.run (fun _ : Unit => logsThrice) clientWorld
      = (Script.resultOf (Script.endingFor o), w') ∧
    w'.observers.get? 0 = some (fresh.hears (.ownMain 0) heard) ∧
    heard.getLast? = some (shortfall 2) ∧ fitting 100 threeNotes ≠ threeNotes.take 2 := by
  obtain ⟨s₁, hperforms, -, hapart⟩ := performs_logsThrice
  obtain ⟨htimed, -⟩ := run_tells_shortfall (m := ⟨0, .ownMain 0, true⟩) (w := clientWorld)
    (x := fresh) remoteBreak rfl rfl rfl inOrder_break hperforms rfl hapart.keepsFace hapart.recorder
  obtain ⟨o, w', heard, hrun, hheard, haccount⟩ := htimed (by decide)
  have hcapacity : remoteBreak.client.eventBuffer = 100 := rfl
  rw [hcapacity] at haccount
  have hfew : (fitting 100 threeNotes).length < threeNotes.length := by
    rw [fitting_threeNotes]
    decide
  obtain ⟨n, hsaid, hcount⟩ := haccount.some_missing hfew
  obtain rfl : n = 2 := (hcount (by decide)).trans (by rw [fitting_threeNotes]; rfl)
  refine ⟨o, w', heard, hrun, hheard, ?_, ?_⟩
  · rw [hsaid, List.getLast?_concat]
  · rw [fitting_threeNotes]
    decide

/-- A routine says three things, and the client hears the first and the third, and that these were
the first two. -/
theorem run_logsThrice : ∃ s₁ w' r,
    Performs (fun _ : Unit => logsThrice) clientWorld breakRequest (answersOf fresh) 100 0 depot ()
      threeNotes (.ok ()) s₁ ∧
    remoteBreak.run (fun _ : Unit => logsThrice) clientWorld = (.ok (), w') ∧
    w'.observers.get? 0 = some (.recorder r) ∧
    r.events.toList = [.note "opened", .note "closed",
      .note "Event buffer full, only the first 2 events were delivered"] ∧
    threeNotes.take 2 ≠ [.note "opened", .note "closed"] := by
  obtain ⟨s₁, hperforms, hworkers, hapart⟩ := performs_logsThrice
  obtain ⟨o, w', hworst, hrun, hheard⟩ := run_hears (m := ⟨0, .ownMain 0, true⟩)
    (w := clientWorld) (x := fresh) remoteBreak rfl rfl rfl inOrder_break (by decide) hperforms rfl
    hapart.keepsFace hapart.recorder
  have hcapacity : remoteBreak.client.eventBuffer = 100 := rfl
  rw [hcapacity] at hheard
  have hdelivered : Record.delivered 100 threeNotes = [.note "opened", .note "closed",
      .note "Event buffer full, only the first 2 events were delivered"] := by
    decide +kernel
  obtain rfl : o = .completed := by
    rw [hworkers] at hworst
    rcases hworst.1 with h | h | ⟨p, hp, hnote⟩
    · exact h
    · exact h
    · cases List.mem_singleton.mp hp
      cases hnote
  rw [hdelivered] at hheard
  exact ⟨s₁, w', _, hperforms, hrun, hheard, rfl, by decide⟩

end RemoteRoutine

end Testbench
