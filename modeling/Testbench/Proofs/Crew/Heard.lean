import Testbench.Proofs.Crew.Program
import Testbench.Proofs.Remote.Boundary
import Testbench.Proofs.Remote.Wire

/-!
# What the channel of a call hears

The filament of a driver's call reports to a channel.  A run of its threads is heard as the list of
events that they report on the way, in order; whatever else they do, and everybody else, leaves the
channel as it is.  So the channel holds in the end what it held, and these events as far as they fit.

A part of a routine is followed from one state to the next together with what is heard of it.
Reports, values, levels and child threads are such parts, and so is what comes of them one after the
other.
-/

namespace Testbench

/-- The channel after it took some events. -/
def Channel.hearing (ch : Channel) (es : List Event) : Channel :=
  { ch with buffer := es.foldl (fun b e => (b.queue e).2) ch.buffer }

lemma Channel.hearing_append (ch : Channel) (es fs : List Event) :
    ch.hearing (es ++ fs) = (ch.hearing es).hearing fs := by
  rw [hearing, List.foldl_append]
  rfl

/-! ### Filaments that stay what they are -/

namespace Roster

variable {r r' r'' : Roster} {f : FilamentId}

/-- A filament reports to whom it reported, and asks for stacks as before. -/
def KeepsFace (f : FilamentId) (r r' : Roster) : Prop :=
  ∀ x, r.filaments.get? f = some x →
    ∃ x', r'.filaments.get? f = some x' ∧ x'.observer = x.observer ∧ x'.flags = x.flags

namespace KeepsFace

lemma of_filaments (h : r'.filaments = r.filaments) : KeepsFace f r r' :=
  fun x hx => ⟨x, h ▸ hx, rfl, rfl⟩

lemma refl (r : Roster) : KeepsFace f r r := of_filaments rfl

lemma trans (h : KeepsFace f r r') (h' : KeepsFace f r' r'') : KeepsFace f r r'' := by
  intro x hx
  obtain ⟨x', hx', hobserver, hflags⟩ := h x hx
  obtain ⟨x'', hx'', hobserver', hflags'⟩ := h' x' hx'
  exact ⟨x'', hx'', hobserver'.trans hobserver, hflags'.trans hflags⟩

lemma modify {g : Filament → Filament} (hg : ∀ x, (g x).observer = x.observer ∧ (g x).flags = x.flags)
    (r : Roster) (j : FilamentId) :
    KeepsFace f r { r with filaments := r.filaments.modify j g } := by
  intro x hx
  by_cases hj : j = f
  · subst hj
    exact ⟨g x, Pool.get?_modify_self g hx, hg x⟩
  · exact ⟨x, (Pool.get?_modify_of_ne hj g).trans hx, rfl, rfl⟩

/-- How many children it counts is nothing to it. -/
lemma of_recounts (h : Recounts r r') : KeepsFace f r r' := by
  intro x hx
  obtain ⟨n, hn⟩ := h.exists_get? hx
  exact ⟨_, hn, rfl, rfl⟩

lemma attach (r : Roster) (reg : RegistryId) (b : Binding) : KeepsFace f r (r.attach reg b).2 :=
  of_recounts (.attach r reg b)

lemma detach (r : Roster) (reg : RegistryId) (t : ThreadId) : KeepsFace f r (r.detach reg t) :=
  of_recounts (.detach r reg t)

lemma threadEnded (r : Roster) (t : ThreadId) : KeepsFace f r (r.threadEnded t) :=
  of_recounts (.threadEnded r t)

lemma current (r : Roster) (reg : RegistryId) (t : ThreadId) (derive : Bool) :
    KeepsFace f r (r.current reg t derive).2 := of_recounts (.current r reg t derive)

end KeepsFace

end Roster

namespace Crew

open World

variable {ρ ε α β : Type} {reg : RegistryId} {f : FilamentId} {limit : Duration}
  {channel : ObserverId} {main t u : ThreadId} {before : Outcome} {s s₁ s₂ : State ρ ε} {i : Nat}
  {w w' w'' : World ρ ε} {es fs : List Event} {ch : Channel} {x : Filament}

/-! ### What is not heard -/

/-- Whatever happened, the channel is as it was, and the filament stays what it is. -/
structure Unheard (f : FilamentId) (channel : ObserverId) (w w' : World ρ ε) : Prop where
  channel : ∀ ch, w.observers.get? channel = some (.channel ch) →
    w'.observers.get? channel = some (.channel ch)
  face : w.roster.KeepsFace f w'.roster

namespace Unheard

lemma of_roster (hobservers : w'.observers = w.observers) (h : w.roster.KeepsFace f w'.roster) :
    Unheard f channel w w' :=
  ⟨fun _ hch => hobservers ▸ hch, h⟩

lemma of_eq (hobservers : w'.observers = w.observers) (hroster : w'.roster = w.roster) :
    Unheard f channel w w' :=
  of_roster hobservers (.of_filaments (congrArg Roster.filaments hroster))

lemma refl (w : World ρ ε) : Unheard f channel w w := of_eq rfl rfl

lemma trans (h : Unheard f channel w w') (h' : Unheard f channel w' w'') :
    Unheard f channel w w'' :=
  ⟨fun ch hch => h'.channel ch (h.channel ch hch), h.face.trans h'.face⟩

/-- An observer is told something that leaves channels as they are. -/
lemma tell (o : ObserverId) (fallback : α) {g : Observer → α × Observer}
    (hg : ∀ ch, (g (.channel ch)).2 = .channel ch) (w : World ρ ε) :
    Unheard f channel w (World.tell o fallback g w).2 := by
  refine ⟨fun ch hch => ?_, .refl _⟩
  rw [World.tell, Flow.step_apply]
  simp only [Pool.get?_update, hch, Option.map_some, hg, ite_self]

end Unheard

/-! ### What is heard -/

/-- A run of the threads of a call, with the events that the channel is told on the way. -/
inductive Heard (reg : RegistryId) (f : FilamentId) (limit : Duration) (channel : ObserverId) :
    State ρ ε → List Event → State ρ ε → Prop
  | refl (s : State ρ ε) : Heard reg f limit channel s [] s
  | silent {s s₁ s₂ : State ρ ε} {es : List Event} (h : Heard reg f limit channel s es s₁)
      (hruns : Runs reg f limit s₁ s₂) (hunheard : Unheard f channel s₁.world s₂.world) :
      Heard reg f limit channel s es s₂
  | tells {s s₁ : State ρ ε} {es : List Event} (h : Heard reg f limit channel s es s₁)
      (i : Identity) (e : Event) : Heard reg f limit channel s (es ++ [e])
        { s₁ with world := (World.report channel i e s₁.world).2 }

namespace Heard

lemma runs (h : Heard reg f limit channel s es s₁) : Runs reg f limit s s₁ := by
  induction h with
  | refl => exact .refl
  | silent _ hruns _ ih => exact ih.trans hruns
  | tells _ i e ih => exact ih.trans (Runs.quiet ⟨rfl, rfl, rfl⟩)

/-- The channel takes what is heard, in order. -/
theorem channel_eq (h : Heard reg f limit channel s es s₁)
    (hch : s.world.observers.get? channel = some (.channel ch)) :
    s₁.world.observers.get? channel = some (.channel (ch.hearing es)) := by
  induction h with
  | refl => exact hch
  | silent _ _ hunheard ih => exact hunheard.channel _ ih
  | tells _ i e ih =>
    rw [World.report, tell_eq ih, Channel.hearing_append]
    exact observing_observer ih _

lemma face (h : Heard reg f limit channel s es s₁) :
    s.world.roster.KeepsFace f s₁.world.roster := by
  induction h with
  | refl => exact .refl _
  | silent _ _ hunheard ih => exact ih.trans hunheard.face
  | tells _ _ _ ih => exact ih

lemma trans (h : Heard reg f limit channel s es s₁) (h' : Heard reg f limit channel s₁ fs s₂) :
    Heard reg f limit channel s (es ++ fs) s₂ := by
  induction h' with
  | refl => rwa [List.append_nil]
  | silent _ hruns hunheard ih => exact ih.silent hruns hunheard
  | tells _ i e ih =>
    rw [← List.append_assoc]
    exact ih.tells i e

/-- Something happens besides that is not heard. -/
lemma spares (h : Heard reg f limit channel s es s₁) (hspares : Spares reg f s₁.world w)
    (hunheard : Unheard f channel s₁.world w) :
    Heard reg f limit channel s es { s₁ with world := w } :=
  h.silent (.single (.elsewhere hspares)) hunheard

end Heard

/-! ### Parts of a routine -/

/-- A worker runs a part of a routine: it returns or unwinds, and some events are heard. -/
structure Does (reg : RegistryId) (f : FilamentId) (limit : Duration) (channel : ObserverId) (i : Nat)
    (m : Act ρ ε α) (s : State ρ ε) (es : List Event) (result : Except Payload α) (s₁ : State ρ ε) :
    Prop where
  attempt : m.attempt s.world = (.ok result, s₁.world)
  heard : Heard reg f limit channel s es s₁
  current : s₁.world.current = s.world.current
  there : s₁.workers[i]? = some ⟨s.world.current, .runs⟩

namespace Does

variable {m : Act ρ ε α} {k : α → Act ρ ε β} {a : α} {payload : Payload}
  {result : Except Payload β}

lemma bind (h : Does reg f limit channel i m s es (.ok a) s₁)
    (h' : Does reg f limit channel i (k a) s₁ fs result s₂) :
    Does reg f limit channel i (m >>= k) s (es ++ fs) result s₂ where
  attempt := (Flow.attempt_bind_ok h.attempt).trans h'.attempt
  heard := h.heard.trans h'.heard
  current := h'.current.trans h.current
  there := by rw [h'.there, h.current]

/-- A part that is not heard and leaves the counts, the noted outcomes and the seats alone. -/
lemma of_spares {r : Except Payload α} (hi : s.workers[i]? = some ⟨s.world.current, .runs⟩)
    (h : m.attempt s.world = (.ok r, w)) (hspares : Spares reg f s.world w)
    (hunheard : Unheard f channel s.world w) (hcurrent : w.current = s.world.current) :
    Does reg f limit channel i m s [] r { s with world := w } where
  attempt := h
  heard := (Heard.refl s).spares hspares hunheard
  current := hcurrent
  there := hi

lemma pure (hi : s.workers[i]? = some ⟨s.world.current, .runs⟩) (a : α) :
    Does reg f limit channel i (Pure.pure a : Act ρ ε α) s [] (.ok a) s :=
  of_spares hi rfl (.of_quiet (.refl _)) (.refl _) rfl

end Does

/-- What the boundary of a thread makes of the end of its function, and reports about it. -/
lemma leave_channel (hx : w.roster.filaments.get? f = some x) (hobserver : x.observer = channel)
    (hflags : x.flags.capturesStacks = false)
    (hch : w.observers.get? channel = some (.channel ch)) (identity : Identity) (before : Bool)
    (result : Except Payload Unit) :
    Boundary.leave f identity before result w =
      (.ok (Boundary.caughtFor ch.dispositions result),
        (w.disarmed before).observing channel (.channel (ch.hearing (Boundary.lastWords
          w.running.panicStack result)))) := by
  subst hobserver
  have hstack : seeThread Thread.panicStack w
      = (.ok w.running.panicStack, w) := rfl
  have hcells : changeThread (fun t => { t with panicStack := none, keepsPanicStack := before }) w
      = (.ok (), w.disarmed before) := rfl
  have hsame : (w.disarmed before).observing x.observer (.channel ch) = w.disarmed before :=
    observing_self (w := w.disarmed before) hch
  rw [Boundary.leave, Flow.bind_ok hstack, Flow.bind_ok hcells]
  cases result with
  | ok => exact congrArg (Prod.mk _) hsame.symm
  | error payload =>
    cases payload with
    | signal s => exact congrArg (Prod.mk _) hsame.symm
    | panic text =>
      have hpanic := reportPanic_eq (w := w.disarmed before) hx hflags hch rfl identity text
        w.running.panicStack
      exact Flow.bind_ok hpanic

/-- What a boundary catches is one of the ways to come out. -/
lemma exists_exit (d : Dispositions) (result : Except Payload Unit) :
    ∃ e : Exit, e.result = result ∧ e.caught = Boundary.caughtFor d result := by
  match result with
  | .ok () => exact ⟨⟨_, _, .returned⟩, rfl, rfl⟩
  | .error (.signal s) => exact ⟨⟨_, _, .signalled s⟩, rfl, rfl⟩
  | .error (.panic text) => exact ⟨⟨_, _, .panicked text d.uncaughtException⟩, rfl, rfl⟩

/-! ### Reports, values and levels -/

/-- A worker runs a routine in a filament that reports to a channel and asks for no stacks. -/
structure Reporting (reg : RegistryId) (f : FilamentId) (limit : Duration) (channel : ObserverId)
    (i : Nat) (s : State ρ ε) : Prop where
  sound : ∃ main before, Sound reg f limit main before s
  there : s.workers[i]? = some ⟨s.world.current, .runs⟩
  face : ∃ x, s.world.roster.filaments.get? f = some x ∧ x.observer = channel ∧
    x.flags.capturesStacks = false
  channel : ∃ ch, s.world.observers.get? channel = some (.channel ch)
  adopts : s.world.roster.AdoptsNobody f

/-- It still does after some run of which the channel heard. -/
lemma Reporting.heard (hs : Reporting reg f limit channel i s)
    (h : Heard reg f limit channel s es s₁)
    {j : Nat} (hj : s₁.workers[j]? = some ⟨s₁.world.current, .runs⟩)
    (hadopts : s₁.world.roster.AdoptsNobody f) : Reporting reg f limit channel j s₁ where
  sound := by
    obtain ⟨main, before, hsound⟩ := hs.sound
    exact ⟨main, before, hsound.runs h.runs⟩
  there := hj
  face := by
    obtain ⟨x, hx, hobserver, hflags⟩ := hs.face
    obtain ⟨x', hx', hobserver', hflags'⟩ := h.face x hx
    exact ⟨x', hx', hobserver'.trans hobserver, hflags' ▸ hflags⟩
  channel := by
    obtain ⟨ch, hch⟩ := hs.channel
    exact ⟨_, h.channel_eq hch⟩
  adopts := hadopts

/-- It still does after a part of its routine. -/
lemma Does.reporting {m : Act ρ ε α} {r : Except Payload α}
    (h : Does reg f limit channel i m s es r s₁) (hs : Reporting reg f limit channel i s)
    (hadopts : s₁.world.roster.AdoptsNobody f) : Reporting reg f limit channel i s₁ :=
  hs.heard h.heard (h.current ▸ h.there) hadopts

namespace Reporting

lemma membership_eq (hs : Reporting reg f limit channel i s) (derive : Bool) :
    ∃ m, membership reg derive s.world = (.ok (.ok m), s.world) ∧ m.filament = f := by
  obtain ⟨main, before, hsound⟩ := hs.sound
  have hseat := (hsound.fits _ (List.mem_of_getElem? hs.there)).seat rfl
  obtain ⟨m, hm, hfilament⟩ := Roster.current_of_seated hseat derive
  have hmember := withRegistry_eq s.world reg (·.current reg s.world.current derive)
  rw [hm] at hmember
  exact ⟨m, hmember, hfilament⟩

/-- A message through the sink of the driver is told to the channel, and nothing else happens. -/
lemma log_eq (hs : Reporting reg f limit channel i s) (sink : Sink) (hsink : sink.registry = reg)
    (message : String) : ∃ identity, sink.log message s.world
      = (.ok (), (World.report channel identity (.note message) s.world).2) := by
  subst hsink
  obtain ⟨m, hmember, hm⟩ := hs.membership_eq true
  obtain ⟨x, hx, hobserver, hflags⟩ := hs.face
  subst hm hobserver
  let w : World ρ ε := (World.report x.observer m.identity (.note message) s.world).2
  obtain ⟨d, hreport⟩ : ∃ d, World.report x.observer m.identity (.note message) s.world
      = (.ok d, w) := ⟨_, rfl⟩
  have hsend : Report.send m (.log message) s.world = (.ok d, w) := by
    rw [Report.send, Flow.bind_ok (stackFor_eq hx hflags), Flow.bind_ok (observerOf_eq hx)]
    exact hreport
  have hverdict : Report.log sink.registry message s.world = (.ok .proceed, w) := by
    rw [Report.log, Report.asMember, Flow.bind_ok hmember]
    exact Flow.bind_ok hsend
  refine ⟨m.identity, ?_⟩
  rw [Sink.log, Flow.bind_ok hverdict]
  rfl

/-- A message through the sink of the driver is heard. -/
lemma log (hs : Reporting reg f limit channel i s) (sink : Sink) (hsink : sink.registry = reg)
    (message : String) :
    ∃ s₁, Does reg f limit channel i (sink.log message) s [.note message] (.ok ()) s₁ ∧
      Reporting reg f limit channel i s₁ ∧ s₁.workers = s.workers := by
  obtain ⟨identity, hlog⟩ := hs.log_eq sink hsink message
  have hdoes : Does reg f limit channel i (sink.log message) s [.note message] (.ok ())
      { s with world := (World.report channel identity (.note message) s.world).2 } := {
    attempt := Flow.attempt_ok hlog
    heard := (Heard.refl s).tells identity (.note message)
    current := rfl
    there := hs.there }
  exact ⟨_, hdoes, hdoes.reporting hs hs.adopts, rfl⟩

/-- Setting a value of the filament is not heard. -/
lemma setValue (hs : Reporting reg f limit channel i s) (sink : Sink) (hsink : sink.registry = reg)
    (hversion : ¬ sink.version < Sink.version₂) (tag : ValueTag) (v : UInt64) :
    ∃ s₁, Does reg f limit channel i (sink.setValue tag v) s [] (.ok (.ok ())) s₁ ∧
      Reporting reg f limit channel i s₁ ∧ s₁.workers = s.workers ∧
      s₁.world.roster.filaments = s.world.roster.filaments.modify f (·.setValue tag v) := by
  subst hsink
  obtain ⟨m, hmember, hm⟩ := hs.membership_eq false
  subst hm
  let w : World ρ ε := { s.world with roster := { s.world.roster with
    filaments := s.world.roster.filaments.modify m.filament (·.setValue tag v) } }
  have hvalue : Report.setValue sink.registry false tag v s.world = (.ok (.ok ()), w) := by
    rw [Report.setValue, Flow.bind_ok hmember]
    rfl
  have hset : sink.setValue tag v s.world = (.ok (.ok ()), w) := by
    rw [Sink.setValue, Sink.requiring, if_neg hversion, Flow.bind_ok hvalue]
    rfl
  have hspares : Spares sink.registry m.filament s.world w := {
    threads := Nat.le_refl _
    filament := fun x hx =>
      ⟨x.setValue tag v, Pool.get?_modify_self _ hx, by cases tag <;> exact ⟨rfl, rfl, rfl⟩⟩
    seats := fun _ ht => ht }
  have hunheard : Unheard m.filament channel s.world w :=
    .of_roster rfl (.modify (fun x => by cases tag <;> exact ⟨rfl, rfl⟩) _ _)
  have hdoes : Does sink.registry m.filament limit channel i (sink.setValue tag v) s [] (.ok (.ok ()))
      { s with world := w } := .of_spares hs.there (Flow.attempt_ok hset) hspares hunheard rfl
  exact ⟨_, hdoes, hdoes.reporting hs hs.adopts, rfl, rfl⟩

/-- Raising the level is not heard. -/
lemma raiseLevel (hs : Reporting reg f limit channel i s) (l : Irql) :
    ∃ previous s₁, Does reg f limit channel i (raiseLevel l) s [] (.ok previous) s₁ ∧
      Reporting reg f limit channel i s₁ ∧ s₁.workers = s.workers ∧
      s₁.world.roster = s.world.roster := by
  obtain ⟨previous, w, hraise, hw⟩ : ∃ previous w, World.raiseLevel l s.world = (.ok previous, w) ∧
      Quiet s.world w ∧ w.observers = s.world.observers :=
    ⟨_, _, rfl, ⟨rfl, rfl, Array.size_modify⟩, rfl⟩
  have hdoes : Does reg f limit channel i (World.raiseLevel l) s [] (.ok previous)
      { s with world := w } :=
    .of_spares hs.there (Flow.attempt_ok hraise) (.of_quiet hw.1) (.of_eq hw.2 hw.1.roster)
      hw.1.current
  exact ⟨previous, _, hdoes, hdoes.reporting hs (hw.1.roster ▸ hs.adopts), rfl, hw.1.roster⟩

end Reporting

/-! ### Child threads -/

/-- Something that is not heard, wherever it is done. -/
def Unheardly (f : FilamentId) (channel : ObserverId) (m : Act ρ ε α) : Prop :=
  ∀ w, Unheard f channel w (m w).2

namespace Unheardly

lemma bind {m : Act ρ ε α} {k : α → Act ρ ε β} (hm : Unheardly f channel m)
    (hk : ∀ a, Unheardly f channel (k a)) : Unheardly f channel (m >>= k) := by
  intro w
  have hfirst := hm w
  cases hw : m w with
  | mk result w₁ =>
    rw [hw] at hfirst
    cases result with
    | ok a =>
      rw [Flow.bind_ok hw]
      exact hfirst.trans (hk a w₁)
    | error stop =>
      rw [Flow.bind_error hw]
      exact hfirst

lemma see (g : World ρ ε → α) : Unheardly f channel (Flow.see g) := fun w => .refl w

lemma pure (a : α) : Unheardly f channel (Pure.pure a : Act ρ ε α) := fun w => .refl w

lemma ensuring {m : Act ρ ε α} {finish : Act ρ ε Unit} (hm : Unheardly f channel m)
    (hfinish : Unheardly f channel finish) : Unheardly f channel (m.ensuring finish) := by
  have hattempt : Unheardly f channel m.attempt := by
    intro w
    rw [Flow.attempt_snd]
    exact hm w
  refine hattempt.bind fun result => hfinish.bind fun _ => ?_
  cases result with
  | ok a => exact pure a
  | error payload => exact fun w => .refl w

lemma withRegistry (reg : RegistryId) {g : Roster → α × Roster}
    (hg : ∀ r, Roster.KeepsFace f r (g r).2) :
    Unheardly f channel (World.withRegistry reg (onRoster g) : Act ρ ε α) := by
  intro w
  rw [withRegistry_eq]
  exact .of_roster rfl (hg w.roster)

lemma tell (o : ObserverId) (fallback : α) {g : Observer → α × Observer}
    (hg : ∀ ch, (g (.channel ch)).2 = .channel ch) :
    Unheardly f channel (World.tell o fallback g : Act ρ ε α) :=
  Unheard.tell o fallback hg

lemma attach (reg : RegistryId) (f' : FilamentId) :
    Unheardly f channel (World.attach reg f' : Act ρ ε (Except FilamentError Unit)) :=
  (see _).bind fun _ => withRegistry reg fun r => .attach r reg _

lemma detach (reg : RegistryId) : Unheardly f channel (World.detach reg : Act ρ ε Unit) :=
  (see _).bind fun _ => withRegistry reg fun r => .detach r reg _

lemma membership (reg : RegistryId) :
    Unheardly f channel (World.membership reg false : Act ρ ε (Except FilamentError Member)) := by
  refine (see _).bind fun t => withRegistry reg fun r => ?_
  have hsame : (r.current reg t false).2 = r := by
    rw [Roster.current]
    split <;> rfl
  rw [hsame]
  exact .refl r

lemma enrol (reg : RegistryId) (f' : FilamentId) :
    Unheardly f channel (Child.enrol reg f' : Act ρ ε (Except FilamentError Unit)) := by
  refine (attach reg f').bind fun result => ?_
  cases result with
  | error why => exact pure _
  | ok => exact ((see _).bind fun _ => see _).bind fun i => (see _).bind fun o =>
      (tell o () fun _ => rfl).bind fun _ => pure _

lemma asThread {t : ThreadId} {m : Act ρ ε α} (hm : Unheardly f channel m) :
    Unheardly f channel (World.asThread t m) := by
  have hturn (u : ThreadId) : Unheardly f channel
      (Flow.change fun w => { w with current := u } : Act ρ ε Unit) := fun _ => .of_eq rfl rfl
  exact (see _).bind fun caller => (hturn t).bind fun _ => hm.ensuring (hturn caller)

lemma endThread (t : ThreadId) : Unheardly f channel (World.endThread t : Act ρ ε Unit) :=
  fun w => .of_roster rfl (.threadEnded w.roster t)

lemma start (reg : RegistryId) : Unheardly f channel
    (Child.start reg : Act ρ ε (Except Child.SpawnError Child.Ticket)) := by
  have hnew : Unheardly f channel (newThread : Act ρ ε ThreadId) := fun _ => .of_eq rfl rfl
  refine (membership reg).bind fun m => ?_
  match m with
  | .error why => exact pure _
  | .ok m =>
    refine (see _).bind fun o => (tell o _ fun _ => rfl).bind fun answer => ?_
    match answer with
    | .refused why => exact pure _
    | .dropped => exact hnew.bind fun t => (endThread t).bind fun _ => pure _
    | .started =>
      refine hnew.bind fun t => (asThread (enrol reg m.filament)).bind fun result => ?_
      match result with
      | .error why => exact (endThread t).bind fun _ => pure _
      | .ok () => exact pure _

end Unheardly

/-- A worker starts a child, which comes into the call as far as it gets; the channel hears nothing. -/
theorem Reporting.start (hs : Reporting reg f limit channel i s) :
    ∃ result s₁, Does reg f limit channel i (Child.start reg) s [] (.ok result) s₁ ∧
      Reporting reg f limit channel i s₁ ∧
      s₁.workers = s.workers ++ newcomers s.world.threads.items.size result ∧
      ∀ k, result = .ok k → k = ⟨s.world.threads.items.size, reg, f⟩ := by
  obtain ⟨main, before, hsound⟩ := hs.sound
  obtain ⟨result, w', hstart, hcurrent, hadopts, hticket, hruns⟩ :=
    start_runs hsound hs.there hs.adopts
  have hunheard : Unheard f channel s.world (Child.start reg s.world).2 :=
    Unheardly.start reg s.world
  rw [hstart] at hunheard
  have hlt : i < s.workers.length := (List.getElem?_eq_some_iff.mp hs.there).1
  have hdoes : Does reg f limit channel i (Child.start reg) s [] (.ok result)
      { s with
        world := w'
        workers := s.workers ++ newcomers s.world.threads.items.size result } := {
    attempt := Flow.attempt_ok hstart
    heard := (Heard.refl s).silent hruns hunheard
    current := hcurrent
    there := (List.getElem?_append_left hlt).trans hs.there }
  exact ⟨result, _, hdoes, hdoes.reporting hs hadopts, rfl, hticket⟩

namespace Heard

variable {s₀ : State ρ ε} {φ φ' : Phase}

/-- A worker moves, and nothing is heard of it. -/
lemma goes (h : Heard reg f limit channel s₀ es (s.move i t φ w)) (hlt : i < s.workers.length)
    (hgo : Goes reg f limit i ⟨t, φ⟩ w φ' w') (hunheard : Unheard f channel w w') :
    Heard reg f limit channel s₀ es (s.move i t φ' w') :=
  h.silent (Runs.goes .refl hlt hgo) hunheard

/-- At the boundary of a thread its last words are heard. -/
lemma leave (h : Heard reg f limit channel s₀ es s)
    (hch : s.world.observers.get? channel = some (.channel ch)) (before : Bool)
    (left : Option StackTrace) (result : Except Payload Unit) :
    Heard reg f limit channel s₀ (es ++ Boundary.lastWords left result) { s with
      world := (s.world.disarmed before).observing channel
        (.channel (ch.hearing (Boundary.lastWords left result))) } := by
  have hdisarmed : Heard reg f limit channel s₀ es { s with world := s.world.disarmed before } :=
    h.spares (.of_roster rfl Array.size_modify) (.of_eq rfl rfl)
  have hsame : (s.world.disarmed before).observing channel (.channel ch)
      = s.world.disarmed before := observing_self (w := s.world.disarmed before) hch
  match result with
  | .ok () =>
    rw [Boundary.lastWords, List.append_nil]
    exact hsame.symm ▸ hdisarmed
  | .error (.signal _) =>
    rw [Boundary.lastWords, List.append_nil]
    exact hsame.symm ▸ hdisarmed
  | .error (.panic text) =>
    have htold := hdisarmed.tells (.ownMain 0) ⟨.uncaughtException (panicMessage text), left⟩
    rw [World.report, tell_eq (w := s.world.disarmed before) hch] at htold
    exact htold

/-- A child that has noted how it came out leaves. -/
lemma depart (h : Heard reg f limit channel s₀ es (s.move i t φ w)) (hlt : i < s.workers.length)
    (ht : w.current = t) {ending : Ending} (hφ : φ.ending? = some ending) :
    ∃ w', detach reg w = (.ok (), w') ∧ w'.roster.adoptions = w.roster.adoptions ∧
      Heard reg f limit channel s₀ es (s.move i t (.done ending) w') := by
  have hhere : Runs reg f limit (s.move i t φ w) (s.move i t φ w) := .refl
  obtain ⟨w', hdetach, -, hadoptions, hruns⟩ := hhere.detach hlt ht hφ
  have hunheard : Unheard f channel w (detach reg w).2 := Unheardly.detach reg w
  rw [hdetach] at hunheard
  exact ⟨w', hdetach, hadoptions, h.silent hruns hunheard⟩

/-- A child that is past its boundary notes how it came out, unless its unwind goes on, and leaves. -/
lemma noteAndDepart {e : Exit} (h : Heard reg f limit channel s₀ es (s.move (i + 1) t (.caught e) w))
    (hlt : i + 1 < s.workers.length) (ht : w.current = t) :
    ∃ w', (do
        match e.caught with
        | .outcome o => changeFilament f (·.note o)
        | .reraise _ => pure ()
        detach reg
        return e.caught.payload? : Act ρ ε (Option Payload)) w = (.ok e.caught.payload?, w') ∧
      w'.roster.adoptions = w.roster.adoptions ∧
      Heard reg f limit channel s₀ es (s.move (i + 1) t (.done (.child e)) w') := by
  cases hout : e.caught with
  | outcome o =>
    let w₁ : World ρ ε := { w with
      roster := { w.roster with filaments := w.roster.filaments.modify f (·.note o) } }
    have hnote : changeFilament f (·.note o) w = (.ok (), w₁) := rfl
    have hunheard : Unheard f channel w w₁ :=
      .of_roster rfl (.modify (g := (·.note o)) (fun _ => ⟨rfl, rfl⟩) w.roster f)
    have hnoted := h.goes hlt (.notes (by rw [Exit.note?, hout])) hunheard
    obtain ⟨w₂, hdetach, hadoptions, hover⟩ := hnoted.depart hlt ht rfl
    exact ⟨w₂, (Flow.bind_ok hnote).trans (Flow.bind_ok hdetach), hadoptions, hover⟩
  | reraise payload =>
    have hpassed := h.goes hlt (.passesOn (by rw [Exit.note?, hout])) (.refl w)
    obtain ⟨w₁, hdetach, hadoptions, hover⟩ := hpassed.depart hlt ht rfl
    exact ⟨w₁, Flow.bind_ok hdetach, hadoptions, hover⟩

/-- A child takes in how its function ended, notes that and leaves. -/
lemma conclude {result : Except Payload Unit}
    (h : Heard reg f limit channel s₀ es (s.move (i + 1) t (.ended result) w))
    (hlt : i + 1 < s.workers.length) (ht : w.current = t) (before : Bool)
    (hx : w.roster.filaments.get? f = some x) (hobserver : x.observer = channel)
    (hflags : x.flags.capturesStacks = false)
    (hch : w.observers.get? channel = some (.channel ch)) :
    ∃ e w', Child.conclude ⟨t, reg, f⟩ before result w = (.ok e.caught.payload?, w') ∧
      e.result = result ∧ w'.roster.adoptions = w.roster.adoptions ∧
      Heard reg f limit channel s₀ (es ++ Boundary.lastWords
        w.running.panicStack result)
        (s.move (i + 1) t (.done (.child e)) w') := by
  obtain ⟨e, rfl, hcaught⟩ := exists_exit ch.dispositions result
  have hleave := leave_channel hx hobserver hflags hch ⟨x.mainThread, w.current⟩ before e.result
  have hleft := h.leave hch before w.running.panicStack e.result
  rw [← hcaught] at hleave
  generalize hwords : Boundary.lastWords w.running.panicStack e.result
    = words at hleave hleft
  obtain ⟨w₁, hw₁⟩ : ∃ w₁, (w.disarmed before).observing channel (.channel (ch.hearing words)) = w₁ :=
    ⟨_, rfl⟩
  have hroster : w₁.roster = w.roster := by rw [← hw₁]; rfl
  have hcurrent : w₁.current = t := by rw [← hw₁]; exact ht
  have hpast : Heard reg f limit channel s₀ (es ++ words) (s.move (i + 1) t (.caught e) w₁) := by
    refine Heard.goes ?_ hlt (.catches e) (.refl w₁)
    rw [← hw₁]
    exact hleft
  rw [hw₁] at hleave
  have hx₁ : w₁.roster.filaments.get? f = some x := hroster ▸ hx
  -- the channel is told that the child finished, which it ignores
  obtain ⟨w₂, hinform, hquiet, hignored⟩ : ∃ w₂, inform channel
      (·.childFinished ⟨x.mainThread, w.current⟩) w₁ = (.ok (), w₂) ∧ Quiet w₁ w₂ ∧
        Unheard f channel w₁ w₂ := by
    refine ⟨(inform channel (·.childFinished ⟨x.mainThread, w.current⟩) w₁).2, rfl,
      ⟨rfl, rfl, rfl⟩, ?_⟩
    exact .tell channel () (fun _ => rfl) w₁
  have htold : Heard reg f limit channel s₀ (es ++ words) (s.move (i + 1) t (.caught e) w₂) :=
    hpast.spares (.of_quiet hquiet) hignored
  have hcurrent₂ : w₂.current = t := hquiet.current.trans hcurrent
  have hadoptions : w₂.roster.adoptions = w.roster.adoptions :=
    congrArg Roster.adoptions (hquiet.roster.trans hroster)
  obtain ⟨w₃, hover, hadoptions₃, hheard⟩ := htold.noteAndDepart hlt hcurrent₂
  refine ⟨e, w₃, ?_, rfl, hadoptions₃.trans hadoptions, hheard⟩
  rw [Child.conclude, Flow.bind_ok (identityIn_eq hx), Flow.bind_ok hleave,
    Flow.bind_ok (observerOf_eq hx₁), hobserver, Flow.bind_ok hinform]
  exact hover

end Heard

/-- A child that a worker started runs to its end: what its function reports is heard, and then its
last words. -/
theorem Reporting.finish (hs : Reporting reg f limit channel i s) {j : Nat}
    (hj : s.workers[j + 1]? = some ⟨t, .runs⟩) (hij : i ≠ j + 1) {routine : Act ρ ε Unit}
    {result : Except Payload Unit} {P : List Worker → Prop}
    (hbody : ∀ s₁, Reporting reg f limit channel (j + 1) s₁ → s₁.workers = s.workers →
      ∃ s₂, Does reg f limit channel (j + 1) routine s₁ es result s₂ ∧
        s₂.world.roster.AdoptsNobody f ∧ s₂.workers[i]? = s₁.workers[i]? ∧ P s₂.workers) :
    ∃ left e workers s', Does reg f limit channel i (Child.finish ⟨t, reg, f⟩ routine) s
        (es ++ Boundary.lastWords left result) (.ok e.caught.payload?) s' ∧
      Reporting reg f limit channel i s' ∧ e.result = result ∧ P workers ∧
      s'.workers = workers.set (j + 1) ⟨t, .done (.child e)⟩ := by
  -- the child takes its turn and is armed
  let w₀ : World ρ ε := { s.world with current := t }
  obtain ⟨before, w₁, henter, hquiet⟩ := enter_quietly f w₀
  have hentered : Heard reg f limit channel s [] { s with world := w₁ } := by
    have hturn : Heard reg f limit channel s [] { s with world := w₀ } :=
      (Heard.refl s).spares (.of_roster rfl rfl) (.of_eq rfl rfl)
    have hobservers : w₁.observers = w₀.observers := congrArg (·.2.observers) henter.symm
    exact hturn.spares (.of_quiet hquiet) (.of_eq hobservers hquiet.roster)
  have hcurrent : w₁.current = t := hquiet.current
  have hchild : Reporting reg f limit channel (j + 1) { s with world := w₁ } := by
    refine hs.heard hentered ?_ (hquiet.roster ▸ hs.adopts)
    rw [hcurrent]
    exact hj
  obtain ⟨s₂, hdoes, hadopts, hplace, hP⟩ := hbody _ hchild rfl
  have hreporting := hdoes.reporting hchild hadopts
  obtain ⟨x, hx, hobserver, hflags⟩ := hreporting.face
  obtain ⟨ch, hch⟩ := hreporting.channel
  have hthere : s₂.workers[j + 1]? = some ⟨t, .runs⟩ := hdoes.there.trans (by rw [hcurrent])
  have hlt : j + 1 < s₂.workers.length := (List.getElem?_eq_some_iff.mp hthere).1
  have hran : Heard reg f limit channel s es (s₂.move (j + 1) t .runs s₂.world) := by
    rw [State.move_self hthere]
    exact hentered.trans hdoes.heard
  obtain ⟨e, w₂, hconclude, hresult, hadoptions, hheard⟩ :=
    (hran.goes hlt (.ends result) (.refl _)).conclude hlt (hdoes.current.trans hcurrent) before hx
      hobserver hflags hch
  -- the turn goes back
  let w₃ : World ρ ε := { w₂ with current := s.world.current }
  let w₄ : World ρ ε := { w₃ with roster := w₃.roster.threadEnded t }
  have hadopts₃ : w₃.roster.AdoptsNobody f := by
    rw [Roster.AdoptsNobody, hadoptions]
    exact hadopts
  have hback := hheard.spares (w := w₃) (.of_roster rfl rfl) (.of_eq rfl rfl)
  have hended := hback.spares (w := w₄) (.threadEnded hadopts₃ t) (Unheardly.endThread t w₃)
  have hlife : asThread t (do
      let before ← Boundary.enter f
      let result ← routine.attempt
      Child.conclude ⟨t, reg, f⟩ before result) s.world = (.ok e.caught.payload?, w₃) :=
    asThread_ok ((Flow.bind_ok henter).trans ((Flow.bind_ok hdoes.attempt).trans hconclude))
  have hfinish : Child.finish ⟨t, reg, f⟩ routine s.world = (.ok e.caught.payload?, w₄) := by
    rw [Child.finish, Flow.bind_ok hlife]
    rfl
  have hcaller : (s₂.move (j + 1) t (.done (.child e)) w₄).workers[i]?
      = some ⟨s.world.current, .runs⟩ :=
    (Places.getElem?_set_of_ne hij.symm _).trans (hplace.trans hs.there)
  have hdone : Does reg f limit channel i (Child.finish ⟨t, reg, f⟩ routine) s _
      (.ok e.caught.payload?) (s₂.move (j + 1) t (.done (.child e)) w₄) := {
    attempt := Flow.attempt_ok hfinish
    heard := hended
    current := rfl
    there := hcaller }
  exact ⟨_, e, _, _, hdone, hdone.reporting hs (hadopts₃.threadEnded t), hresult, hP, rfl⟩

end Crew

end Testbench
