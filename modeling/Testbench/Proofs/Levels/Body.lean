import Testbench.Proofs.Crew.Heard
import Testbench.Proofs.Lawful
import Testbench.Proofs.Tables

/-!
# The bodies of a driver's routines

A routine of a driver raises and lowers its level, holds locks, reports through its sink, starts
threads and lets them run, catches unwinds and unwinds.  However it does that and however it ends,
it ends on the thread on which it began, and nothing is gone that was there before: no thread, no
channel, no registry of a driver, and no filament, which goes on to report to the same observer.
About levels nothing is said here: a routine may leave any level behind.
-/

namespace Testbench

open World

variable {ρ ε α β : Type}

/-! ### What a sink is asked -/

namespace Sink

/-- Something that a driver asks of its sink, by what it gets for an answer. -/
inductive Call : Type → Type
  | assertion (site : Site) (expression : String) : Call Disposition
  | comparison (expected actual : UInt32) (site : Site) (expression : String) : Call Disposition
  | inconclusiveness (message : String) : Call Unit
  | log (message : String) : Call Unit
  | formattedAssertion (site : Site) (message : String) : Call (Except SinkError Disposition)
  | failure : Call (Except SinkError Unit)
  | value (tag : ValueTag) : Call (Except SinkError UInt64)
  | setValue (tag : ValueTag) (v : UInt64) : Call (Except SinkError Unit)
  | startThread : Call (Except SinkError Child.Ticket)

/-- A sink is asked. -/
def perform (s : Sink) : Call α → Act ρ ε α
  | .assertion site expression => s.assertion site expression
  | .comparison expected actual site expression => s.comparison expected actual site expression
  | .inconclusiveness message => s.inconclusiveness message
  | .log message => s.log message
  | .formattedAssertion site message => s.formattedAssertion site message
  | .failure => s.failure
  | .value tag => s.value tag
  | .setValue tag v => s.setValue tag v
  | .startThread => s.startThread

end Sink

/-- What observers are asked by contract leaves channels that may have heard of something. -/
lemma Observer.Asked.hearing {fallback : α} {f : Observer → α × Observer} (hf : Asked fallback f)
    (ch : Channel) : ∃ es, (f (.channel ch)).2 = .channel (ch.hearing es) := by
  cases hf with
  | report i e => exact ⟨[e], rfl⟩
  | queue e => exact ⟨[e], rfl⟩
  | query | threadStart | childStarts | childFinished | unhandledException => exact ⟨[], rfl⟩

/-! ### Rosters -/

namespace Roster

variable {r r' r'' : Roster} {reg : RegistryId}

/-- A registry is a driver's, where nobody is adopted. -/
def ForDriver (r : Roster) (reg : RegistryId) : Prop :=
  ∃ g, r.registries.get? reg = some g ∧ g.kind = .driver ∧ g.default? = none

namespace ForDriver

lemma congr (h : r.ForDriver reg) (hsame : r'.registries = r.registries) : r'.ForDriver reg := by
  rw [ForDriver, hsame]
  exact h

/-- Whoever is in the table, it is the table of the same driver. -/
lemma onTable (h : r.ForDriver reg) (reg' : RegistryId) (fallback : α)
    (f : ThreadTable → α × ThreadTable) : (r.onTable reg' fallback f).2.ForDriver reg := by
  obtain ⟨g, hg, hkind, hdefault⟩ := h
  cases hg' : r.registries.get? reg' with
  | none =>
    rw [onTable_of_none hg']
    exact ⟨g, hg, hkind, hdefault⟩
  | some g' =>
    rw [onTable_eq hg']
    by_cases hreg : reg' = reg
    · subst hreg
      obtain rfl := Option.some.inj (hg.symm.trans hg')
      exact ⟨_, Pool.get?_modify_self _ hg, hkind, hdefault⟩
    · exact ⟨g, (Pool.get?_modify_of_ne hreg _).trans hg, hkind, hdefault⟩

lemma attach (h : r.ForDriver reg) (reg' : RegistryId) (b : Binding) :
    (r.attach reg' b).2.ForDriver reg := by
  have hprepare := h.congr (prepare_registries r b)
  rcases r.attach_cases reg' b with
    ⟨why, r₁, hrefused, heq⟩ | ⟨r₁, hmade, ⟨r₂, hbind, heq⟩ | ⟨why, r₂, hbind, heq⟩⟩ <;> rw [heq]
  · rwa [hrefused] at hprepare
  all_goals
    rw [hmade] at hprepare
    have htable := hprepare.onTable reg' (.error .unknownThread) (·.bind b)
    rw [hbind] at htable
  · exact htable
  · exact htable.congr (release_registries r₂ b)

lemma takeOut (h : r.ForDriver reg) (reg' : RegistryId)
    (f : ThreadTable → Option Binding × ThreadTable) :
    (match r.onTable reg' none f with
      | (none, r) => r
      | (some b, r) => r.release b).ForDriver reg := by
  have htable := h.onTable reg' none f
  rcases hgone : r.onTable reg' none f with ⟨- | b, r₁⟩ <;> rw [hgone] at htable
  · exact htable
  · exact htable.congr (release_registries r₁ b)

lemma detach (h : r.ForDriver reg) (reg' : RegistryId) (t : ThreadId) :
    (r.detach reg' t).ForDriver reg := h.takeOut reg' (·.unbind t)

lemma detachIf (h : r.ForDriver reg) (reg' : RegistryId) (t : ThreadId) (f : FilamentId) :
    (r.detachIf reg' t f).ForDriver reg := h.takeOut reg' (·.unbindIf t f)

lemma threadEnded (h : r.ForDriver reg) (t : ThreadId) : (r.threadEnded t).ForDriver reg := by
  have hfold (l : List Adoption) (r : Roster) (h : r.ForDriver reg) :
      (l.foldl (fun r a => r.detachIf a.registry a.thread a.filament) r).ForDriver reg := by
    induction l generalizing r with
    | nil => exact h
    | cons a l ih => exact ih _ (h.detachIf a.registry a.thread a.filament)
  exact (hfold (r.adoptions.filter (·.thread = t)) r h).congr rfl

lemma current (h : r.ForDriver reg) (reg' : RegistryId) (t : ThreadId) (derive : Bool) :
    (r.current reg' t derive).2.ForDriver reg := by
  rw [Roster.current]
  split
  · exact h
  · split
    · rw [Roster.adopt]
      split
      · exact h
      · rename_i f hf
        have hattach := h.attach reg' ⟨t, f, false⟩
        dsimp only
        split <;> rename_i hattached <;> rw [hattached] at hattach
        · exact hattach
        · exact hattach.congr rfl
    · exact h

end ForDriver

/-- Filaments report to whom they reported, and the registries of drivers are theirs. -/
structure Keeps (r r' : Roster) : Prop where
  face : ∀ f, r.KeepsFace f r'
  driver : ∀ reg, r.ForDriver reg → r'.ForDriver reg

namespace Keeps

lemma of_registries (hface : ∀ f, r.KeepsFace f r') (hsame : r'.registries = r.registries) :
    r.Keeps r' := ⟨hface, fun _ h => h.congr hsame⟩

lemma refl (r : Roster) : r.Keeps r := of_registries (fun _ => .refl r) rfl

lemma trans (h : r.Keeps r') (h' : r'.Keeps r'') : r.Keeps r'' :=
  ⟨fun f => (h.face f).trans (h'.face f), fun reg hreg => h'.driver reg (h.driver reg hreg)⟩

lemma attach (r : Roster) (reg : RegistryId) (b : Binding) : r.Keeps (r.attach reg b).2 :=
  ⟨fun _ => .attach r reg b, fun _ h => h.attach reg b⟩

lemma detach (r : Roster) (reg : RegistryId) (t : ThreadId) : r.Keeps (r.detach reg t) :=
  ⟨fun _ => .detach r reg t, fun _ h => h.detach reg t⟩

lemma threadEnded (r : Roster) (t : ThreadId) : r.Keeps (r.threadEnded t) :=
  ⟨fun _ => .threadEnded r t, fun _ h => h.threadEnded t⟩

lemma current (r : Roster) (reg : RegistryId) (t : ThreadId) (derive : Bool) :
    r.Keeps (r.current reg t derive).2 :=
  ⟨fun _ => .current r reg t derive, fun _ h => h.current reg t derive⟩

end Keeps

end Roster

namespace World

/-- Does something at a level that is raised meanwhile. -/
def raisedTo (l : Irql) (m : Act ρ ε α) : Act ρ ε α := do
  let previous ← raiseLevel l
  m.ensuring (lowerLevel previous)

/-- What the routines of drivers are made of. -/
inductive Body : {α : Type} → Act ρ ε α → Prop
  | pure {α : Type} (a : α) : Body (Pure.pure a)
  | bind {α β : Type} {m : Act ρ ε α} {k : α → Act ρ ε β} (hm : Body m) (hk : ∀ a, Body (k a)) :
    Body (m >>= k)
  | attempt {α : Type} {m : Act ρ ε α} (hm : Body m) : Body m.attempt
  | unwind {α : Type} (payload : Payload) : Body (Flow.unwind payload : Act ρ ε α)
  | panicking {α : Type} (text : Option String) : Body (panicking text : Act ρ ε α)
  /-- What the routine does to its own data. -/
  | store {α : Type} (f : ε → α × ε) : Body (onStore f)
  | level : Body World.level
  | raise (l : Irql) : Body (raiseLevel l)
  | lower (l : Irql) : Body (lowerLevel l)
  | sink {α : Type} (s : Sink) (call : Sink.Call α) : Body (s.perform call)
  /-- Another thread does something meanwhile. -/
  | asThread {α : Type} (t : ThreadId) {m : Act ρ ε α} (hm : Body m) : Body (asThread t m)
  | newThread : Body newThread
  | endThread (t : ThreadId) : Body (endThread t)
  /-- A system thread comes to its function. -/
  | enter (f : FilamentId) : Body (Boundary.enter f)
  /-- The function of a system thread is over. -/
  | conclude (k : Child.Ticket) (before : Bool) (result : Except Payload Unit) :
    Body (Child.conclude k before result)
  /-- A routine of another driver is called. -/
  | call {exec : Routines ρ ε} (hexec : ∀ routine, Body (exec routine)) (hothers : Body exec.others)
    (c : ConnectionId) (fixture routine : UInt16) (channel : ObserverId) (value : UInt64) :
    Body (Driver.call exec c fixture routine channel value)

namespace Body

variable {m : Act ρ ε α}

lemma ensuring {finish : Act ρ ε Unit} (hm : Body m) (hfinish : Body finish) :
    Body (m.ensuring finish) := by
  refine hm.attempt.bind fun result => hfinish.bind fun _ => ?_
  cases result with
  | ok a => exact pure a
  | error payload => exact unwind payload

/-- Scoped levels and locks that are held for a while are no more than that. -/
lemma raisedTo (l : Irql) (hm : Body m) : Body (World.raisedTo l m) :=
  (raise l).bind fun previous => hm.ensuring (lower previous)

/-- A system thread that was started runs to its end. -/
lemma finish (k : Child.Ticket) {routine : Act ρ ε Unit} (h : Body routine) :
    Body (Child.finish k routine) :=
  (asThread k.thread ((enter k.filament).bind fun before => h.attempt.bind fun result =>
    conclude k before result)).bind fun payload => (endThread k.thread).bind fun _ => pure payload

end Body

/-! ### What stays -/

/-- The same thread runs, no thread and no channel is gone, filaments report to whom they reported,
and drivers have their registries.  Channels may have heard of something. -/
structure Minds (w w' : World ρ ε) : Prop where
  current : w'.current = w.current
  threads : w.threads.items.size ≤ w'.threads.items.size
  channel : ∀ o ch, w.observers.get? o = some (.channel ch) →
    ∃ es, w'.observers.get? o = some (.channel (ch.hearing es))
  roster : w.roster.Keeps w'.roster

namespace Minds

variable {w w' w'' : World ρ ε}

lemma of_roster (hcurrent : w'.current = w.current)
    (hthreads : w.threads.items.size ≤ w'.threads.items.size)
    (hobservers : w'.observers = w.observers) (hroster : w.roster.Keeps w'.roster) : Minds w w' :=
  ⟨hcurrent, hthreads, fun _ _ hch => ⟨[], hobservers ▸ hch⟩, hroster⟩

lemma refl (w : World ρ ε) : Minds w w :=
  of_roster rfl (Nat.le_refl _) rfl (.refl _)

lemma trans (h : Minds w w') (h' : Minds w' w'') : Minds w w'' where
  current := h'.current.trans h.current
  threads := Nat.le_trans h.threads h'.threads
  channel o ch hch := by
    obtain ⟨es, hes⟩ := h.channel o ch hch
    obtain ⟨fs, hfs⟩ := h'.channel o _ hes
    exact ⟨es ++ fs, by rw [hfs, Channel.hearing_append]⟩
  roster := h.roster.trans h'.roster

lemma thread {t : Thread} (h : Minds w w') (ht : w.threads.get? w.current = some t) :
    ∃ t', w'.threads.get? w'.current = some t' := by
  have hlt := (Array.getElem?_eq_some_iff.mp ht).1
  rw [h.current]
  exact ⟨_, Array.getElem?_eq_getElem (Nat.lt_of_lt_of_le hlt h.threads)⟩

end Minds

/-- Something that ends, by returning or by unwinding, and minds all that. -/
def Mindful (m : Act ρ ε α) : Prop := ∀ w, ∃ result w', m.attempt w = (.ok result, w') ∧ Minds w w'

namespace Mindful

variable {m : Act ρ ε α} {k : α → Act ρ ε β}

lemma of_step {f : World ρ ε → α × World ρ ε} (hf : ∀ w, Minds w (f w).2) :
    Mindful (Flow.step f) := fun w => ⟨_, _, rfl, hf w⟩

lemma pure (a : α) : Mindful (Pure.pure a : Act ρ ε α) := fun w => ⟨_, w, rfl, .refl w⟩

lemma unwind (payload : Payload) : Mindful (Flow.unwind payload : Act ρ ε α) :=
  fun w => ⟨_, w, rfl, .refl w⟩

lemma see (f : World ρ ε → α) : Mindful (Flow.see f) := fun w => ⟨_, w, rfl, .refl w⟩

lemma bind (hm : Mindful m) (hk : ∀ a, Mindful (k a)) : Mindful (m >>= k) := by
  intro w
  obtain ⟨result, w₁, hfirst, hminds⟩ := hm w
  match result with
  | .ok a =>
    obtain ⟨result, w₂, hsecond, hminds'⟩ := hk a w₁
    exact ⟨result, w₂, (Flow.attempt_bind_ok hfirst).trans hsecond, hminds.trans hminds'⟩
  | .error payload => exact ⟨_, w₁, Flow.attempt_bind_unwound hfirst, hminds⟩

lemma attempt (hm : Mindful m) : Mindful m.attempt := by
  intro w
  obtain ⟨result, w', hresult, hminds⟩ := hm w
  exact ⟨.ok result, w', Flow.attempt_ok hresult, hminds⟩

lemma ensuring {finish : Act ρ ε Unit} (hm : Mindful m) (hfinish : Mindful finish) :
    Mindful (m.ensuring finish) := by
  refine hm.attempt.bind fun result => hfinish.bind fun _ => ?_
  cases result with
  | ok a => exact pure a
  | error payload => exact unwind payload

/-! ### Threads and levels -/

lemma changeThread (f : Thread → Thread) : Mindful (World.changeThread f : Act ρ ε Unit) :=
  fun _ => ⟨_, _, rfl, .of_roster rfl (Nat.le_of_eq Array.size_modify.symm) rfl (.refl _)⟩

lemma onStore (f : ε → α × ε) : Mindful (World.onStore f : Act ρ ε α) :=
  fun _ => ⟨_, _, rfl, .of_roster rfl (Nat.le_refl _) rfl (.refl _)⟩

lemma level : Mindful (World.level : Act ρ ε Irql) := see _

lemma raiseLevel (l : Irql) : Mindful (World.raiseLevel l : Act ρ ε Irql) :=
  level.bind fun previous => (changeThread _).bind fun _ => pure previous

lemma lowerLevel (l : Irql) : Mindful (World.lowerLevel l : Act ρ ε Unit) :=
  level.bind fun _ => changeThread _

lemma panicking (text : Option String) : Mindful (World.panicking text : Act ρ ε α) := by
  refine (see _).bind fun keeps => ?_
  split
  · exact (see _).bind fun _ => (changeThread _).bind fun _ => unwind _
  · exact unwind _

lemma newThread : Mindful (World.newThread : Act ρ ε ThreadId) := by
  intro w
  have hmore : w.threads.items.size ≤ (w.threads.items.push {}).size := by
    rw [Array.size_push]
    exact Nat.le_succ _
  exact ⟨_, _, rfl, .of_roster rfl hmore rfl (.refl _)⟩

lemma endThread (t : ThreadId) : Mindful (World.endThread t : Act ρ ε Unit) := fun w =>
  ⟨_, _, rfl, .of_roster rfl (Nat.le_refl _) rfl (.threadEnded w.roster t)⟩

/-- Whoever did something meanwhile, the thread that ran before runs again. -/
lemma asThread (t : ThreadId) (hm : Mindful m) : Mindful (World.asThread t m) := by
  intro w
  obtain ⟨result, w', hresult, hminds⟩ := hm { w with current := t }
  have hself : self w = (.ok w.current, w) := rfl
  have hturn : Flow.change (fun w : World ρ ε => { w with current := t }) w
      = (.ok (), { w with current := t }) := rfl
  refine ⟨result, { w' with current := w.current }, ?_,
    ⟨rfl, hminds.threads, hminds.channel, hminds.roster⟩⟩
  rw [World.asThread, Flow.attempt_bind_ok (Flow.attempt_ok hself),
    Flow.attempt_bind_ok (Flow.attempt_ok hturn)]
  exact Flow.attempt_ensuring_eq hresult rfl

/-! ### Rosters and the device -/

lemma onRoster {f : Roster → α × Roster} (hf : ∀ r : Roster, r.Keeps (f r).2) :
    Mindful (World.onRoster f : Act ρ ε α) :=
  of_step fun w => .of_roster rfl (Nat.le_refl _) rfl (hf w.roster)

lemma withRegistry (reg : RegistryId) {f : Roster → α × Roster}
    (hf : ∀ r : Roster, r.Keeps (f r).2) :
    Mindful (World.withRegistry reg (World.onRoster f) : Act ρ ε α) := fun w =>
  ⟨_, _, Flow.attempt_ok (withRegistry_eq w reg f),
    .of_roster rfl (Nat.le_refl _) rfl (hf w.roster)⟩

lemma changeFilament (f : FilamentId) {g : Filament → Filament}
    (hg : ∀ x, (g x).observer = x.observer ∧ (g x).flags = x.flags) :
    Mindful (World.changeFilament f g : Act ρ ε Unit) :=
  onRoster fun r => .of_registries (fun _ => .modify hg r f) rfl

lemma seeFilament (f : FilamentId) (fallback : α) (g : Filament → α) :
    Mindful (World.seeFilament f fallback g : Act ρ ε α) := see _

lemma newFilament (o : ObserverId) (flags : FilamentFlags) :
    Mindful (World.newFilament o flags : Act ρ ε FilamentId) :=
  (see _).bind fun _ => onRoster fun _ =>
    .of_registries (fun _ x hx => ⟨x, Pool.get?_add_of_some hx _, rfl, rfl⟩) rfl

lemma attach (reg : RegistryId) (f : FilamentId) :
    Mindful (World.attach reg f : Act ρ ε (Except FilamentError Unit)) :=
  (see _).bind fun _ => withRegistry reg fun r => .attach r reg _

lemma detach (reg : RegistryId) : Mindful (World.detach reg : Act ρ ε Unit) :=
  (see _).bind fun _ => withRegistry reg fun r => .detach r reg _

lemma membership (reg : RegistryId) (derive : Bool) :
    Mindful (World.membership reg derive : Act ρ ε (Except FilamentError Member)) :=
  (see _).bind fun t => withRegistry reg fun r => .current r reg t derive

lemma identityIn (f : FilamentId) : Mindful (World.identityIn f : Act ρ ε Identity) :=
  (see _).bind fun _ => seeFilament f _ _

lemma stackFor (f : FilamentId) : Mindful (World.stackFor f : Act ρ ε (Option StackTrace)) := by
  refine (see _).bind fun captures => ?_
  split
  · exact (see _).bind fun _ => pure _
  · exact pure _

lemma observerOf (f : FilamentId) : Mindful (World.observerOf f : Act ρ ε ObserverId) := see _

/-! ### Observers -/

lemma tell (o : ObserverId) {fallback : α} {f : Observer → α × Observer}
    (hf : Observer.Asked fallback f) : Mindful (World.tell o fallback f : Act ρ ε α) := by
  refine of_step fun w => ⟨rfl, Nat.le_refl _, fun i ch hch => ?_, .refl _⟩
  dsimp only
  rw [Pool.get?_update, hch]
  split
  · obtain ⟨es, hes⟩ := hf.hearing ch
    exact ⟨es, congrArg some hes⟩
  · exact ⟨[], rfl⟩

lemma report (o : ObserverId) (i : Identity) (e : Event) :
    Mindful (World.report o i e : Act ρ ε Disposition) := tell o (.report i e)

/-! ### Boundaries -/

lemma reportPanic (f : FilamentId) (i : Identity) (text : Option String)
    (left : Option StackTrace) :
    Mindful (Boundary.reportPanic f i text left : Act ρ ε Disposition) := by
  have htell (stack : Option StackTrace) : Mindful (do
      let o ← World.observerOf f
      inform o (·.unhandledException (panicMessage text))
      World.report o i ⟨.uncaughtException (panicMessage text), stack⟩ : Act ρ ε Disposition) :=
    (observerOf f).bind fun o => (tell o (.unhandledException _)).bind fun _ => report o i _
  cases left with
  | none => exact (stackFor f).bind htell
  | some stack => exact htell (some stack)

lemma enter (f : FilamentId) : Mindful (Boundary.enter f : Act ρ ε Bool) :=
  (see _).bind fun _ => (see _).bind fun before => (changeThread _).bind fun _ => pure before

lemma leave (f : FilamentId) (i : Identity) (before : Bool) (result : Except Payload Unit) :
    Mindful (Boundary.leave f i before result : Act ρ ε Boundary.Caught) := by
  refine (see _).bind fun left => (changeThread _).bind fun _ => ?_
  rcases result with (s | text) | u
  · exact pure _
  · exact (reportPanic f i text left).bind fun _ => pure _
  · exact pure _

lemma guard (f : FilamentId) (i : Identity) {routine : Act ρ ε Unit} (h : Mindful routine) :
    Mindful (Boundary.guard f i routine) :=
  (enter f).bind fun before => h.attempt.bind fun result => leave f i before result

lemma joinChildren (f : FilamentId) (limit : Duration) :
    Mindful (World.joinChildren f limit : Act ρ ε (Except FilamentError Unit)) := by
  rw [World.joinChildren]
  split
  · exact seeFilament f _ _
  · exact panicking _

lemma settle (f : FilamentId) (i : Identity) (limit : Duration) (o : Outcome) :
    Mindful (Boundary.settle f i limit o : Act ρ ε Outcome) := by
  have hworst (o : Outcome) : Mindful (do
      return o.worst (← World.seeFilament f .completed Filament.childOutcome) : Act ρ ε Outcome) :=
    (see _).bind fun _ => pure _
  refine (joinChildren f limit).bind fun joined => ?_
  cases joined with
  | ok u => exact (pure o).bind hworst
  | error why =>
    exact (observerOf f).bind fun _ => (report _ i _).bind fun _ => (pure _).bind hworst

/-! ### Child threads -/

lemma enrol (reg : RegistryId) (f : FilamentId) :
    Mindful (Child.enrol reg f : Act ρ ε (Except FilamentError Unit)) := by
  refine (attach reg f).bind fun bound => ?_
  cases bound with
  | error why => exact pure _
  | ok u =>
    exact (identityIn f).bind fun i => (observerOf f).bind fun o =>
      (tell o (.childStarts i)).bind fun _ => pure _

lemma start (reg : RegistryId) :
    Mindful (Child.start reg : Act ρ ε (Except Child.SpawnError Child.Ticket)) := by
  refine (membership reg false).bind fun found => ?_
  cases found with
  | error why => exact pure _
  | ok m =>
    refine (observerOf m.filament).bind fun o => (tell o .threadStart).bind fun answer => ?_
    cases answer with
    | refused why => exact pure _
    | dropped => exact newThread.bind fun t => (endThread t).bind fun _ => pure _
    | started =>
      refine newThread.bind fun t => (asThread t (enrol reg m.filament)).bind fun enrolled => ?_
      cases enrolled with
      | error why => exact (endThread t).bind fun _ => pure _
      | ok u => exact pure _

lemma conclude (k : Child.Ticket) (before : Bool) (result : Except Payload Unit) :
    Mindful (Child.conclude k before result : Act ρ ε (Option Payload)) := by
  have hend (caught : Boundary.Caught) : Mindful (do
      World.detach k.registry
      return caught.payload? : Act ρ ε (Option Payload)) :=
    (detach k.registry).bind fun _ => pure _
  refine (identityIn k.filament).bind fun i => (leave k.filament i before result).bind fun caught =>
    (observerOf k.filament).bind fun o => (tell o (.childFinished i)).bind fun _ => ?_
  cases caught with
  | outcome o =>
    exact (changeFilament (g := (·.note o)) k.filament fun _ => ⟨rfl, rfl⟩).bind fun _ =>
      hend (.outcome o)
  | reraise payload => exact hend (.reraise payload)

/-! ### Sinks -/

lemma asMember (reg : RegistryId) {f : Member → Act ρ ε Verdict} (hf : ∀ m, Mindful (f m)) :
    Mindful (Report.asMember reg f) := by
  refine (membership reg true).bind fun found => ?_
  cases found with
  | ok m => exact hf m
  | error why => exact (see _).bind fun _ => pure _

lemma send (m : Member) (detail : Event.Detail) :
    Mindful (Report.send m detail : Act ρ ε Disposition) :=
  (stackFor m.filament).bind fun _ => (observerOf m.filament).bind fun o => report o _ _

lemma settleLevel (s : Sink) : Mindful (s.settleLevel : Act ρ ε Unit) := by
  refine level.bind fun l => ?_
  split
  · refine (membership s.registry false).bind fun found => ?_
    cases found with
    | ok m =>
      exact (observerOf m.filament).bind fun o => (report o _ _).bind fun _ => lowerLevel _
    | error why => exact lowerLevel _
  · exact pure ()

lemma apply (s : Sink) (v : Verdict) : Mindful (s.apply v : Act ρ ε Disposition) := by
  cases v with
  | proceed => exact pure _
  | breakIn => exact pure _
  | raise e => exact (settleLevel s).bind fun _ => unwind _

lemma requiring (s : Sink) (method : String) (required : UInt32)
    {m : Act ρ ε (Except SinkError α)} (hm : Mindful m) :
    Mindful (s.requiring method required m) := by
  rw [Sink.requiring]
  split
  · exact pure _
  · exact hm

lemma assertion (s : Sink) (site : Site) (expression : String) :
    Mindful (s.assertion site expression : Act ρ ε Disposition) :=
  (asMember s.registry fun m => (send m _).bind fun _ => pure _).bind (apply s)

lemma perform (s : Sink) (call : Sink.Call α) : Mindful (s.perform call : Act ρ ε α) := by
  have hmessage (m : Member) (detail : Event.Detail) (v : Verdict) :
      Mindful (do let _ ← Report.send m detail; return v : Act ρ ε Verdict) :=
    (send m detail).bind fun _ => pure _
  have hignored {m : Act ρ ε Verdict} (hm : Mindful m) :
      Mindful (do let _ ← s.apply (← m) : Act ρ ε Unit) :=
    hm.bind fun v => (apply s v).bind fun _ => pure _
  cases call with
  | assertion site expression => exact assertion s site expression
  | comparison expected actual site expression =>
    refine bind ?_ (apply s)
    rw [Report.comparison]
    split
    · exact pure _
    · exact asMember s.registry fun m => (send m _).bind fun _ => pure _
  | inconclusiveness message => exact hignored (asMember s.registry fun m => hmessage m _ _)
  | log message => exact hignored (asMember s.registry fun m => hmessage m _ _)
  | formattedAssertion site message =>
    exact requiring s _ _ ((assertion s site message).bind fun _ => pure _)
  | failure =>
    exact requiring s _ _ ((asMember s.registry fun _ => pure _).bind fun v =>
      (apply s v).bind fun _ => pure _)
  | value tag =>
    refine requiring s _ _ (bind (bind (membership s.registry false) fun found => ?_) fun _ =>
      pure _)
    cases found with
    | ok m => exact (see _).bind fun _ => pure _
    | error why => exact pure _
  | setValue tag v =>
    refine requiring s _ _ (bind (bind (membership s.registry false) fun found => ?_) fun _ =>
      pure _)
    cases found with
    | ok m =>
      exact (changeFilament m.filament fun _ => by cases tag <;> exact ⟨rfl, rfl⟩).bind fun _ =>
        pure _
    | error why => exact pure _
  | startThread =>
    refine requiring s _ _ ((start s.registry).bind fun started => ?_)
    cases started <;> exact pure _

/-! ### Calls -/

lemma restoreLevel (channel : ObserverId) (entry : Irql) :
    Mindful (Driver.restoreLevel channel entry : Act ρ ε Unit) := by
  refine level.bind fun exit => ?_
  split
  · exact (tell channel (.queue _)).bind fun _ => changeThread _
  · exact pure ()

lemma goOn (payload : Option Payload) : Mindful (Boundary.goOn payload : Act ρ ε Unit) := by
  cases payload with
  | none => exact pure ()
  | some p => exact unwind p

variable {exec : Routines ρ ε}

lemma turn (hothers : Mindful exec.others) : Mindful exec.turn :=
  hothers.attempt.bind fun _ => pure ()

lemma callProtected {routine : ρ} (hexec : Mindful (exec routine)) (hothers : Mindful exec.others)
    (reg : RegistryId) (limit : Duration) (channel : ObserverId) (value : UInt64) :
    Mindful (Driver.callProtected exec reg limit routine channel value) := by
  refine (newFilament channel {}).bind fun f =>
    (changeFilament (g := (·.setValue .ordinary value)) f fun _ => ⟨rfl, rfl⟩).bind fun _ =>
      (attach reg f).bind fun attached => ?_
  cases attached with
  | error why => exact pure _
  | ok u =>
    exact (identityIn f).bind fun i => level.bind fun entry => (guard f i hexec).bind fun caught =>
      (turn hothers).bind fun _ => (restoreLevel channel entry).bind fun _ =>
      (turn hothers).bind fun _ => (settle f i limit _).bind fun _ =>
      (seeFilament f _ _).bind fun _ => (detach reg).bind fun _ => (goOn _).bind fun _ => pure _

lemma modify (c : ConnectionId) (f : Connection ρ → Connection ρ) :
    Mindful (Driver.modify c f : Act ρ ε Unit) := fun _ =>
  ⟨_, _, rfl, .of_roster rfl (Nat.le_refl _) rfl (.refl _)⟩

lemma call (hexec : ∀ routine, Mindful (exec routine)) (hothers : Mindful exec.others)
    (c : ConnectionId) (fixture routine : UInt16) (channel : ObserverId) (value : UInt64) :
    Mindful (Driver.call exec c fixture routine channel value) := by
  refine (modify c _).bind fun _ => ensuring ?_ (modify c _)
  refine (see _).bind fun found => ?_
  cases found with
  | none => exact pure _
  | some k =>
    dsimp only
    split
    · exact pure _
    · cases k.routines.routine? fixture routine with
      | none => exact pure _
      | some r => exact callProtected (hexec r) hothers k.registry k.joinLimit channel value

end Mindful

/-- Whatever a routine is made of, it ends, and minds what was there before. -/
theorem Body.mindful {m : Act ρ ε α} (hm : Body m) : Mindful m := by
  induction hm with
  | pure a => exact .pure a
  | bind _ _ ihm ihk => exact ihm.bind ihk
  | attempt _ ih => exact ih.attempt
  | unwind payload => exact .unwind payload
  | panicking text => exact .panicking text
  | store f => exact .onStore f
  | level => exact .level
  | raise l => exact .raiseLevel l
  | lower l => exact .lowerLevel l
  | sink s call => exact .perform s call
  | asThread t _ ih => exact ih.asThread t
  | newThread => exact .newThread
  | endThread t => exact .endThread t
  | enter f => exact .enter f
  | conclude k before result => exact .conclude k before result
  | call _ _ c fixture routine channel value ih ihothers =>
    exact .call ih ihothers c fixture routine channel value

end World

end Testbench
