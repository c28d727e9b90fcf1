import Testbench.Proofs.Flow
import Testbench.Proofs.Pool
import Testbench.World

/-!
# What is done in the world

Everything that a thread does in the world is, in the end, a look at one of its parts or a change of
it.  The equations here say so for the operations that go through others: a spin lock takes the level
of the running thread up and down again, and the thread comes out of it as it went in, whatever was
done under the lock to other parts of the world.
-/

namespace Testbench.World

variable {ρ ε α β : Type} {w : World ρ ε}

lemma ends_at {m : Act ρ ε α} {r : Except Stop α} (h : (m w).1 = r) : m w = (r, (m w).2) :=
  Prod.ext h rfl

/-- To see how something ends it is not needed to see where. -/
lemma ends_so {m : Act ρ ε α} {r : Except Stop α} (h : (m w).1 = r) : ∃ w', m w = (r, w') :=
  ⟨(m w).2, ends_at h⟩

/-- The running thread is at passive level. -/
def Passive (w : World ρ ε) : Prop := ∃ t, w.threads.get? w.current = some t ∧ t.level = .passive

lemma level_eq (hw : w.Passive) : level w = (.ok .passive, w) := by
  obtain ⟨t, ht, hlevel⟩ := hw
  rw [level, seeThread, Flow.see_apply, ht, ← hlevel]
  rfl

/-- What the running thread has of its own. -/
def running (w : World ρ ε) : Thread := (w.threads.get? w.current).getD {}

/-- A new thread has a number that nobody had before. -/
lemma newThread_ok {t : ThreadId} {w' : World ρ ε} (h : newThread w = (.ok t, w')) :
    t = w.threads.items.size ∧ w'.threads.items.size = w.threads.items.size + 1 ∧
      w'.roster = w.roster := by
  obtain ⟨ht, rfl⟩ := Prod.mk.inj h
  exact ⟨(Except.ok.inj ht).symm, Array.size_push _, rfl⟩

lemma asThread_ok {t : ThreadId} {m : Act ρ ε α} {a : α} {w' : World ρ ε}
    (h : m { w with current := t } = (.ok a, w')) :
    asThread t m w = (.ok a, { w' with current := w.current }) := by
  rw [asThread, self, Flow.bind_ok (Flow.see_apply _ w), Flow.bind_ok (Flow.change_apply _ w)]
  exact Flow.ensuring_ok h (Flow.change_apply _ w')

/-! ### Panics -/

/-- The world after a panic, which leaves its stack behind where that is wanted. -/
def panicked (w : World ρ ε) : World ρ ε :=
  if w.running.keepsPanicStack then
    { w with threads := w.threads.modify w.current fun t =>
      { t with panicStack := some (.capture w.callStack StackTrace.maxFrames) } }
  else w

lemma panicking_apply (text : Option String) (w : World ρ ε) :
    (panicking text : Act ρ ε α) w = (.error (.unwound (.panic text)), w.panicked) := by
  have hswitch : seeThread Thread.keepsPanicStack w = (.ok w.running.keepsPanicStack, w) := rfl
  rw [panicking, Flow.bind_ok hswitch, panicked]
  split <;> rfl

/-- Nothing comes after a panic. -/
lemma panicking_bind (text : Option String) (k : α → Act ρ ε β) :
    panicking text >>= k = panicking text := by
  funext w
  rw [Flow.bind_error (panicking_apply text w), panicking_apply]

/-! ### Spin locks -/

/-- Going up from a level and back to it leads there. -/
lemma lowered_raised (l m : Irql) : Irql.lowered (.raised l m) l = l := by
  rw [Irql.lowered, Irql.raised]
  by_cases h : m < l
  · rw [if_pos h, ite_self]
  · rw [if_neg h, if_neg h]

/-- What is done under a spin lock and has nothing to do with threads is done as without it. -/
lemma underSpinLock_eq {f : World ρ ε → α × World ρ ε}
    (hcurrent : ∀ w, (f w).2.current = w.current)
    (hthreads : ∀ w ts, f { w with threads := ts } = ((f w).1, { (f w).2 with threads := ts }))
    (w : World ρ ε) :
    underSpinLock (Flow.step f) w = (.ok (f w).1, { (f w).2 with threads := w.threads }) := by
  let previous := ((w.threads.get? w.current).getD {}).level
  let up : Thread → Thread := fun t => { t with level := .raised previous .synch }
  let w₁ : World ρ ε := { w with threads := w.threads.modify w.current up }
  have hraised : raiseLevel .synch w = (.ok previous, w₁) := rfl
  have hdone : Flow.step f w₁ = (.ok (f w).1, { (f w).2 with threads := w₁.threads }) := by
    rw [Flow.step_apply, hthreads]
  let w₂ : World ρ ε := { (f w).2 with threads := w₁.threads }
  let down : Thread → Thread := fun t => { t with
    level := .lowered ((w₂.threads.get? w₂.current).getD {}).level previous }
  have hlowered : lowerLevel previous w₂
      = (.ok (), { w₂ with threads := w₂.threads.modify w₂.current down }) := rfl
  rw [underSpinLock, Flow.bind_ok hraised, Flow.ensuring_ok hdone hlowered]
  refine Prod.ext rfl (congrArg (fun ts => { (f w).2 with threads := ts }) ?_)
  simp only [w₂, w₁]
  rw [hcurrent, Pool.modify_modify]
  -- the level goes up and down again, and everything else about the thread stays
  refine Pool.modify_eq_self fun t ht => ?_
  have hprevious : previous = t.level := by simp only [previous, ht, Option.getD_some]
  have hup : (w₂.threads.get? w₂.current).getD {} = up t := by
    simp only [w₂, w₁]
    rw [hcurrent, Pool.get?_modify_self up ht, Option.getD_some]
  simp only [down, up, hup, hprevious, lowered_raised]

lemma onDevice_eq (w : World ρ ε) (f : Device ρ → α × Device ρ) :
    onDevice f w = (.ok (f w.device).1, { w with device := (f w.device).2 }) := by
  rw [onDevice, underSpinLock_eq (fun _ => rfl) (fun _ _ => rfl)]

lemma changeDevice_eq (w : World ρ ε) (f : Device ρ → Device ρ) :
    changeDevice f w = (.ok (), { w with device := f w.device }) := onDevice_eq w _

/-- What is done with a registry changes nothing but the roster. -/
lemma withRegistry_eq (w : World ρ ε) (reg : RegistryId) (f : Roster → α × Roster) :
    withRegistry reg (onRoster f) w = (.ok (f w.roster).1, { w with roster := (f w.roster).2 }) := by
  rw [withRegistry, seeRoster, Flow.bind_ok (Flow.see_apply _ w)]
  split
  · rw [onRoster, underSpinLock_eq (fun _ => rfl) (fun _ _ => rfl)]
  · rfl

/-! ### Observers and filaments -/

/-- The name that the next filament gets. -/
def nextFilament (w : World ρ ε) : FilamentId := w.roster.filaments.items.size

/-- The world after an observer changed. -/
def observing (w : World ρ ε) (o : ObserverId) (x : Observer) : World ρ ε :=
  { w with observers := w.observers.modify o fun _ => x }

lemma Passive.observing (hw : w.Passive) (o : ObserverId) (x : Observer) :
    (w.observing o x).Passive := hw

lemma observing_observing (w : World ρ ε) (o : ObserverId) (x y : Observer) :
    (w.observing o x).observing o y = w.observing o y := by
  rw [observing, observing, Pool.modify_modify]
  rfl

lemma observing_observer {o : ObserverId} {x : Observer} (h : w.observers.get? o = some x)
    (y : Observer) : (w.observing o y).observers.get? o = some y := Pool.get?_modify_self _ h

lemma tell_eq {o : ObserverId} {x : Observer} (h : w.observers.get? o = some x) (fallback : α)
    (f : Observer → α × Observer) :
    tell o fallback f w = (.ok (f x).1, w.observing o (f x).2) := by
  rw [tell, Flow.step_apply, Pool.update_eq fallback f h]
  rfl

/-- Whether or not there is such an observer, nothing else changes. -/
lemma tell_modify (o : ObserverId) (fallback : α) (f : Observer → α × Observer) (w : World ρ ε) :
    ∃ a, tell o fallback f w
      = (.ok a, { w with observers := w.observers.modify o fun x => (f x).2 }) := by
  refine ⟨_, Prod.ext rfl ?_⟩
  rw [tell, Flow.step_apply, ← Pool.update_snd w.observers o fallback f]

lemma seeFilament_eq {f : FilamentId} {x : Filament} (h : w.roster.filaments.get? f = some x)
    (fallback : α) (g : Filament → α) : seeFilament f fallback g w = (.ok (g x), w) := by
  rw [seeFilament, seeRoster, Flow.see_apply, h]

lemma observerOf_eq {f : FilamentId} {x : Filament} (h : w.roster.filaments.get? f = some x) :
    observerOf f w = (.ok x.observer, w) := seeFilament_eq h 0 _

lemma identityIn_eq {f : FilamentId} {x : Filament} (h : w.roster.filaments.get? f = some x) :
    identityIn f w = (.ok ⟨x.mainThread, w.current⟩, w) := by
  have hself : self w = (.ok w.current, w) := rfl
  rw [identityIn, Flow.bind_ok hself, seeFilament_eq h]
  rfl

lemma stackFor_eq {f : FilamentId} {x : Filament} (h : w.roster.filaments.get? f = some x)
    (hx : x.flags.capturesStacks = false) : stackFor f w = (.ok none, w) := by
  rw [stackFor, Flow.bind_ok (seeFilament_eq h _ _), hx]
  rfl

/-! ### What leaves the roster alone -/

/-- Whatever happened, it did not touch the roster, and the same thread runs. -/
structure Quiet (w w' : World ρ ε) : Prop where
  roster : w'.roster = w.roster
  current : w'.current = w.current
  threads : w'.threads.items.size = w.threads.items.size

lemma Quiet.refl (w : World ρ ε) : Quiet w w := ⟨rfl, rfl, rfl⟩

lemma Quiet.trans {w₁ w₂ w₃ : World ρ ε} (h : Quiet w₁ w₂) (h' : Quiet w₂ w₃) : Quiet w₁ w₃ :=
  ⟨h'.roster.trans h.roster, h'.current.trans h.current, h'.threads.trans h.threads⟩

/-- A panic leaves nothing behind but a stack. -/
lemma quiet_panicked (w : World ρ ε) : Quiet w w.panicked := by
  rw [panicked]
  split
  · exact ⟨rfl, rfl, Array.size_modify⟩
  · exact .refl w

lemma panicked_observers (w : World ρ ε) : w.panicked.observers = w.observers := by
  rw [panicked]
  split <;> rfl

lemma panicked_store (w : World ρ ε) : w.panicked.store = w.store := by
  rw [panicked]
  split <;> rfl

/-- Something that returns and does not touch the roster. -/
def Quietly (m : Act ρ ε α) : Prop := ∀ w, ∃ a w', m w = (.ok a, w') ∧ Quiet w w'

namespace Quietly

lemma pure (a : α) : Quietly (Pure.pure a : Act ρ ε α) := fun w => ⟨a, w, rfl, .refl w⟩

lemma bind {m : Act ρ ε α} {k : α → Act ρ ε β} (hm : Quietly m) (hk : ∀ a, Quietly (k a)) :
    Quietly (m >>= k) := by
  intro w
  obtain ⟨a, w₁, h₁, hquiet₁⟩ := hm w
  obtain ⟨b, w₂, h₂, hquiet₂⟩ := hk a w₁
  exact ⟨b, w₂, (Flow.bind_ok h₁).trans h₂, hquiet₁.trans hquiet₂⟩

lemma see (g : World ρ ε → α) : Quietly (Flow.see g) := fun w => ⟨g w, w, rfl, .refl w⟩

lemma changeThread (g : Thread → Thread) : Quietly (World.changeThread g : Act ρ ε Unit) :=
  fun _ => ⟨(), _, rfl, rfl, rfl, Array.size_modify⟩

lemma tell (o : ObserverId) (fallback : α) (g : Observer → α × Observer) :
    Quietly (World.tell o fallback g : Act ρ ε α) := fun _ => ⟨_, _, rfl, rfl, rfl, rfl⟩

lemma stackFor (f : FilamentId) : Quietly (World.stackFor f : Act ρ ε (Option StackTrace)) := by
  refine (see _).bind fun captures => ?_
  cases captures
  · exact pure none
  · exact (see _).bind fun _ => pure _

end Quietly

end Testbench.World
