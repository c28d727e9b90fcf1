import Testbench.Proofs.Repeat.Books
import Testbench.Proofs.Repeat.Rosters
import Testbench.Proofs.Run.Mirror
import Testbench.Proofs.Waits
import Testbench.Run.InWorld

/-!
# Worlds that are twins

Two worlds are twins if the running thread sees the same in both rosters, and if the observer of a
run keeps books in both, which in one of them go on where they were.  If the routines of a fixture
return the same in twins and leave twins behind, then so does its run: it makes filaments, binds the
thread to them, calls routines and reports, and takes everything back.

What a routine may go by is thus the registries, as far as its thread sees them, and the answers of
the observer.
-/

namespace Testbench

open Testbench.Flow World

variable {ρ ε α β : Type}

namespace World

/-- Two worlds in which an observer keeps books, and whose rosters are in `R` for the running
thread. What the routines keep is in `I`. -/
structure Twins (o : ObserverId) (I : ε → Prop) (before : Recorder.Entries)
    (R : ThreadId → Roster → Roster → Prop) (x y : World ρ ε) : Prop where
  orderly_left : Guests.Orderly x
  orderly_right : Guests.Orderly y
  current_eq : y.current = x.current
  roster : R x.current x.roster y.roster
  store_left : I x.store
  store_right : I y.store
  books : ∃ r s, x.observers.get? o = some (.recorder r) ∧
    y.observers.get? o = some (.recorder s) ∧ Recorder.GoesOn before r s

variable {o : ObserverId} {I : ε → Prop} {before : Recorder.Entries}
  {R R' : ThreadId → Roster → Roster → Prop} {f g : FilamentId} {reg : RegistryId}

lemma Twins.mono {x y : World ρ ε} (h : Twins o I before R x y)
    (hR : R x.current x.roster y.roster → R' x.current x.roster y.roster) :
    Twins o I before R' x y :=
  { h with roster := hR h.roster }

/-! ### Threads and observers -/

/-- Something that returns and changes nothing. -/
def Looks (m : Act ρ ε α) : Prop := ∀ w, ∃ a, m w = (.ok a, w)

lemma looks_pure (a : α) : Looks (pure a : Act ρ ε α) := fun _ => ⟨a, rfl⟩

lemma looks_see (k : World ρ ε → α) : Looks (see k) := fun w => ⟨k w, rfl⟩

lemma looks_stackFor (f : FilamentId) : Looks (stackFor f : Act ρ ε (Option StackTrace)) := by
  intro w
  obtain ⟨captures, hcaptures⟩ : ∃ captures,
      seeFilament f false (·.flags.capturesStacks) w = (.ok captures, w) := ⟨_, rfl⟩
  rw [stackFor, bind_ok hcaptures]
  cases captures <;> exact ⟨_, rfl⟩

lemma Looks.mirrors {m : Act ρ ε α} {n : Act ρ ε β} (hm : Looks m) (hn : Looks n) :
    Mirrors (Twins o I before R) m n fun _ _ => Twins o I before R := by
  intro x y a x' hxy h
  obtain ⟨a', hx⟩ := hm x
  obtain ⟨b, hy⟩ := hn y
  rw [hx] at h
  cases h
  exact ⟨b, y, hy, hxy⟩

lemma follows_self :
    Follows (Twins o I before R) (self : Act ρ ε ThreadId) (self : Act ρ ε ThreadId) := by
  intro x y a x' hxy h
  cases h
  exact ⟨y.current, y, rfl, hxy.current_eq, hxy⟩

/-- What a thread has of its own is nothing to twins. -/
lemma mirrors_changeThread (k l : Thread → Thread) :
    Mirrors (Twins o I before R) (changeThread k : Act ρ ε Unit) (changeThread l : Act ρ ε Unit)
      fun _ _ => Twins o I before R := by
  intro x y a x' hxy h
  cases h
  have horderly {w : World ρ ε} (hw : Guests.Orderly w) (k : Thread → Thread) :
      Guests.Orderly { w with threads := w.threads.modify w.current k } := by
    have hsize : (w.threads.modify w.current k).items.size = w.threads.items.size :=
      Array.size_modify
    exact hw.of_registries (Nat.lt_of_lt_of_eq hw.current_lt hsize.symm) (Nat.le_of_eq hsize.symm)
      (Nat.le_refl _) rfl
  refine ⟨(), { y with threads := y.threads.modify y.current l }, rfl, ?_⟩
  exact ⟨horderly hxy.orderly_left k, horderly hxy.orderly_right l, hxy.current_eq, hxy.roster,
    hxy.store_left, hxy.store_right, hxy.books⟩

/-- What is told to recorders that go on as they were is told in twins. -/
lemma follows_tell {k l : Observer → α × Observer} (fallback : α)
    (hkl : ∀ r s, Recorder.GoesOn before r s → ∃ a r' s', k (.recorder r) = (a, .recorder r') ∧
      l (.recorder s) = (a, .recorder s') ∧ Recorder.GoesOn before r' s') :
    Follows (Twins o I before R) (tell o fallback k : Act ρ ε α) (tell o fallback l) := by
  intro x y a x' hxy h
  obtain ⟨r, s, hr, hs, hbooks⟩ := hxy.books
  obtain ⟨a', r', s', hk, hl, hbooks'⟩ := hkl r s hbooks
  rw [tell_eq hr, hk] at h
  cases h
  refine ⟨a', y.observing o (.recorder s'), by rw [tell_eq hs, hl], rfl, ?_⟩
  have horderly {w : World ρ ε} (hw : Guests.Orderly w) (z : Observer) :
      Guests.Orderly (w.observing o z) :=
    hw.of_registries hw.current_lt (Nat.le_refl _) (Nat.le_refl _) rfl
  exact ⟨horderly hxy.orderly_left _, horderly hxy.orderly_right _, hxy.current_eq, hxy.roster,
    hxy.store_left, hxy.store_right, r', s', observing_observer hr _, observing_observer hs _,
    hbooks'⟩

lemma follows_inform {k l : Observer → Observer}
    (hkl : ∀ r s, Recorder.GoesOn before r s → ∃ r' s', k (.recorder r) = .recorder r' ∧
      l (.recorder s) = .recorder s' ∧ Recorder.GoesOn before r' s') :
    Follows (Twins o I before R) (inform o k : Act ρ ε Unit) (inform o l) := by
  refine follows_tell () fun r s h => ?_
  obtain ⟨r', s', hk, hl, hbooks⟩ := hkl r s h
  exact ⟨(), r', s', by rw [hk], by rw [hl], hbooks⟩

lemma follows_report (i j : Identity) {e e' : Event} (he : e'.detail = e.detail) :
    Follows (Twins o I before R) (report o i e : Act ρ ε Disposition) (report o j e') := by
  obtain ⟨detail, stack⟩ := e
  obtain ⟨detail', stack'⟩ := e'
  obtain rfl : detail' = detail := he
  refine follows_tell Disposition.proceed fun r s h => ?_
  obtain ⟨hanswer, hbooks⟩ := h.report i j detail' stack stack'
  exact ⟨_, _, _, rfl, Prod.ext hanswer rfl, hbooks⟩

/-! ### Filaments -/

/-- A filament that is the same in both rosters looks the same. -/
lemma follows_seeFilament (hR : ∀ t r s, R t r s → s.filaments.get? g = r.filaments.get? f)
    (fallback : α) (k : Filament → α) :
    Follows (Twins o I before R) (seeFilament f fallback k : Act ρ ε α)
      (seeFilament g fallback k) := by
  intro x y a x' hxy h
  cases h
  refine ⟨_, y, rfl, ?_, hxy⟩
  dsimp only
  rw [hR _ _ _ hxy.roster]

/-- A wait that the clock cannot time does not return. -/
lemma follows_joinChildren (hR : ∀ t r s, R t r s → s.filaments.get? g = r.filaments.get? f)
    (limit : Duration) :
    Follows (Twins o I before R) (joinChildren f limit : Act ρ ε (Except FilamentError Unit))
      (joinChildren g limit) := by
  by_cases hlimit : limit.Timed
  · rw [joinChildren_timed hlimit, joinChildren_timed hlimit]
    exact follows_seeFilament hR _ _
  · intro x y a x' _ h
    rw [joinChildren_untimed hlimit, panicking_apply] at h
    cases h

lemma follows_identityIn (hR : ∀ t r s, R t r s → s.filaments.get? g = r.filaments.get? f) :
    Follows (Twins o I before R) (identityIn f : Act ρ ε Identity) (identityIn g) :=
  Follows.bind follows_self fun _ => follows_seeFilament hR _ _

/-- In rosters that are in `R`, a filament is the same, and it reports to `o`. -/
structure Shares (o : ObserverId) (f g : FilamentId) (R : ThreadId → Roster → Roster → Prop) :
    Prop where
  filament_eq : ∀ t r s, R t r s → s.filaments.get? g = r.filaments.get? f
  observer_eq : ∀ t r s, R t r s → ∃ x, r.filaments.get? f = some x ∧ x.observer = o

/-- What is done with the observer of a filament that reports to `o` is done with `o`. -/
lemma mirrors_observerOf (hR : Shares o f g R) {k : ObserverId → Act ρ ε α}
    {l : ObserverId → Act ρ ε β} {Q : α → β → World ρ ε → World ρ ε → Prop}
    (hkl : Mirrors (Twins o I before R) (k o) (l o) Q) :
    Mirrors (Twins o I before R) (observerOf f >>= k) (observerOf g >>= l) Q := by
  intro x y a x' hxy h
  obtain ⟨z, hz, rfl⟩ := hR.observer_eq _ _ _ hxy.roster
  have hz' := (hR.filament_eq _ _ _ hxy.roster).trans hz
  rw [bind_ok (observerOf_eq hz)] at h
  rw [bind_ok (observerOf_eq hz')]
  exact hkl x y a x' hxy h

end World

/-! ### Calls -/

/-- The next filament is not in use. -/
lemma Guests.Orderly.unseen {w : World ρ ε} (h : Guests.Orderly w) :
    w.roster.Unseen w.current w.nextFilament where
  lacks i hi := by
    cases i with
    | own reg =>
      obtain ⟨b, hb, hfilament⟩ := Option.map_eq_some_iff.mp hi
      have hlt := h.filament_lt reg b (List.mem_of_find?_eq_some hb)
      exact Nat.ne_of_lt hlt hfilament
    | default reg => exact Nat.lt_irrefl _ (h.default_lt reg _ hi)
  bound_eq reg := by
    refine List.countP_eq_zero.mpr fun b hb heq => ?_
    exact Nat.ne_of_lt (h.filament_lt reg b hb) (of_decide_eq_true heq)

namespace Roster

/-- In twins, the thread is called in two filaments. It is their main thread, and they report to
`o`. -/
structure CalledIn (o : ObserverId) (reg : RegistryId) (v v' : View) (f g : FilamentId)
    (t : ThreadId) (r s : Roster) : Prop where
  twins : Twins t v v' r s
  seat_left : v.seat reg = some ⟨t, f, true⟩
  seat_right : v'.seat reg = some ⟨t, g, true⟩
  filament : ∃ x, r.filaments.get? f = some x ∧ x.observer = o ∧ x.mainThread = t

/-- In twins, a filament was made for a call. -/
structure Begun (o : ObserverId) (flags : FilamentFlags) (v v' : View) (f g : FilamentId)
    (t : ThreadId) (r s : Roster) : Prop where
  twins : Twins t v v' r s
  unseen_left : r.Unseen t f
  unseen_right : s.Unseen t g
  filament_left : r.filaments.get? f = some ⟨o, t, flags, 0, 0, 0, .completed⟩
  filament_right : s.filaments.get? g = some ⟨o, t, flags, 0, 0, 0, .completed⟩

/-- In twins, the thread is called in two filaments that nobody saw before. -/
structure InCall (o : ObserverId) (reg : RegistryId) (v v' : View) (f g : FilamentId)
    (t : ThreadId) (r s : Roster) : Prop where
  matching : v.Matches v'
  lacks_left : v.Lacks f
  lacks_right : v'.Lacks g
  free : v.seat reg = none
  called : CalledIn o reg (v.seating reg ⟨t, f, true⟩) (v'.seating reg ⟨t, g, true⟩) f g t r s

variable {o : ObserverId} {reg : RegistryId} {v v' : View} {f g : FilamentId} {t : ThreadId}
  {r s : Roster}

lemma CalledIn.filament_eq (h : CalledIn o reg v v' f g t r s) :
    s.filaments.get? g = r.filaments.get? f := by
  refine h.twins.filament_eq (.own reg) f g ?_ ?_
  · rw [View.post, h.seat_left, Option.map_some]
  · rw [View.post, h.seat_right, Option.map_some]

end Roster

namespace World

variable {o : ObserverId} {I : ε → Prop} {before : Recorder.Entries} {v v' : View}
  {f g : FilamentId} {flags : FilamentFlags} {reg : RegistryId}

/-- The filaments that the thread is called in are the same. -/
lemma shares_calledIn : Shares o f g (Roster.CalledIn o reg v v' f g) where
  filament_eq _ _ _ h := h.filament_eq
  observer_eq _ _ _ h := by
    obtain ⟨x, hx, ho, -⟩ := h.filament
    exact ⟨x, hx, ho⟩

/-- A routine of which the thread is called in a registry does the same, and comes out the same, in
whatever twins it is called; and it leaves what its thread sees as it was. -/
def Repeats (o : ObserverId) (I : ε → Prop) (reg : RegistryId) (m : Act ρ ε α) : Prop :=
  ∀ before v v' f g, Follows (Twins o I before (Roster.CalledIn o reg v v' f g)) m.attempt m.attempt

lemma Repeats.follows {m : Act ρ ε α} (hm : Repeats o I reg m) :
    Follows (Twins o I before (Roster.InCall o reg v v' f g)) m.attempt m.attempt := by
  intro x y result x' hxy hrun
  obtain ⟨hmatching, hf, hg, hfree, hcalled⟩ := hxy.roster
  obtain ⟨_, y', hrun', rfl, hxy'⟩ :=
    hm before _ _ f g x y result x' (hxy.mono fun _ => hcalled) hrun
  refine ⟨_, y', hrun', rfl, hxy'.mono fun hcalled' => ⟨hmatching, hf, hg, hfree, ?_⟩⟩
  -- it is still the same thread that runs
  have hcurrent : x'.current = x.current :=
    (congrArg View.thread hcalled'.twins.view_left).trans
      (congrArg View.thread hcalled.twins.view_left).symm
  exact hcurrent ▸ hcalled'

lemma mirrors_newFilament (o' : ObserverId) :
    Mirrors (Twins o I before fun t => Roster.Twins t v v')
      (newFilament o' flags : Act ρ ε FilamentId) (newFilament o' flags)
      fun f g => Twins o I before (Roster.Begun o' flags v v' f g) := by
  intro x y f x' hxy h
  cases h
  have horderly {w : World ρ ε} (hw : Guests.Orderly w) :
      Guests.Orderly { w with roster := (w.roster.newFilament o' flags w.current).2 } :=
    hw.of_registries hw.current_lt (Nat.le_refl _)
      (Nat.le_of_lt (Array.size_push _ ▸ Nat.lt_succ_self _)) rfl
  have hunseen {w : World ρ ε} (hw : Guests.Orderly w) :
      (w.roster.newFilament o' flags w.current).2.Unseen w.current w.nextFilament :=
    ⟨hw.unseen.lacks, hw.unseen.bound_eq⟩
  refine ⟨y.nextFilament, _, rfl, horderly hxy.orderly_left, horderly hxy.orderly_right,
    hxy.current_eq, ?_, hxy.store_left, hxy.store_right, hxy.books⟩
  have hright := hxy.orderly_right.unseen
  have hunseen' := hunseen hxy.orderly_right
  rw [hxy.current_eq] at hright hunseen'
  constructor
  · have htwins := hxy.roster.newFilament hxy.orderly_left.unseen hright o' flags x.current
    rwa [hxy.current_eq]
  · exact hunseen hxy.orderly_left
  · rwa [hxy.current_eq]
  · exact Pool.get?_add_self ..
  · rw [hxy.current_eq]
    exact Pool.get?_add_self ..

lemma attach_apply (w : World ρ ε) (reg : RegistryId) (f : FilamentId) :
    attach reg f w = (.ok (w.roster.attach reg ⟨w.current, f, true⟩).1,
      { w with roster := (w.roster.attach reg ⟨w.current, f, true⟩).2 }) := withRegistry_eq w reg _

lemma detach_apply (w : World ρ ε) (reg : RegistryId) :
    detach reg w = (.ok (), { w with roster := w.roster.detach reg w.current }) :=
  withRegistry_eq w reg _

lemma mirrors_attach :
    Mirrors (Twins o I before (Roster.Begun o flags v v' f g))
      (attach reg f : Act ρ ε (Except FilamentError Unit)) (attach reg g)
      fun a b x y => b = a ∧ match a with
        | .ok () => Twins o I before (Roster.InCall o reg v v' f g) x y
        | .error _ => Twins o I before (fun t => Roster.Twins t v v') x y := by
  intro x y a x' hxy h
  obtain ⟨htwins, hf, hg, hx, hy⟩ := hxy.roster
  have hmain : x.roster.mainThread? f = some x.current := Roster.mainThread?_eq hx
  have hmain' : y.roster.mainThread? g = some x.current := Roster.mainThread?_eq hy
  have hlt {w : World ρ ε} {k : FilamentId} {z : Filament}
      (hz : w.roster.filaments.get? k = some z) : k < w.roster.filaments.items.size :=
    (Array.getElem?_eq_some_iff.mp hz).1
  have horderly := hxy.orderly_left.attach reg (b := ⟨x.current, f, true⟩)
    hxy.orderly_left.current_lt (hlt hx)
  have horderly' := hxy.orderly_right.attach reg (b := ⟨y.current, g, true⟩)
    hxy.orderly_right.current_lt (hlt hy)
  have hanswer := htwins.attach_fst hmain hmain' reg
  refine ⟨_, _, attach_apply y reg g, ?_⟩
  rw [attach_apply] at h
  obtain ⟨ha, rfl⟩ := Prod.mk.inj h
  obtain rfl := Except.ok.inj ha
  have hthread : y.roster.attach reg ⟨y.current, g, true⟩
      = y.roster.attach reg ⟨x.current, g, true⟩ := by rw [hxy.current_eq]
  rw [hthread] at horderly' ⊢
  refine ⟨hanswer, ?_⟩
  rcases hattach : x.roster.attach reg ⟨x.current, f, true⟩ with ⟨why | ⟨⟩, r⟩ <;>
    rcases hattach' : y.roster.attach reg ⟨x.current, g, true⟩ with ⟨why' | ⟨⟩, s⟩ <;>
    simp only [hattach, hattach'] at hanswer horderly horderly' ⊢
  · rw [Accounts.attach_error_eq hattach, Accounts.attach_error_eq hattach']
    have hsame : Twins o I before (fun t => Roster.Twins t v v') x y := hxy.mono fun h => h.twins
    exact hsame
  · cases hanswer
  · cases hanswer
  · refine ⟨horderly, horderly', hxy.current_eq, ?_, hxy.store_left, hxy.store_right, hxy.books⟩
    have hseated := htwins.attach hf hg hmain (hy.trans hx.symm) (hxy.orderly_left.fits reg)
      (hxy.orderly_right.fits reg) hattach hattach'
    have hfree : v.seat reg = none := by
      have hthread := (Guests.attach_ok hattach).free
      rw [← htwins.view_left]
      exact ThreadTable.lookup?_eq_none_iff.mpr fun b hb heq =>
        hthread (List.mem_map.mpr ⟨b, hb, heq⟩)
    have hfilaments := Roster.attach_of_main_filaments (b := ⟨x.current, f, true⟩) hmain hattach
    exact ⟨htwins.matching, htwins.view_left ▸ hf.lacks, htwins.view_right ▸ hg.lacks, hfree,
      hseated, Function.update_self .., Function.update_self .., _, hfilaments ▸ hx, rfl, rfl⟩

lemma mirrors_detach :
    Mirrors (Twins o I before (Roster.InCall o reg v v' f g))
      (detach reg : Act ρ ε Unit) (detach reg)
      fun _ _ => Twins o I before fun t => Roster.Twins t v v' := by
  intro x y a x' hxy h
  obtain ⟨hmatching, hf, hg, hfree, hcalled⟩ := hxy.roster
  obtain ⟨z, hz, -, hmain⟩ := hcalled.filament
  rw [detach_apply] at h
  cases h
  refine ⟨(), _, detach_apply y reg, hxy.orderly_left.detach reg _, hxy.orderly_right.detach reg _,
    hxy.current_eq, ?_, hxy.store_left, hxy.store_right, hxy.books⟩
  have hmain' : x.roster.mainThread? f = some x.current :=
    (Roster.mainThread?_eq hz).trans (congrArg some hmain)
  dsimp only
  rw [hxy.current_eq]
  exact hcalled.twins.detach hmatching hf hg hfree hmain' (hxy.orderly_left.fits reg)
    (hxy.orderly_right.fits reg)

end World

/-! ### Boundaries -/

namespace Boundary

variable {o : ObserverId} {I : ε → Prop} {before : Recorder.Entries}
  {R : ThreadId → Roster → Roster → Prop} {f g : FilamentId}

lemma mirrors_enter (f g : FilamentId) :
    Mirrors (Twins o I before R) (enter f : Act ρ ε Bool) (enter g)
      fun _ _ => Twins o I before R :=
  ((looks_see _).mirrors (looks_see _)).bind fun _ _ =>
    ((looks_see _).mirrors (looks_see _)).bind fun _ _ =>
      (mirrors_changeThread _ _).bind fun _ _ => mirrors_pure fun _ _ h => h

lemma follows_reportPanic (hR : Shares o f g R) (i : Identity) (text : Option String)
    (left left' : Option StackTrace) :
    Follows (Twins o I before R) (reportPanic f i text left : Act ρ ε Disposition)
      (reportPanic g i text left') := by
  have htell (stack stack' : Option StackTrace) : Follows (Twins o I before R)
      (do
        let o ← observerOf f
        inform o (·.unhandledException (panicMessage text))
        report o i ⟨.uncaughtException (panicMessage text), stack⟩ : Act ρ ε Disposition)
      (do
        let o ← observerOf g
        inform o (·.unhandledException (panicMessage text))
        report o i ⟨.uncaughtException (panicMessage text), stack'⟩) := by
    refine mirrors_observerOf hR (Follows.bind (follows_inform fun r s hbooks => ?_) fun _ =>
      follows_report i i rfl)
    exact ⟨_, _, rfl, rfl, hbooks.unhandledException _⟩
  -- the stack that goes with the event may be another one
  cases left with
  | none =>
    cases left' with
    | none => exact ((looks_stackFor f).mirrors (looks_stackFor g)).bind htell
    | some stack' => exact ((looks_stackFor f).mirrors (looks_pure (some stack'))).bind htell
  | some stack =>
    cases left' with
    | none => exact ((looks_pure (some stack)).mirrors (looks_stackFor g)).bind htell
    | some stack' => exact htell (some stack) (some stack')

lemma follows_leave (hR : Shares o f g R) (i : Identity) (kept kept' : Bool)
    (result : Except Payload Unit) :
    Follows (Twins o I before R) (leave f i kept result : Act ρ ε Caught)
      (leave g i kept' result) := by
  refine ((looks_see _).mirrors (looks_see _)).bind fun left left' =>
    (mirrors_changeThread _ _).bind fun _ _ => ?_
  rcases result with (s | text) | u
  · exact follows_pure _
  · exact Follows.bind (follows_reportPanic hR i text left left') fun _ => follows_pure _
  · exact follows_pure _

lemma follows_settle (hR : Shares o f g R) (i : Identity) (limit : Duration) (outcome : Outcome) :
    Follows (Twins o I before R) (settle f i limit outcome : Act ρ ε Outcome)
      (settle g i limit outcome) := by
  refine Follows.bind (follows_joinChildren hR.filament_eq limit) fun joined => ?_
  cases joined with
  | ok u =>
    exact Follows.bind (follows_pure outcome) fun _ =>
      Follows.bind (follows_seeFilament hR.filament_eq _ _) fun _ => follows_pure _
  | error why =>
    refine mirrors_observerOf hR (Follows.bind (follows_report i i rfl) fun _ => ?_)
    exact Follows.bind (follows_pure _) fun _ =>
      Follows.bind (follows_seeFilament hR.filament_eq _ _) fun _ => follows_pure _

lemma follows_guard {m : Act ρ ε Unit} (hR : Shares o f g R)
    (hm : Follows (Twins o I before R) m.attempt m.attempt) (i : Identity) :
    Follows (Twins o I before R) (guard f i m) (guard g i m) :=
  (mirrors_enter f g).bind fun kept kept' => Follows.bind hm fun result =>
    follows_leave hR i kept kept' result

lemma follows_goOn (payload : Option Payload) :
    Follows (Twins o I before R) (goOn payload : Act ρ ε Unit) (goOn payload) := by
  cases payload with
  | none => exact follows_pure _
  | some payload =>
    intro x y a x' _ h
    cases h

/-- A call comes out the same, in whatever filament, and leaves twins as they were. -/
lemma follows_call {reg : RegistryId} {flags : FilamentFlags} {v v' : View} {m : Act ρ ε Unit}
    (hm : Repeats o I reg m) (limit : Duration) :
    Mirrors (Twins o I before (Roster.Begun o flags v v' f g)) (call reg f limit m)
      (call reg g limit m)
      fun a b x y => b = a ∧ Twins o I before (fun t => Roster.Twins t v v') x y := by
  refine mirrors_attach.bind fun answer answer' => ?_
  rintro x y result x' ⟨rfl, hxy⟩ hrun
  cases answer' with
  | error why => exact follows_pure _ x y result x' hxy hrun
  | ok =>
    have hR : Shares o f g (Roster.InCall o reg v v' f g) :=
      ⟨fun _ _ _ h => shares_calledIn.filament_eq _ _ _ h.called,
        fun _ _ _ h => shares_calledIn.observer_eq _ _ _ h.called⟩
    exact Follows.bind (follows_identityIn hR.filament_eq) (fun i =>
      Follows.bind (follows_guard hR hm.follows i) fun caught =>
        Follows.bind (follows_settle hR i limit caught.toOutcome) fun outcome =>
          mirrors_detach.bind fun _ _ => Follows.bind (follows_goOn caught.payload?) fun _ =>
            follows_pure (Except.ok outcome)) x y result x' hxy hrun

end Boundary

/-! ### Fixtures -/

/-- In twins, a default filament is installed that nobody saw before. -/
structure Roster.Adopting (reg : RegistryId) (v v' : View) (d d' : FilamentId) (t : ThreadId)
    (r s : Roster) : Prop where
  matching : v.Matches v'
  lacks_left : v.Lacks d
  lacks_right : v'.Lacks d'
  free : v.default? reg = none
  twins : Roster.Twins t (v.installing reg d) (v'.installing reg d') r s

namespace Job

variable {o : ObserverId} {I : ε → Prop} {before : Recorder.Entries} {v v' : View}
  {R : ThreadId → Roster → Roster → Prop} {d d' : FilamentId} {j : Job ρ}
  {exec : ρ → Act ρ ε Unit}

lemma follows_callRoutine {routine : ρ} (hm : Repeats o I j.registry (exec routine)) :
    Follows (Twins o I before fun t => Roster.Twins t v v') (j.callRoutine exec o routine)
      (j.callRoutine exec o routine) :=
  (mirrors_newFilament o).bind fun _ _ => Boundary.follows_call hm _

/-- While a default filament is installed, routines are called in twins all the same. -/
lemma follows_callRoutine_adopting {routine : ρ} (hm : Repeats o I j.registry (exec routine))
    (reg : RegistryId) :
    Follows (Twins o I before (Roster.Adopting reg v v' d d')) (j.callRoutine exec o routine)
      (j.callRoutine exec o routine) := by
  intro x y a x' hxy h
  obtain ⟨hmatching, hd, hd', hfree, -⟩ := hxy.roster
  obtain ⟨_, y', hrun, rfl, hxy'⟩ :=
    follows_callRoutine hm x y a x' (hxy.mono fun h => h.twins) h
  exact ⟨_, y', hrun, rfl, hxy'.mono fun h => ⟨hmatching, hd, hd', hfree, h⟩⟩

lemma mirrors_install :
    Mirrors (Twins o I before fun t => Roster.Twins t v v')
      (j.install o : Act ρ ε (Except FilamentError FilamentId)) (j.install o)
      (Host.Installs (Twins o I before fun t => Roster.Twins t v v') fun d d' =>
        Twins o I before (Roster.Adopting j.registry v v' d d')) := by
  intro x y a x' hxy h
  have hinstall (w : World ρ ε) : j.install o w =
      (.ok (w.roster.installDefault j.registry o j.filamentFlags w.current).1, { w with
        roster := (w.roster.installDefault j.registry o j.filamentFlags w.current).2 }) := rfl
  have horderly := hxy.orderly_left.install j.registry o j.filamentFlags x.current
  have horderly' := hxy.orderly_right.install j.registry o j.filamentFlags x.current
  have hunseen := hxy.orderly_left.unseen
  have hunseen' := hxy.orderly_right.unseen
  rw [hxy.current_eq] at hunseen'
  rw [hinstall] at h
  refine ⟨_, _, hinstall y, ?_⟩
  have hthread : y.roster.installDefault j.registry o j.filamentFlags y.current
      = y.roster.installDefault j.registry o j.filamentFlags x.current := by rw [hxy.current_eq]
  rw [hthread]
  rcases hxy.roster.install hunseen hunseen' j.registry o j.filamentFlags with
    ⟨r, s, hfree, hr, hs, hadopting⟩ | ⟨hr, hs⟩
  · rw [hr] at h horderly
    rw [hs] at horderly' ⊢
    cases h
    refine ⟨horderly, horderly', hxy.current_eq, ?_, hxy.store_left, hxy.store_right, hxy.books⟩
    exact ⟨hxy.roster.matching, hxy.roster.view_left ▸ hunseen.lacks,
      hxy.roster.view_right ▸ hunseen'.lacks, hfree, hadopting⟩
  · rw [hr] at h
    rw [hs]
    cases h
    exact ⟨rfl, hxy⟩

lemma follows_awaitAdopted (hkind : (v.kind j.registry).isSome) (fixture : Fixture ρ) :
    Follows (Twins o I before (Roster.Adopting j.registry v v' d d'))
      (j.awaitAdopted o d fixture : Act ρ ε Bool) (j.awaitAdopted o d' fixture) := by
  have hR : ∀ t r s, Roster.Adopting j.registry v v' d d' t r s →
      s.filaments.get? d' = r.filaments.get? d := by
    intro t r s h
    obtain ⟨kind, hkind⟩ := Option.isSome_iff_exists.mp hkind
    refine h.twins.filament_eq (.default j.registry) d d' ?_ ?_
    · rw [View.post_installing, Function.update_self, hkind, Option.map_some]
    · rw [View.post_installing, Function.update_self, h.matching.kind_eq, hkind, Option.map_some]
  refine Follows.bind (follows_joinChildren hR _) fun joined => ?_
  cases joined with
  | ok u => exact follows_pure true
  | error why =>
    exact Follows.bind follows_self fun _ => Follows.bind (follows_report _ _ rfl) fun _ =>
      follows_pure false

lemma mirrors_revoke (reg : RegistryId) :
    Mirrors (Twins o I before (Roster.Adopting reg v v' d d')) (revoke reg d : Act ρ ε Unit)
      (revoke reg d') fun _ _ => Twins o I before fun t => Roster.Twins t v v' := by
  intro x y a x' hxy h
  obtain ⟨hmatching, hd, hd', hfree, htwins⟩ := hxy.roster
  cases h
  exact ⟨(), _, rfl, hxy.orderly_left.revoke reg d, hxy.orderly_right.revoke reg d',
    hxy.current_eq, htwins.revoke hmatching hd hd' hfree (hxy.orderly_left.fits reg)
      (hxy.orderly_right.fits reg), hxy.store_left, hxy.store_right, hxy.books⟩

lemma follows_validate : Follows (Twins o I before R)
    ((j.host exec o).validate) ((j.host exec o).validate) := by
  have hsame (r s : Recorder) (h : Recorder.GoesOn before r s) :
      (Observer.recorder s).validate = (Observer.recorder r).validate := by
    have hversion : (Observer.recorder s).version = (Observer.recorder r).version :=
      congrArg Recorder.Policy.version h.policy_eq
    rw [Observer.validate, Observer.validate, hversion]
  let asks (x : Observer) : Except ObserverError Unit × Observer := (x.validate, x)
  exact follows_tell (k := asks) (l := asks) (.ok ()) fun r s h =>
    ⟨_, r, s, rfl, Prod.ext (hsame r s h) rfl, h⟩

lemma follows_fixtureStarts (f : Fixture ρ) : Follows (Twins o I before R)
    ((j.host exec o).fixtureStarts f) ((j.host exec o).fixtureStarts f) := by
  refine Follows.bind follows_self fun t => follows_tell _ fun r s h => ?_
  obtain ⟨hanswer, hbooks⟩ := h.fixtureStarts (.ownMain t) f.name
  exact ⟨_, _, _, rfl, Prod.ext hanswer rfl, hbooks⟩

lemma follows_fixtureFinished (f : Fixture ρ) (completed : Bool) : Follows (Twins o I before R)
    ((j.host exec o).fixtureFinished f completed) ((j.host exec o).fixtureFinished f completed) :=
  Follows.bind follows_self fun _ => follows_inform fun _ _ h =>
    ⟨_, _, rfl, rfl, h.fixtureFinished _ _ _⟩

lemma follows_caseStarts (f : Fixture ρ) (c : TestCase ρ) : Follows (Twins o I before R)
    ((j.host exec o).caseStarts f c) ((j.host exec o).caseStarts f c) := by
  refine Follows.bind follows_self fun t => follows_tell _ fun r s h => ?_
  obtain ⟨hanswer, hbooks⟩ := h.caseStarts (.ownMain t) c.name
  exact ⟨_, _, _, rfl, Prod.ext hanswer rfl, hbooks⟩

lemma follows_caseFinished (f : Fixture ρ) (c : TestCase ρ) (completed : Bool) :
    Follows (Twins o I before R) ((j.host exec o).caseFinished f c completed)
      ((j.host exec o).caseFinished f c completed) :=
  Follows.bind follows_self fun _ => follows_inform fun _ _ h =>
    ⟨_, _, rfl, rfl, h.caseFinished _ _ _⟩

/-- The world hosts a fixture in twins. -/
lemma mirrors_host (hkind : (v.kind j.registry).isSome) {f : Fixture ρ}
    (hroutines : ∀ routine ∈ f.routines, Repeats o I j.registry (exec routine)) :
    (j.host exec o).Mirrors f (Twins o I before fun t => Roster.Twins t v v')
      fun d d' => Twins o I before (Roster.Adopting j.registry v v' d d') where
  validates := follows_validate
  fixtureStarts := follows_fixtureStarts f
  installs := mirrors_install
  echoes := ⟨follows_caseStarts f, follows_caseFinished f, fun routine hroutine =>
    follows_callRoutine (hroutines routine hroutine)⟩
  echoesAdopting _ _ := ⟨follows_caseStarts f, follows_caseFinished f, fun routine hroutine =>
    follows_callRoutine_adopting (hroutines routine hroutine) j.registry⟩
  awaits _ _ := follows_awaitAdopted hkind f
  revokes _ _ := mirrors_revoke j.registry
  fixtureFinished := follows_fixtureFinished f

/-- A fixture of such routines comes out the same in twins, and leaves them as they were. -/
theorem follows_perform (hkind : (v.kind j.registry).isSome)
    (hroutines : ∀ routine ∈ j.run.fixture.routines, Repeats o I j.registry (exec routine)) :
    Follows (Twins o I before fun t => Roster.Twins t v v') (j.perform exec o)
      (j.perform exec o) :=
  FixtureRun.follows_run (mirrors_host hkind hroutines)

end Job

end Testbench
