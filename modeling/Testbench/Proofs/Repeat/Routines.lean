import Testbench.Proofs.Repeat.Twins
import Testbench.Report

/-!
# Routines that repeat

Test code that reports and acts on what it is told, and reads and sets the values of its filament,
does the same in all twins: there the observer answers the same, and the filament has the same
values.
-/

namespace Testbench.World

open Testbench.Flow Roster

variable {ρ ε α β : Type} {o : ObserverId} {I : ε → Prop} {before : Recorder.Entries}
  {R : ThreadId → Roster → Roster → Prop} {v v' : View} {reg : RegistryId} {f g : FilamentId}

/-! ### Rules -/

lemma Repeats.pure (a : α) : Repeats o I reg (pure a : Act ρ ε α) :=
  fun _ _ _ _ _ => follows_pure _

lemma Repeats.unwind (payload : Payload) : Repeats o I reg (unwind payload : Act ρ ε α) := by
  intro before v v' f g x y result x' hxy h
  cases h
  exact ⟨_, y, rfl, rfl, hxy⟩

lemma follows_attempt_bind {P : World ρ ε → World ρ ε → Prop} {m n : Act ρ ε α}
    {k l : α → Act ρ ε β} (hmn : Follows P m.attempt n.attempt)
    (hkl : ∀ a, Follows P (k a).attempt (l a).attempt) :
    Follows P (m >>= k).attempt (n >>= l).attempt := by
  intro x y result x' hxy h
  rcases attempt_bind_cases h with ⟨a, x₁, hfirst, hsecond⟩ | ⟨payload, rfl, hfirst⟩
  · obtain ⟨_, y₁, hn, rfl, hxy₁⟩ := hmn x y _ x₁ hxy hfirst
    rw [attempt_bind_ok hn]
    exact hkl a x₁ y₁ result x' hxy₁ hsecond
  · obtain ⟨_, y', hn, rfl, hxy'⟩ := hmn x y _ x' hxy hfirst
    exact ⟨_, y', attempt_bind_unwound hn, rfl, hxy'⟩

lemma Repeats.bind {m : Act ρ ε α} {k : α → Act ρ ε β} (hm : Repeats o I reg m)
    (hk : ∀ a, Repeats o I reg (k a)) : Repeats o I reg (m >>= k) :=
  fun before v v' f g => follows_attempt_bind (hm before v v' f g) fun a => hk a before v v' f g

/-- What always returns need not be caught. -/
lemma follows_attempt {P : World ρ ε → World ρ ε → Prop} {m n : Act ρ ε α}
    (hm : ∀ w, ∃ a w', m w = (.ok a, w')) (h : Follows P m n) :
    Follows P m.attempt n.attempt := by
  intro x y result x' hxy hrun
  obtain ⟨a, x₁, hx⟩ := hm x
  cases (attempt_ok hx).symm.trans hrun
  obtain ⟨_, y', hy, rfl, hxy'⟩ := h x y a _ hxy hx
  exact ⟨_, y', attempt_ok hy, rfl, hxy'⟩

/-! ### Reports -/

/-- What the thread reports as, in a world where it is called in a filament. -/
lemma membership_eq {w : World ρ ε} {x : Filament} (derive : Bool)
    (hseat : (w.roster.table reg).lookup? w.current = some ⟨w.current, f, true⟩)
    (hx : w.roster.filaments.get? f = some x) (ht : x.mainThread = w.current) :
    membership reg derive w = (.ok (.ok ⟨f, .ownMain w.current, true⟩), w) := by
  have hmember : w.roster.member? reg w.current = some ⟨f, .ownMain w.current, true⟩ := by
    rw [Roster.member?, hseat, Option.map_some, Roster.memberOf, Roster.mainThread?_eq hx, ht]
    rfl
  have hcurrent : w.roster.current reg w.current derive
      = (.ok ⟨f, .ownMain w.current, true⟩, w.roster) := by
    rw [Roster.current, hmember]
  exact (withRegistry_eq w reg _).trans (by rw [hcurrent])

/-- What a thread does with its place is done with the same place in twins, up to the filament. -/
lemma mirrors_membership (derive : Bool) {k l : Except FilamentError Member → Act ρ ε α}
    {Q : Except Payload α → Except Payload α → World ρ ε → World ρ ε → Prop}
    (hkl : ∀ i, Mirrors (Twins o I before (CalledIn o reg v v' f g)) (k (.ok ⟨f, i, true⟩)).attempt
      (l (.ok ⟨g, i, true⟩)).attempt Q) :
    Mirrors (Twins o I before (CalledIn o reg v v' f g)) (membership reg derive >>= k).attempt
      (membership reg derive >>= l).attempt Q := by
  intro x y result x' hxy hrun
  have hcalled := hxy.roster
  obtain ⟨z, hz, -, ht⟩ := hcalled.filament
  have hleft := (congrFun (congrArg View.seat hcalled.twins.view_left) reg).trans hcalled.seat_left
  have hright :=
    (congrFun (congrArg View.seat hcalled.twins.view_right) reg).trans hcalled.seat_right
  have hx := membership_eq (w := x) derive hleft hz ht
  have hy : membership reg derive y = (.ok (.ok ⟨g, .ownMain x.current, true⟩), y) := by
    rw [← hxy.current_eq] at hright ht ⊢
    exact membership_eq derive hright (hcalled.filament_eq.trans hz) ht
  rw [attempt_bind_ok (attempt_ok hx)] at hrun
  rw [attempt_bind_ok (attempt_ok hy)]
  exact hkl _ x y result x' hxy hrun

lemma follows_send (i : Identity) (detail : Event.Detail) :
    Follows (Twins o I before (CalledIn o reg v v' f g))
      (Report.send ⟨f, i, true⟩ detail : Act ρ ε Disposition).attempt
      (Report.send ⟨g, i, true⟩ detail).attempt := by
  have hquiet : Quietly (Report.send ⟨f, i, true⟩ detail : Act ρ ε Disposition) :=
    (Quietly.stackFor f).bind fun _ => (Quietly.see _).bind fun _ => Quietly.tell _ _ _
  refine follows_attempt (fun w => ?_) ?_
  · obtain ⟨d, w', hsend, -⟩ := hquiet w
    exact ⟨d, w', hsend⟩
  refine ((looks_stackFor f).mirrors (looks_stackFor g)).bind fun stack stack' => ?_
  exact mirrors_observerOf shares_calledIn (follows_report i i rfl)

lemma calledIn_modify {t : ThreadId} {r s : Roster} {k : Filament → Filament}
    (hk : ∀ x, (k x).observer = x.observer ∧ (k x).mainThread = x.mainThread)
    (h : CalledIn o reg v v' f g t r s) :
    CalledIn o reg v v' f g t { r with filaments := r.filaments.modify f k }
      { s with filaments := s.filaments.modify g k } := by
  obtain ⟨x, hx, ho, ht⟩ := h.filament
  have hleft : v.post (.own reg) = some f := by rw [View.post, h.seat_left, Option.map_some]
  have hright : v'.post (.own reg) = some g := by rw [View.post, h.seat_right, Option.map_some]
  refine ⟨?_, h.seat_left, h.seat_right, k x, Pool.get?_modify_self k hx, (hk x).1.trans ho,
    (hk x).2.trans ht⟩
  refine ⟨h.twins.matching, h.twins.view_left, h.twins.view_right, h.twins.size_eq, ?_,
    h.twins.bound_eq⟩
  intro i e e' he he'
  -- it is the same filament in the one roster if it is in the other
  have hsame : g = e' ↔ f = e := by
    have := h.twins.matching.same_iff (.own reg) i
    rwa [hleft, hright, he, he', Option.some_inj, Option.some_inj] at this
  by_cases hf : f = e
  · have hg := hsame.mpr hf
    subst hf hg
    dsimp only
    rw [Pool.get?_modify_same, Pool.get?_modify_same, h.filament_eq]
  · dsimp only
    rw [Pool.get?_modify_of_ne hf, Pool.get?_modify_of_ne (hsame.not.mpr hf)]
    exact h.twins.filament_eq i e e' he he'

lemma follows_setValue (tag : ValueTag) (x : UInt64) :
    Follows (Twins o I before (CalledIn o reg v v' f g))
      (changeFilament f (·.setValue tag x) : Act ρ ε Unit)
      (changeFilament g (·.setValue tag x)) := by
  intro w y a w' hxy h
  cases h
  have horderly {w : World ρ ε} (hw : Guests.Orderly w) (f : FilamentId) :
      Guests.Orderly { w with roster := { w.roster with
        filaments := w.roster.filaments.modify f (·.setValue tag x) } } :=
    hw.of_registries hw.current_lt (Nat.le_refl _) (Nat.le_of_eq Array.size_modify.symm) rfl
  refine ⟨(), _, rfl, rfl, horderly hxy.orderly_left f, horderly hxy.orderly_right g,
    hxy.current_eq, ?_, hxy.store_left, hxy.store_right, hxy.books⟩
  refine calledIn_modify (fun z => ?_) hxy.roster
  cases tag <;> exact ⟨rfl, rfl⟩

/-- A panic leaves nothing behind but its stack. -/
lemma panicking_eq (text : Option String) (w : World ρ ε) : ∃ k : Thread → Thread,
    (panicking text : Act ρ ε Unit) w = (.error (.unwound (.panic text)),
      { w with threads := w.threads.modify w.current k }) := by
  have hsee : seeThread Thread.keepsPanicStack w
      = (.ok ((w.threads.get? w.current).getD {}).keepsPanicStack, w) := rfl
  rw [panicking, bind_ok hsee]
  cases ((w.threads.get? w.current).getD {}).keepsPanicStack with
  | true => exact ⟨_, rfl⟩
  | false =>
    have hsame : w.threads.modify w.current id = w.threads := Pool.modify_eq_self fun _ _ => rfl
    refine ⟨id, ?_⟩
    rw [hsame]
    rfl

lemma repeats_panicking (text : Option String) :
    Repeats o I reg (panicking text : Act ρ ε Unit) := by
  intro before v v' f g x y result x' hxy h
  obtain ⟨k, hx⟩ := panicking_eq text x
  obtain ⟨l, hy⟩ := panicking_eq text y
  obtain ⟨_, y', hl, hxy'⟩ := mirrors_changeThread k l x y () _ hxy rfl
  cases hl
  cases (attempt_unwound hx).symm.trans h
  exact ⟨_, _, attempt_unwound hy, rfl, hxy'⟩

/-- Test code that reports, acts on what it is told, panics, and uses the values of its
filament. -/
inductive Narrates (reg : RegistryId) : {α : Type} → Act ρ ε α → Prop
  | pure {α : Type} (a : α) : Narrates reg (Pure.pure a : Act ρ ε α)
  | bind {α β : Type} {m : Act ρ ε α} {k : α → Act ρ ε β} (first : Narrates reg m)
      (next : ∀ a, Narrates reg (k a)) : Narrates reg (m >>= k)
  | panicking (text : Option String) : Narrates reg (World.panicking text : Act ρ ε Unit)
  | assertion (site : Site) (expression : String) :
      Narrates reg (Report.assertion reg site expression)
  | comparison (expected actual : UInt32) (site : Site) (expression : String) :
      Narrates reg (Report.comparison reg expected actual site expression)
  | inconclusiveness (message : String) : Narrates reg (Report.inconclusiveness reg message)
  | log (message : String) : Narrates reg (Report.log reg message)
  | failure : Narrates reg (Report.failure reg)
  | value (derive : Bool) (tag : ValueTag) : Narrates reg (Report.value reg derive tag)
  | setValue (derive : Bool) (tag : ValueTag) (x : UInt64) :
      Narrates reg (Report.setValue reg derive tag x)
  | apply (verdict : Verdict) : Narrates reg verdict.apply

lemma repeats_assertion (site : Site) (expression : String) :
    Repeats o I reg (Report.assertion reg site expression : Act ρ ε Verdict) := by
  intro before v v' f g
  refine mirrors_membership true fun i => follows_attempt_bind (follows_send i _) fun d => ?_
  cases d <;> exact follows_pure _

/-- Such test code does the same in all twins. -/
theorem Narrates.repeats {m : Act ρ ε α} (h : Narrates reg m) : Repeats o I reg m := by
  induction h with
  | pure a => exact .pure a
  | bind _ _ hfirst hnext => exact hfirst.bind hnext
  | panicking text => exact repeats_panicking text
  | assertion site expression => exact repeats_assertion site expression
  | comparison expected actual site expression =>
    rw [Report.comparison]
    split
    · exact .pure _
    · exact repeats_assertion site _
  | inconclusiveness message =>
    intro before v v' f g
    exact mirrors_membership true fun i => follows_attempt_bind (follows_send i _) fun _ =>
      follows_pure _
  | log message =>
    intro before v v' f g
    exact mirrors_membership true fun i => follows_attempt_bind (follows_send i _) fun _ =>
      follows_pure _
  | failure =>
    intro before v v' f g
    exact mirrors_membership true fun i => follows_pure _
  | value derive tag =>
    intro before v v' f g
    refine mirrors_membership derive fun i => ?_
    exact follows_attempt_bind (follows_attempt (fun w => ⟨_, w, rfl⟩)
      (follows_seeFilament shares_calledIn.filament_eq _ _)) fun _ => follows_pure _
  | setValue derive tag x =>
    intro before v v' f g
    refine mirrors_membership derive fun i => ?_
    exact follows_attempt_bind (follows_attempt (fun w => ⟨(), _, rfl⟩)
      (follows_setValue tag x)) fun _ => follows_pure _
  | apply verdict =>
    cases verdict with
    | proceed => exact .pure _
    | breakIn => exact .pure _
    | raise s => exact .unwind _

end Testbench.World
