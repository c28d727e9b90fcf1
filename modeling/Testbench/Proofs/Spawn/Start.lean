import Testbench.Proofs.Spawn.Mannered
import Testbench.Proofs.Stacks

/-!
# Children that are started, or not

A child is started in several steps, each of which can be refused: by the registry, which does not
know the parent, by the observer, by the filament, which has too many children, and by the table,
which has no room.  Whoever refuses, what was done before is undone.  Nothing is left of the attempt
then, save a thread that has ended; and a child that is started is bound, counted and told of.
-/

namespace Testbench

open World

variable {ρ ε β : Type} {w w' : World ρ ε} {reg : RegistryId} {f : FilamentId} {t : ThreadId}
  {x : Filament} {r r' : Roster} {n : Nat}

namespace Child

/-- What the observer of a filament does about a child thread. -/
def observerAnswer (w : World ρ ε) (f : FilamentId) : ThreadStart :=
  match w.observers.get? (Boundary.reportsTo w f) with
  | some o => o.threadStart
  | none => .started

/-- Why a filament and a table cannot take another child, if they cannot. -/
def lack? (r : Roster) (reg : RegistryId) (f : FilamentId) : Option FilamentError :=
  if (r.filaments.get? f).map Filament.running = some Filament.maxChildren then
    some (.tooManyChildren Filament.maxChildren)
  else if (r.table reg).size = ThreadTable.maxThreads then
    some (.tooManyThreads ThreadTable.maxThreads)
  else none

/-- Why a child thread of the running thread cannot be started, if it cannot. -/
def denial? (w : World ρ ε) (reg : RegistryId) : Option SpawnError :=
  match w.roster.member? reg w.current with
  | none => some (.filament .unknownThread)
  | some m =>
    match observerAnswer w m.filament with
    | .refused why => some (.refused why)
    | .dropped => some .lost
    | .started => (lack? w.roster reg m.filament).map .filament

/-- What is left of a child that could not be started: nothing, save perhaps a thread that has
ended. -/
structure Untouched (w w' : World ρ ε) : Prop where
  /-- Bindings, counts of children and their outcomes are what they were, -/
  roster : w'.roster = w.roster
  /-- no observer was told of anything, -/
  observers : w'.observers = w.observers
  /-- and the rest is as before, too. -/
  rest : w' = w ∨ w' = (newThread w).2

lemma Untouched.refl (w : World ρ ε) : Untouched w w := ⟨rfl, rfl, .inl rfl⟩

lemma Untouched.newThread (w : World ρ ε) : Untouched w (World.newThread w).2 :=
  ⟨rfl, rfl, .inr rfl⟩

lemma Untouched.moves (h : Untouched w w') : Moves w w' := by
  rcases h.rest with rfl | rfl
  · exact .refl _
  · exact .of_move .thread

lemma Untouched.current (h : Untouched w w') : w'.current = w.current := by
  rcases h.rest with rfl | rfl <;> rfl

/-- What the start of a child leaves behind, `x` being the filament before. -/
structure Started (reg : RegistryId) (w : World ρ ε) (k : Ticket) (x : Filament)
    (w' : World ρ ε) : Prop where
  registry_eq : k.registry = reg
  /-- It is a thread that there was not before, -/
  thread_eq : k.thread = w.threads.items.size
  /-- in the filament of its parent. -/
  parent : ∃ m, w.roster.member? reg w.current = some m ∧ m.filament = k.filament
  /-- It is bound, and nobody else's binding has changed. -/
  bound : (w'.roster.table reg).bindings =
    (w.roster.table reg).bindings ++ [⟨k.thread, k.filament, true⟩]
  others : ∀ reg', reg ≠ reg' → w'.roster.table reg' = w.roster.table reg'
  /-- It is counted in its filament, and nowhere else, -/
  filament : w.roster.filaments.get? k.filament = some x
  counted : w'.roster.filaments.get? k.filament = some { x with running := x.running + 1 }
  others_counted : ∀ g, k.filament ≠ g → w'.roster.filaments.get? g = w.roster.filaments.get? g
  /-- and the observer is told of it, once. -/
  told : w'.observers = w.observers.modify x.observer (·.childStarts ⟨x.mainThread, k.thread⟩)
  current : w'.current = w.current
  moves : Moves w w'

/-! ### Threads that are not bound yet -/

/-- A thread that was adopted by nobody ends without further ado. -/
lemma threadEnded_eq_self (h : ∀ a ∈ r.adoptions, a.thread ≠ t) : r.threadEnded t = r := by
  have hmine : r.adoptions.filter (·.thread = t) = [] :=
    List.filter_eq_nil_iff.mpr fun a ha => by simpa using h a ha
  have hothers : r.adoptions.filter (·.thread ≠ t) = r.adoptions :=
    List.filter_eq_self.mpr fun a ha => by simpa using h a ha
  rw [Roster.threadEnded, hmine]
  exact congrArg (fun l => { r with adoptions := l }) hothers

/-- A thread that is not in the table and not the main thread is bound, unless there is no room. -/
lemma attach_cases_of_fresh (hsound : (Accounts.mk r []).Sound)
    (hx : r.filaments.get? f = some x) {g : Registry} (hg : r.registries.get? reg = some g)
    (hmain : t ≠ x.mainThread) (hfresh : t ∉ (r.table reg).bindings.map Binding.thread) :
    (∃ why, lack? r reg f = some why ∧ r.attach reg ⟨t, f, true⟩ = (.error why, r)) ∨
      lack? r reg f = none ∧ ∃ r', r.attach reg ⟨t, f, true⟩ = (.ok (), r') ∧
        r'.filaments = r.filaments.modify f fun _ => { x with running := x.running + 1 } := by
  have hmade := hsound.make ⟨t, f, true⟩
  have hsame := r.prepare_registries ⟨t, f, true⟩
  rw [lack?, hx, Roster.table_eq hg]
  rw [Roster.table_eq hg] at hfresh
  rcases r.attach_cases reg ⟨t, f, true⟩ with ⟨why, r₁, hprepare, hattach⟩ |
    ⟨r₁, hprepare, hbound⟩ <;> rw [Accounts.make, hprepare] at hmade <;> rw [hprepare] at hsame
  · -- there is no binding
    rw [Accounts.attach_error_eq hattach] at hattach
    obtain ⟨-, hfull, rfl⟩ := (hsound.make_error_iff hx why).mp (by rw [Accounts.make, hprepare])
    exact .inl ⟨_, if_pos (congrArg some hfull), hattach⟩
  · obtain ⟨hroom, hr₁⟩ : x.running < Filament.maxChildren ∧ r₁ = { r with
        filaments := r.filaments.modify f fun _ => { x with running := x.running + 1 } } := by
      have hcases := Accounts.make_cases (a := ⟨r, []⟩) (b := ⟨t, f, true⟩) hx
      rw [Accounts.make, hprepare] at hcases
      rcases hcases with ⟨heq, -⟩ | ⟨-, hroom, hone⟩ | ⟨-, -, hnot⟩
      · exact absurd heq hmain
      · exact ⟨hroom, congrArg Accounts.roster (Prod.mk.inj hone).2⟩
      · cases hnot
    have hchild : ¬ (some x).map Filament.running = some Filament.maxChildren :=
      fun hfull => Nat.ne_of_lt hroom (Option.some.inj hfull)
    have hrefusal (why : FilamentError) :=
      hmade.bind_error_iff (b := ⟨t, f, true⟩) (hsame ▸ hg) why
    rw [if_neg hchild]
    rcases hbound with ⟨r₂, hbind, hattach⟩ | ⟨why, r₂, hbind, hattach⟩
    · refine .inr ⟨if_neg fun hfull => ?_, r₂, hattach, ?_⟩
      · have hno := (hrefusal _).mpr (.inr ⟨hfresh, hfull, rfl⟩)
        rw [Accounts.bind, hbind] at hno
        cases hno
      · exact (congrArg (·.2.filaments) hbind.symm).trans (congrArg Roster.filaments hr₁)
    · -- the binding that was made is undone
      rw [Accounts.attach_error_eq hattach] at hattach
      rcases (hrefusal why).mp (by rw [Accounts.bind, hbind]) with ⟨hthere, -⟩ | ⟨-, hfull, rfl⟩
      · exact absurd hthere hfresh
      · exact .inl ⟨_, if_pos hfull, hattach⟩

/-! ### Starting -/

/-- An observer that is asked to start a child answers, and nothing else happens. -/
lemma tell_threadStart (w : World ρ ε) (f : FilamentId) :
    tell (Boundary.reportsTo w f) ThreadStart.started (fun o => (o.threadStart, o)) w
      = (.ok (observerAnswer w f), w) := by
  cases ho : w.observers.get? (Boundary.reportsTo w f) with
  | some o => rw [tell_eq ho, observing_self ho, observerAnswer, ho]
  | none => rw [World.tell, Flow.step_apply, Pool.update_of_none _ _ ho, observerAnswer, ho]

/-- A place is asked for without a change. -/
lemma membership_apply (w : World ρ ε) (reg : RegistryId) :
    membership reg false w = (.ok (match w.roster.member? reg w.current with
      | some m => .ok m
      | none => .error .unknownThread), w) := by
  have hmember := Guests.membership_eq w reg false
  rw [Guests.current_false] at hmember
  rw [hmember, Roster.current]
  cases w.roster.member? reg w.current <;> rfl

/-- A thread that has a place is in a table, and its filament is there. -/
lemma exists_of_member (hw : w.Kempt) {m : Member} (hm : w.roster.member? reg t = some m) :
    ∃ g x, w.roster.registries.get? reg = some g ∧
      w.roster.filaments.get? m.filament = some x := by
  obtain ⟨b, hb, rfl⟩ := Option.map_eq_some_iff.mp hm
  have hmem : b ∈ (w.roster.table reg).bindings := List.mem_of_find?_eq_some hb
  have hlt := hw.filament_lt reg b hmem
  cases hg : w.roster.registries.get? reg with
  | some g => exact ⟨g, _, rfl, Array.getElem?_eq_getElem hlt⟩
  | none =>
    rw [Roster.table, hg] at hmem
    cases hmem

/-- A new child is turned away, or bound and told of. -/
lemma enrol_cases (hw : w.Kempt) (hx : w.roster.filaments.get? f = some x) {g : Registry}
    (hg : w.roster.registries.get? reg = some g) (hmain : w.current ≠ x.mainThread)
    (hfresh : w.current ∉ (w.roster.table reg).bindings.map Binding.thread) :
    (∃ why, lack? w.roster reg f = some why ∧ enrol reg f w = (.ok (.error why), w)) ∨
      lack? w.roster reg f = none ∧
        ∃ r, w.roster.attach reg ⟨w.current, f, true⟩ = (.ok (), r) ∧
          r.filaments = w.roster.filaments.modify f (fun _ => { x with
            running := x.running + 1 }) ∧
          enrol reg f w = (.ok (.ok ()), { w with
            roster := r
            observers := w.observers.modify x.observer
              (·.childStarts ⟨x.mainThread, w.current⟩) }) := by
  have hattach : attach reg f w = (.ok (w.roster.attach reg ⟨w.current, f, true⟩).1,
      { w with roster := (w.roster.attach reg ⟨w.current, f, true⟩).2 }) :=
    withRegistry_eq w reg (·.attach reg ⟨w.current, f, true⟩)
  rcases attach_cases_of_fresh hw.sound hx hg hmain hfresh with ⟨why, hlack, hno⟩ |
    ⟨hlack, r, hbound, hfilaments⟩
  · rw [hno] at hattach
    exact .inl ⟨why, hlack, Flow.bind_ok hattach⟩
  · rw [hbound] at hattach
    refine .inr ⟨hlack, r, hbound, hfilaments, ?_⟩
    have hx' : r.filaments.get? f = some { x with running := x.running + 1 } := by
      rw [hfilaments]
      exact Pool.get?_modify_self _ hx
    obtain ⟨u, htold⟩ := tell_modify x.observer ()
      (fun o => ((), o.childStarts ⟨x.mainThread, w.current⟩)) { w with roster := r }
    rw [enrol, Flow.bind_ok hattach]
    dsimp only
    rw [Flow.bind_ok (identityIn_eq hx'), Flow.bind_ok (observerOf_eq hx')]
    exact Flow.bind_ok htold

/-- Either nothing is left of the start of a child but a thread that has ended, or the child is
there.
-/
theorem start_cases (hw : w.Kempt) (reg : RegistryId) :
    (∃ why w', start reg w = (.ok (.error why), w') ∧ denial? w reg = some why ∧
        Untouched w w') ∨
      ∃ k x w', start reg w = (.ok (.ok k), w') ∧ denial? w reg = none ∧
        Started reg w k x w' := by
  rw [start, Flow.bind_ok (membership_apply w reg), denial?]
  cases hm : w.roster.member? reg w.current with
  | none => exact .inl ⟨_, w, rfl, rfl, .refl w⟩
  | some m =>
    obtain ⟨g, x, hg, hx⟩ := exists_of_member hw hm
    have hobserver : observerOf m.filament w = (.ok (Boundary.reportsTo w m.filament), w) := rfl
    dsimp only
    rw [Flow.bind_ok hobserver, Flow.bind_ok (tell_threadStart w m.filament)]
    -- the thread that is made is one that nobody has heard of
    let t : ThreadId := w.threads.items.size
    let made : World ρ ε := (newThread w).2
    have hnew : newThread w = (.ok t, made) := rfl
    have hend : endThread t made = (.ok (), made) := by
      have hsame : w.roster.threadEnded t = w.roster :=
        threadEnded_eq_self fun a ha => Nat.ne_of_lt (hw.adopted_lt a ha)
      exact Prod.ext rfl (congrArg (fun r => { made with roster := r }) hsame)
    cases observerAnswer w m.filament with
    | refused why => exact .inl ⟨_, w, rfl, rfl, .refl w⟩
    | dropped =>
      exact .inl ⟨_, made, (Flow.bind_ok hnew).trans (Flow.bind_ok hend), rfl, .newThread w⟩
    | started =>
      let turned : World ρ ε := { made with current := t }
      have hlt : t < made.threads.items.size := Array.size_push _ ▸ Nat.lt_succ_self _
      have hmoves : Moves w turned :=
        (Moves.of_move .thread).trans (.of_move (.besides rfl rfl hlt))
      have hfresh : t ∉ (w.roster.table reg).bindings.map Binding.thread := fun hmem => by
        obtain ⟨b, hb, heq⟩ := List.mem_map.mp hmem
        exact Nat.ne_of_lt (hw.thread_lt reg b hb) heq
      have hmain : t ≠ x.mainThread := (Nat.ne_of_lt (hw.main_lt m.filament x hx)).symm
      dsimp only
      rw [Flow.bind_ok hnew]
      rcases enrol_cases (hw.moves hmoves) hx hg hmain hfresh with ⟨why, hlack, henrol⟩ |
        ⟨hlack, r, hattach, hfilaments, henrol⟩
      · refine .inl ⟨_, made, (Flow.bind_ok (asThread_ok henrol)).trans (Flow.bind_ok hend), ?_,
          .newThread w⟩
        exact congrArg (Option.map _) hlack
      · refine .inr ⟨⟨t, reg, m.filament⟩, x, _, Flow.bind_ok (asThread_ok henrol),
          congrArg (Option.map _) hlack, ?_⟩
        have hattached := Guests.attach_ok hattach
        have hbound : Moves turned { turned with roster := r } := by
          have hmove := Move.attach reg (w := turned) (b := ⟨t, m.filament, true⟩) hlt
          rw [show turned.roster.attach reg _ = _ from hattach] at hmove
          exact .of_move hmove
        exact {
          registry_eq := rfl
          thread_eq := rfl
          parent := ⟨m, hm, rfl⟩
          bound := hattached.table_self
          others := hattached.table_of_ne
          filament := hx
          counted := hfilaments ▸ Pool.get?_modify_self _ hx
          told := rfl
          others_counted := fun g hg => hfilaments ▸ Pool.get?_modify_of_ne hg _
          current := rfl
          moves := (hmoves.trans hbound).trans (.of_move (.besides rfl rfl
            (Nat.lt_of_lt_of_le hw.current_lt (Array.size_push _ ▸ Nat.le_succ _)))) }

/-- A child that was started is there. -/
lemma Started.lt {k : Ticket} (h : Started reg w k x w') (hw : w.Kempt) :
    k.thread < w'.threads.items.size := by
  have hmem : (⟨k.thread, k.filament, true⟩ : Binding) ∈ (w'.roster.table reg).bindings := by
    rw [h.bound]
    exact List.mem_append_right _ List.mem_cons_self
  exact (hw.moves h.moves).thread_lt reg _ hmem

/-- A thread that has manners may start children. -/
theorem start_bind_mannered {next : Except SpawnError Ticket → Act ρ ε β}
    (hdenied : ∀ why, Mannered n (next (.error why)))
    (hstarted : ∀ k : Ticket, n ≤ k.thread → Mannered (k.thread + 1) (next (.ok k))) :
    Mannered n (start reg >>= next) := by
  intro w hw hn result w' h
  rcases start_cases hw reg with ⟨why, w₁, hstart, -, hsame⟩ | ⟨k, x, w₁, hstart, -, hchild⟩ <;>
    rw [Flow.attempt_bind_ok (Flow.attempt_ok hstart)] at h
  · obtain ⟨hmoves, hcurrent⟩ := hdenied why w₁ (hw.moves hsame.moves)
      (Nat.le_trans hn hsame.moves.later.threads) result w' h
    exact ⟨hsame.moves.trans hmoves, hcurrent.trans hsame.current⟩
  · obtain ⟨hmoves, hcurrent⟩ := hstarted k (hchild.thread_eq ▸ hn) w₁ (hw.moves hchild.moves)
      (hchild.lt hw) result w' h
    exact ⟨hchild.moves.trans hmoves, hcurrent.trans hchild.current⟩

end Child

end Testbench
