import Testbench.Proofs.Guests.Call
import Testbench.Proofs.Guests.Reachable
import Testbench.Proofs.Run.Kept
import Testbench.Run.InWorld

/-!
# Fixtures and their guests

The thread that runs a fixture calls its routines one by one, and guests may stay on from one
routine to the next.  Meanwhile a default filament may be installed that was not there before:
nobody but guests is bound to it.  When it is revoked, those who are still bound to it are not, and
everybody else stays bound.

The thread that runs the fixture may stay behind as well: then the clock could not time the wait of
one of its calls.
-/

namespace Testbench.Guests

open World

variable {ρ ε α : Type} {reg : RegistryId} {guests : ε → ThreadId → Stage} {base : List Binding}
  {d : Option FilamentId} {limit : Duration} {t : ThreadId} {w w' : World ρ ε}

/-- Who stays behind of calls with a limit: nobody, or the thread that called and that no clock could
tell when to give up. -/
inductive Left (limit : Duration) (t : ThreadId) : List Binding → Prop
  | nobody : Left limit t []
  | caller (hlimit : ¬ limit.Timed) (f : FilamentId) : Left limit t [⟨t, f, true⟩]

lemma Left.filter {left : List Binding} (h : Left limit t left)
    (p : Binding → Bool) : Left limit t (left.filter p) := by
  cases h with
  | nobody => exact .nobody
  | caller hlimit f =>
    rw [List.filter_singleton]
    cases p ⟨t, f, true⟩
    · exact .nobody
    · exact .caller hlimit f

section

variable (reg : RegistryId) (guests : ε → ThreadId → Stage) (base : List Binding)
  (d : Option FilamentId) (limit : Duration) (t : ThreadId)

/-- Before a fixture is run: nobody is bound yet to a filament that is yet to be made. -/
structure Before (w : World ρ ε) : Prop where
  stands : Stands reg guests base d t w
  filament_lt : ∀ b ∈ base, b.filament < w.roster.filaments.items.size

/-- While the routines of a fixture run, perhaps with a default filament: then there was none
before, and there is no other one. -/
structure During (d? : Option FilamentId) (w : World ρ ε) : Prop where
  stands : ∃ left, Left limit t left ∧
    Stands reg guests (left ++ base) (w.roster.default? reg) t w
  default_eq : d? = none → w.roster.default? reg = d
  installed : ∀ f ∈ d?, d = none ∧ (∀ g ∈ w.roster.default? reg, g = f) ∧
    ∀ b ∈ base, b.filament ≠ f

/-- When the fixture is over and all guests have ended, what was there before them is there. -/
def After (w : World ρ ε) : Prop :=
  (∀ t, guests w.store t = .away) →
    (∃ left, Left limit t left ∧ (w.roster.table reg).Fits ∧
      (w.roster.table reg).bindings.Perm (left ++ base)) ∧ w.roster.default? reg = d

end

/-! ### Requests that are nothing to registries -/

lemma Before.quiet (h : Before reg guests base d t w) (hquiet : Quiet w w')
    (hstore : w'.store = w.store) : Before reg guests base d t w' where
  stands := h.stands.quiet hquiet hstore
  filament_lt := by
    rw [hquiet.roster]
    exact h.filament_lt

lemma During.quiet {d? : Option FilamentId} (h : During reg guests base d limit t d? w)
    (hquiet : Quiet w w') (hstore : w'.store = w.store) : During reg guests base d limit t d? w' := by
  obtain ⟨left, hleft, hstands⟩ := h.stands
  have hstands := hstands.quiet hquiet hstore
  rw [← hquiet.roster] at hstands
  refine ⟨⟨left, hleft, hstands⟩, ?_, ?_⟩ <;> rw [hquiet.roster]
  · exact h.default_eq
  · exact h.installed

lemma After.quiet (h : After reg guests base d limit t w) (hquiet : Quiet w w')
    (hstore : w'.store = w.store) : After reg guests base d limit t w' := by
  intro haway
  rw [hstore] at haway
  rw [hquiet.roster]
  exact h haway

section

variable {P : World ρ ε → Prop} (hP : ∀ w w', P w → Quiet w w' → w'.store = w.store → P w')

include hP

lemma keeps_aside {m : Act ρ ε α} (hm : Aside m) : Flow.Keeps P m := by
  intro w result w' hw h
  obtain ⟨a, w₁, heq, hquiet, hstore⟩ := hm w
  rw [Flow.attempt_ok heq] at h
  cases h
  exact hP w w' hw hquiet hstore

/-- What an observer is told, -/
lemma keeps_tell (o : ObserverId) (fallback : α) (g : Observer → α × Observer) :
    Flow.Keeps P (tell o fallback g : Act ρ ε α) := keeps_aside hP (.tell o fallback g)

/-- and what it is told with the number of the running thread. -/
lemma keeps_tells (o : ObserverId) (fallback : α) (g : ThreadId → Observer → α × Observer) :
    Flow.Keeps P (do tell o fallback (g (← self)) : Act ρ ε α) :=
  keeps_aside hP ((Aside.see _).bind fun _ => .tell _ _ _)

lemma keeps_awaits (o : ObserverId) (j : Job ρ) (f : FilamentId) (fixture : Fixture ρ) :
    Flow.Keeps P (j.awaitAdopted o f fixture : Act ρ ε Bool) := by
  by_cases hlimit : j.run.options.joinLimit.Timed
  swap
  · rw [Job.awaitAdopted, joinChildren_untimed hlimit, panicking_bind]
    intro w result w' hw h
    rw [Flow.attempt_unwound (panicking_apply _ w)] at h
    cases h
    exact hP w _ hw (quiet_panicked w) (panicked_store w)
  rw [Job.awaitAdopted, joinChildren_timed hlimit]
  refine keeps_aside hP ((Aside.see _).bind fun joined => ?_)
  cases joined with
  | ok => exact .pure _
  | error why => exact (Aside.see _).bind fun _ => (Aside.tell _ _ _).bind fun _ => .pure _

end

/-! ### Calls -/

/-- A call of a thread, which stays behind at most once. -/
lemma Called.left {α β : Type} {left : List Binding} {result : Except Payload (Except α β)}
    (h : Called reg guests (left ++ base) d limit w result w') (hleft : Left limit w.current left)
    (hbound : ∀ b ∈ left, b ∈ (w.roster.table reg).bindings) :
    ∃ left, Left limit w.current left ∧ Stands reg guests (left ++ base) d w.current w' := by
  cases h with
  | refused why h => exact ⟨left, hleft, h⟩
  | returned b _ h => exact ⟨left, hleft, h⟩
  | unwound payload _ h => exact ⟨left, hleft, h⟩
  | stranded f hlimit h hfree =>
    cases hleft with
    | nobody => exact ⟨_, .caller hlimit f, h⟩
    | caller _ g => exact absurd rfl (hfree _ (hbound _ List.mem_cons_self))

/-- Calling a routine of the fixture. -/
lemma During.call {d? : Option FilamentId} {exec : ρ → Act ρ ε Unit} {o : ObserverId} {j : Job ρ}
    (hj : j.registry = reg) (hlimit : j.run.options.joinLimit = limit) {routine : ρ}
    (hroutine : Hosts reg guests (exec routine)) :
    Flow.Keeps (During reg guests base d limit t d?) (j.callRoutine exec o routine) := by
  intro w result w' h hcall
  obtain ⟨left, hleft, hstands⟩ := h.stands
  obtain ⟨f, w₁, hmade, hregistries, hcurrent, hsame⟩ : ∃ f w₁,
      newFilament o j.filamentFlags w = (.ok f, w₁) ∧
      w₁.roster.registries = w.roster.registries ∧ w₁.current = w.current ∧
      Stands reg guests (left ++ base) (w.roster.default? reg) t w₁ :=
    ⟨_, _, rfl, rfl, rfl, hstands.of_registries rfl rfl rfl rfl rfl⟩
  rw [Job.callRoutine, Flow.attempt_bind_ok (Flow.attempt_ok hmade), hj, hlimit] at hcall
  obtain rfl := hsame.current_eq
  obtain ⟨left', hleft', hstands'⟩ := (hsame.call hroutine f limit hcall).left hleft fun b hb =>
    (List.mem_filter.mp (hsame.keeps.others.mem_iff.mpr (List.mem_append_left _ hb))).1
  have hdefault := hstands'.keeps.default_eq
  dsimp only at hdefault
  rw [← hdefault] at hstands'
  refine ⟨⟨left', hleft', hstands'⟩, ?_, ?_⟩ <;> rw [hdefault]
  · exact h.default_eq
  · exact h.installed

/-! ### Default filaments -/

lemma Before.during (h : Before reg guests base d t w) :
    During reg guests base d limit t none w where
  stands := by
    have hdefault : w.roster.default? reg = d := h.stands.keeps.default_eq
    rw [hdefault]
    exact ⟨[], .nobody, h.stands⟩
  default_eq _ := h.stands.keeps.default_eq
  installed _ hf := by cases hf

lemma Before.installs {j : Job ρ} (hj : j.registry = reg) (o : ObserverId) :
    Flow.Leads (Before reg guests base d t) (j.install o : Act ρ ε _) fun
      | .ok (.ok f) => During reg guests base d limit t (some f)
      | _ => Before reg guests base d t := by
  intro w result w' h hinstall
  have heq : j.install o w = (.ok (w.roster.installDefault reg o j.filamentFlags w.current).1,
      { w with roster := (w.roster.installDefault reg o j.filamentFlags w.current).2 }) := by
    rw [← hj]
    rfl
  rw [Flow.attempt_ok heq] at hinstall
  cases hinstall
  rcases installDefault_cases w.roster reg o j.filamentFlags w.current with ⟨-, hcase⟩ |
    ⟨r, hcase, -, hadoptions, htable, hnone, hdefault⟩ <;> rw [hcase]
  · exact h
  · have hkeeps := h.stands.keeps
    refine ⟨⟨[], .nobody, ⟨?_, ?_, hkeeps.guest_lt, ?_, ?_, ?_, rfl⟩, h.stands.current_eq,
      h.stands.away, h.stands.lt⟩, nofun, ?_⟩
    · exact htable reg ▸ hkeeps.fits
    · intro b hb
      exact hkeeps.bound_lt b (htable reg ▸ hb)
    · rw [State.others, htable]
      exact hkeeps.others
    · intro b hb hstage
      exact hadoptions ▸ hkeeps.adopted b (htable reg ▸ hb) hstage
    · intro u hu
      rw [htable]
      exact hkeeps.seated u hu
    · intro f hf
      obtain rfl := Option.some.inj hf
      refine ⟨hkeeps.default_eq.symm.trans hnone, fun g hg => ?_, fun b hb => ?_⟩
      · rcases hdefault reg g hg with hbefore | ⟨-, rfl⟩
        · cases hnone.symm.trans hbefore
        · rfl
      · exact Nat.ne_of_lt (h.filament_lt b hb)

lemma During.revokes (f : FilamentId) :
    Flow.Leads (During reg guests base d limit t (some f)) (Job.revoke reg f : Act ρ ε Unit)
      fun _ => After reg guests base d limit t := by
  intro w result w' h hrevoke haway
  cases hrevoke
  obtain ⟨hnone, hown, hfree⟩ := h.installed f rfl
  dsimp only at haway ⊢
  rw [table_revokeDefault, default?_revokeDefault, if_pos rfl]
  constructor
  · obtain ⟨left, hleft, hstands⟩ := h.stands
    have hperm := (hstands.keeps.perm haway).filter fun b => b.filament ≠ f
    have hbase : base.filter (fun b => b.filament ≠ f) = base :=
      List.filter_eq_self.mpr fun b hb => by simpa using hfree b hb
    rw [List.filter_append, hbase] at hperm
    exact ⟨_, hleft.filter _, hstands.keeps.fits.of_sublist (.refl _) List.filter_sublist, hperm⟩
  · rw [hnone]
    cases hdefault : w.roster.default? reg with
    | none => simp
    | some g =>
      obtain rfl := hown g hdefault
      exact if_pos ⟨rfl, rfl⟩

lemma During.after (h : During reg guests base d limit t none w) :
    After reg guests base d limit t w :=
  fun haway => by
    obtain ⟨left, hleft, hstands⟩ := h.stands
    exact ⟨⟨left, hleft, hstands.keeps.fits, hstands.keeps.perm haway⟩, h.default_eq rfl⟩

/-- A fixture and its guests in the world. -/
theorem leads_host {exec : ρ → Act ρ ε Unit} {o : ObserverId} {j : Job ρ} (hj : j.registry = reg)
    (hlimit : j.run.options.joinLimit = limit)
    (hroutines : ∀ routine ∈ j.run.fixture.routines, Hosts reg guests (exec routine)) :
    (j.host exec o).Leads j.run.fixture (Before reg guests base d t)
      (During reg guests base d limit t) (After reg guests base d limit t) where
  validates := keeps_tell (fun _ _ => Before.quiet) o (.ok ()) fun x => (x.validate, x)
  fixtureStarts := keeps_tells (fun _ _ => Before.quiet) o _ _
  begins _ h := h.during
  installs := Before.installs hj o
  upholds _ :=
    { caseStarts := fun _ => keeps_tells (fun _ _ => During.quiet) o _ _
      caseFinished := fun _ _ => keeps_tells (fun _ _ => During.quiet) o _ _
      call := fun routine hmem => During.call hj hlimit (hroutines routine hmem) }
  awaits f := keeps_awaits (fun _ _ => During.quiet) o j f j.run.fixture
  revokes f := hj ▸ During.revokes f
  ends _ h := h.after
  fixtureFinished _ := keeps_tells (fun _ _ => After.quiet) o _ _

end Testbench.Guests
