import Mathlib.Logic.Function.Basic
import Mathlib.Logic.Relation
import Testbench.Proofs.Tables
import Testbench.Proofs.World

/-!
# Guests of a registry

The threads that a routine starts are guests of a registry for as long as they run.  A child binds
itself when it comes, and unbinds itself before it ends.  An anonymous thread is bound to the
default filament by its first report, and let go when it ends.  They take their steps in any order.

Whatever they do, the bindings of all other threads stay as they are, and so does the default
filament.  So when the last guest has ended, the table is what it was before the first one came.
-/

namespace Testbench

/-- The roster once a thread was given a binding on its first report. -/
def Roster.adopting (r : Roster) (a : Adoption) : Roster :=
  { r with adoptions :=
      (r.adoptions.filter fun x => x.thread ≠ a.thread || !r.isStale x) ++ [a] }

namespace Guests

variable {ρ ε : Type}

/-- How far a thread has come as a guest. -/
inductive Stage
  /-- It has not come yet, or has ended. -/
  | away
  /-- It runs. If it is bound, then by its first report. -/
  | present
  /-- It bound itself, and is to unbind itself. -/
  | seated
deriving DecidableEq, Repr

/-- The world, and how far each thread has come. -/
structure State (ρ ε : Type) where
  world : World ρ ε
  stage : ThreadId → Stage

namespace State

/-- The state after a thread came to another stage, in a world. -/
def move (s : State ρ ε) (t : ThreadId) (φ : Stage) (w : World ρ ε) : State ρ ε :=
  ⟨w, Function.update s.stage t φ⟩

@[simp] lemma move_world (s : State ρ ε) (t : ThreadId) (φ : Stage) (w : World ρ ε) :
    (s.move t φ w).world = w := rfl

@[simp] lemma move_stage_self (s : State ρ ε) (t : ThreadId) (φ : Stage) (w : World ρ ε) :
    (s.move t φ w).stage t = φ := Function.update_self ..

lemma move_stage_of_ne (s : State ρ ε) {t u : ThreadId} (h : u ≠ t) (φ : Stage) (w : World ρ ε) :
    (s.move t φ w).stage u = s.stage u := Function.update_of_ne h ..

/-- The bindings of those who are no guests. -/
def others (s : State ρ ε) (reg : RegistryId) : List Binding :=
  (s.world.roster.table reg).bindings.filter fun b => s.stage b.thread = .away

end State

/-- Whatever happened, it left a registry alone, and the adoptions into it. -/
structure Untouched (reg : RegistryId) (w w' : World ρ ε) : Prop where
  threads : w.threads.items.size ≤ w'.threads.items.size
  registry : w'.roster.registries.get? reg = w.roster.registries.get? reg
  adoptions : ∀ a ∈ w.roster.adoptions, a.registry = reg → w.roster.isStale a = false →
    a ∈ w'.roster.adoptions

section

variable (reg : RegistryId)

/-- One step: of a guest, or of anybody elsewhere. -/
inductive Step : State ρ ε → State ρ ε → Prop
  /-- A guest comes. -/
  | comes {s t w} (h : World.newThread s.world = (.ok t, w)) : Step s (s.move t .present w)
  /-- A guest binds itself. -/
  | sits {s t f r} (ht : s.stage t = .present)
      (h : s.world.roster.onTable reg (.error .unknownThread) (·.bind ⟨t, f, true⟩) = (.ok (), r)) :
      Step s (s.move t .seated { s.world with roster := r })
  /-- A guest unbinds itself. -/
  | rises {s t b r} (ht : s.stage t = .seated)
      (h : s.world.roster.onTable reg none (·.unbind t) = (b, r)) :
      Step s (s.move t .present { s.world with roster := r })
  /-- A guest is bound to the default filament. -/
  | adopts {s t f r} (ht : s.stage t = .present) (hf : s.world.roster.default? reg = some f)
      (h : s.world.roster.onTable reg (.error .unknownThread) (·.bind ⟨t, f, false⟩)
        = (.ok (), r)) :
      Step s (s.move t .present { s.world with roster := r.adopting ⟨t, reg, f⟩ })
  /-- A guest ends. -/
  | ends {s t} (ht : s.stage t = .present) :
      Step s (s.move t .away { s.world with roster := s.world.roster.threadEnded t })
  /-- Something happens that leaves the registry alone. -/
  | elsewhere {s w} (h : Untouched reg s.world w) : Step s { s with world := w }

/-- Any number of steps of anybody. -/
def Runs : State ρ ε → State ρ ε → Prop := Relation.ReflTransGen (Step reg)

/-- What stays as long as there are guests: the bindings `base` of all others and the default
filament `d`. -/
structure Keeps (base : List Binding) (d : Option FilamentId) (s : State ρ ε) : Prop where
  fits : (s.world.roster.table reg).Fits
  /-- Only threads that exist are bound, -/
  bound_lt : ∀ b ∈ (s.world.roster.table reg).bindings, b.thread < s.world.threads.items.size
  /-- and only such are guests. -/
  guest_lt : ∀ t, s.stage t ≠ .away → t < s.world.threads.items.size
  others : (s.others reg).Perm base
  /-- A guest that did not bind itself was adopted, and will be let go. -/
  adopted : ∀ b ∈ (s.world.roster.table reg).bindings, s.stage b.thread = .present →
    ⟨b.thread, reg, b.filament⟩ ∈ s.world.roster.adoptions
  /-- A guest that bound itself is bound. -/
  seated : ∀ t, s.stage t = .seated → ∃ b ∈ (s.world.roster.table reg).bindings, b.thread = t
  default_eq : s.world.roster.default? reg = d

end

variable {reg : RegistryId} {base : List Binding} {d : Option FilamentId} {s s' : State ρ ε}
  {t : ThreadId} {φ : Stage} {w : World ρ ε}

/-! ### One step -/

/-- A guest moves: the bindings of all others stay, and its own are as its new stage has them. -/
lemma Keeps.move (h : Keeps reg base d s) (ht : s.stage t ≠ .away)
    (hthreads : w.threads = s.world.threads)
    (hdefault : w.roster.default? reg = s.world.roster.default? reg)
    (hfits : (w.roster.table reg).Fits)
    (hrest : ((w.roster.table reg).bindings.filter (·.thread ≠ t)).Perm
      ((s.world.roster.table reg).bindings.filter (·.thread ≠ t)))
    (hadoptions : ∀ a ∈ s.world.roster.adoptions, a.thread ≠ t → a ∈ w.roster.adoptions)
    (hown : ∀ b ∈ (w.roster.table reg).bindings, b.thread = t →
      φ ≠ .away ∧ (φ = .present → ⟨t, reg, b.filament⟩ ∈ w.roster.adoptions))
    (hseat : φ = .seated → ∃ b ∈ (w.roster.table reg).bindings, b.thread = t) :
    Keeps reg base d (s.move t φ w) := by
  have hmem (b : Binding) (hb : b.thread ≠ t) :
      b ∈ (w.roster.table reg).bindings ↔ b ∈ (s.world.roster.table reg).bindings := by
    have := hrest.mem_iff (a := b)
    simpa [List.mem_filter, hb] using this
  constructor
  · exact hfits
  · intro b hb
    change b.thread < w.threads.items.size
    rw [hthreads]
    by_cases heq : b.thread = t
    · exact heq ▸ h.guest_lt t ht
    · exact h.bound_lt b ((hmem b heq).mp hb)
  · intro u hu
    change u < w.threads.items.size
    rw [hthreads]
    by_cases heq : u = t
    · exact heq ▸ h.guest_lt t ht
    · refine h.guest_lt u ?_
      rwa [s.move_stage_of_ne heq] at hu
  · -- none of the bindings of `t` is among the others, neither before nor after
    have hbefore : s.others reg =
        ((s.world.roster.table reg).bindings.filter (·.thread ≠ t)).filter
          fun b => s.stage b.thread = .away := by
      rw [State.others, List.filter_filter]
      refine List.filter_congr fun b _ => ?_
      by_cases heq : b.thread = t
      · simp [heq, ht]
      · simp [heq]
    have hafter : (s.move t φ w).others reg =
        ((w.roster.table reg).bindings.filter (·.thread ≠ t)).filter
          fun b => s.stage b.thread = .away := by
      rw [State.others, List.filter_filter]
      refine List.filter_congr fun b hb => ?_
      by_cases heq : b.thread = t
      · simp [State.move, heq, (hown b hb heq).1]
      · simp [State.move, heq]
    rw [hafter]
    exact (hrest.filter _).trans (.trans (.of_eq hbefore.symm) h.others)
  · intro b hb hstage
    by_cases heq : b.thread = t
    · have hφ : φ = .present := by simpa [State.move, heq] using hstage
      exact heq ▸ (hown b hb heq).2 hφ
    · have hb' := (hmem b heq).mp hb
      refine hadoptions _ (h.adopted b hb' ?_) heq
      simpa [State.move, heq] using hstage
  · intro u hu
    by_cases heq : u = t
    · have hφ : φ = .seated := by simpa [State.move, heq] using hu
      exact heq ▸ hseat hφ
    · obtain ⟨b, hb, rfl⟩ := h.seated u (by simpa [State.move, heq] using hu)
      exact ⟨b, (hmem b heq).mpr hb, rfl⟩
  · exact hdefault.trans h.default_eq

/-- A thread that is put into the table was not there before. -/
lemma table_bind {r r' : Roster} {b : Binding}
    (h : r.onTable reg (.error .unknownThread) (·.bind b) = (.ok (), r')) :
    b.thread ∉ (r.table reg).bindings.map Binding.thread ∧
      (r'.table reg).bindings = (r.table reg).bindings ++ [b] ∧
      ((r.table reg).Fits → (r'.table reg).Fits) ∧ r'.adoptions = r.adoptions := by
  cases hg : r.registries.get? reg with
  | none =>
    rw [Roster.onTable_of_none hg] at h
    cases h
  | some g =>
    have htable := Roster.table_onTable hg (.error .unknownThread) (·.bind b) reg
    rw [h, if_pos rfl] at htable
    have hadoptions : r'.adoptions = r.adoptions := (congrArg (·.2.adoptions) h).symm
    rw [Roster.onTable_eq hg] at h
    have hok := congrArg Prod.fst h
    rw [htable, Roster.table_eq hg]
    refine ⟨?_, ?_, fun hfits => hfits.bind b, hadoptions⟩ <;>
      rcases g.table.bind_cases b with ⟨hfree, -, hbind⟩ | ⟨-, hbind⟩ | ⟨-, -, hbind⟩ <;>
        rw [hbind] at hok <;> try cases hok
    · exact hfree
    · rw [hbind]

/-- A guest is put into the table, by itself or by its first report. -/
lemma Keeps.bind (h : Keeps reg base d s) {f : FilamentId} {guarded : Bool} {r : Roster}
    (ht : s.stage t = .present)
    (hbind : s.world.roster.onTable reg (.error .unknownThread) (·.bind ⟨t, f, guarded⟩)
      = (.ok (), r))
    (hregistries : w.roster.registries = r.registries) (hthreads : w.threads = s.world.threads)
    (hadoptions : ∀ a ∈ r.adoptions, a.thread ≠ t → a ∈ w.roster.adoptions)
    (hφ : φ ≠ .away) (hadopted : φ = .present → ⟨t, reg, f⟩ ∈ w.roster.adoptions) :
    Keeps reg base d (s.move t φ w) := by
  obtain ⟨hfree, htable, hfits, hsame⟩ := table_bind hbind
  have hsame' : w.roster.table reg = r.table reg := Roster.table_congr hregistries reg
  refine h.move (by simp [ht]) hthreads ?_ (hsame' ▸ hfits h.fits) ?_ (hsame ▸ hadoptions) ?_ ?_
  · have hdefault := s.world.roster.default?_onTable reg (.error .unknownThread)
      (·.bind ⟨t, f, guarded⟩) reg
    rw [hbind] at hdefault
    exact (Roster.default?_congr hregistries reg).trans hdefault
  · rw [hsame', htable, List.filter_append]
    simp
  · intro b hb heq
    refine ⟨hφ, fun hpresent => ?_⟩
    rw [hsame', htable, List.mem_append, List.mem_singleton] at hb
    rcases hb with hb | rfl
    · exact absurd (List.mem_map.mpr ⟨b, hb, heq⟩) hfree
    · exact hadopted hpresent
  · intro _
    exact ⟨⟨t, f, guarded⟩, by simp [hsame', htable], rfl⟩

/-- A guest unbinds itself. -/
lemma Keeps.rises (h : Keeps reg base d s) {b? : Option Binding} {r : Roster}
    (ht : s.stage t = .seated) (hunbind : s.world.roster.onTable reg none (·.unbind t) = (b?, r)) :
    Keeps reg base d (s.move t .present { s.world with roster := r }) := by
  have htable := s.world.roster.table_takeOut reg none (f := (·.unbind t)) rfl reg
  have hdefault := s.world.roster.default?_onTable reg none (·.unbind t) reg
  have hadoptions : r.adoptions = s.world.roster.adoptions :=
    (congrArg (·.2.adoptions) hunbind).symm
  rw [hunbind, if_pos rfl] at htable
  rw [hunbind] at hdefault
  have hperm := h.fits.unbind_perm_filter t
  rw [← htable] at hperm
  have hgone : ∀ b ∈ (r.table reg).bindings, b.thread ≠ t := fun b hb => by
    simpa using (List.mem_filter.mp (hperm.mem_iff.mp hb)).2
  refine h.move (by simp [ht]) rfl hdefault ?_ ?_ (fun a ha _ => hadoptions ▸ ha) ?_ nofun
  · rw [show r.table reg = _ from htable]
    exact h.fits.of_perm ((s.world.roster.table reg).unbind_perm t)
  · simpa using hperm.filter (·.thread ≠ t)
  · exact fun b hb heq => absurd heq (hgone b hb)

/-- A guest ends, and with it its binding, if it was adopted. -/
lemma Keeps.ends (h : Keeps reg base d s) (ht : s.stage t = .present) :
    Keeps reg base d (s.move t .away { s.world with roster := s.world.roster.threadEnded t }) := by
  have hperm := Roster.threadEnded_perm h.fits t
  have hgone : ∀ b ∈ ((s.world.roster.threadEnded t).table reg).bindings, b.thread ≠ t := by
    intro b hb heq
    obtain ⟨hmem, hstays⟩ := List.mem_filter.mp (hperm.mem_iff.mp hb)
    subst heq
    simp [h.adopted b hmem ht] at hstays
  refine h.move (by simp [ht]) rfl (Roster.default?_threadEnded ..) ?_ ?_ ?_ ?_ nofun
  · have hsplit := List.filter_append_perm (fun b : Binding =>
      b.thread = t && decide (⟨t, reg, b.filament⟩ ∈ s.world.roster.adoptions))
      (s.world.roster.table reg).bindings
    exact h.fits.of_perm (hsplit.symm.trans (hperm.symm.append_left _))
  · refine (hperm.filter _).trans (.of_eq ?_)
    rw [List.filter_filter]
    refine List.filter_congr fun b _ => ?_
    by_cases heq : b.thread = t <;> simp [heq]
  · intro a ha hne
    rw [Roster.threadEnded_adoptions]
    exact List.mem_filter.mpr ⟨ha, by simpa using hne⟩
  · exact fun b hb heq => absurd heq (hgone b hb)

/-- A thread that was just made was no guest. -/
lemma Keeps.away_of_newThread (h : Keeps reg base d s)
    (hnew : World.newThread s.world = (.ok t, w)) : s.stage t = .away := by
  obtain ⟨rfl, -, -⟩ := World.newThread_ok hnew
  by_contra hguest
  exact Nat.lt_irrefl _ (h.guest_lt _ hguest)

/-- A guest comes that nobody knew. -/
lemma Keeps.comes (h : Keeps reg base d s) (hnew : World.newThread s.world = (.ok t, w)) :
    Keeps reg base d (s.move t .present w) := by
  obtain ⟨rfl, hsize, hroster⟩ := World.newThread_ok hnew
  have hold (b : Binding) (hb : b ∈ (s.world.roster.table reg).bindings) :
      (s.move s.world.threads.items.size .present w).stage b.thread = s.stage b.thread :=
    Function.update_of_ne (Nat.ne_of_lt (h.bound_lt b hb)) ..
  have hsame : (s.move s.world.threads.items.size .present w).world.roster = s.world.roster :=
    hroster
  constructor
  · exact hsame ▸ h.fits
  · intro b hb
    rw [hsame] at hb
    exact Nat.lt_of_lt_of_le (h.bound_lt b hb) (hsize ▸ Nat.le_succ _)
  · intro u hu
    change u < w.threads.items.size
    rw [hsize]
    by_cases heq : u = s.world.threads.items.size
    · exact heq ▸ Nat.lt_succ_self _
    · rw [State.move_stage_of_ne s heq] at hu
      exact Nat.lt_succ_of_lt (h.guest_lt u hu)
  · refine .trans (.of_eq ?_) h.others
    rw [State.others, State.others, hsame]
    exact List.filter_congr fun b hb => by rw [hold b hb]
  · intro b hb hstage
    rw [hsame] at hb ⊢
    exact h.adopted b hb (hold b hb ▸ hstage)
  · intro u hu
    rw [hsame]
    by_cases heq : u = s.world.threads.items.size
    · subst heq
      simp [State.move] at hu
    · exact h.seated u (by simpa [State.move, heq] using hu)
  · exact hsame ▸ h.default_eq

lemma table_of_get? {r r' : Roster} (h : r'.registries.get? reg = r.registries.get? reg) :
    r'.table reg = r.table reg ∧ r'.default? reg = r.default? reg := by
  simp [Roster.table, Roster.default?, h]

/-- What happens elsewhere changes nothing here. -/
lemma Keeps.elsewhere (h : Keeps reg base d s) (hw : Untouched reg s.world w) :
    Keeps reg base d { s with world := w } := by
  obtain ⟨htable, hdefault⟩ := table_of_get? hw.registry
  have hothers : State.others { s with world := w } reg = s.others reg := by
    rw [State.others, State.others, htable]
  constructor
  · exact htable ▸ h.fits
  · intro b hb
    rw [htable] at hb
    exact Nat.lt_of_lt_of_le (h.bound_lt b hb) hw.threads
  · exact fun u hu => Nat.lt_of_lt_of_le (h.guest_lt u hu) hw.threads
  · exact hothers ▸ h.others
  · intro b hb hstage
    rw [htable] at hb
    refine hw.adoptions _ (h.adopted b hb hstage) rfl ?_
    have hlookup := (ThreadTable.lookup?_eq_some_iff h.fits).mpr ⟨hb, rfl⟩
    simp [Roster.isStale, ThreadTable.isBoundTo, hlookup]
  · exact fun u hu => htable ▸ h.seated u hu
  · exact hdefault.trans h.default_eq

/-! ### Any number of steps -/

/-- Whatever one of them does, the others stay bound as they are, and so does the default filament.
-/
lemma Keeps.step (h : Keeps reg base d s) (hstep : Step reg s s') : Keeps reg base d s' := by
  cases hstep with
  | comes hnew => exact h.comes hnew
  | sits ht hbind => exact h.bind ht hbind rfl rfl (fun _ ha _ => ha) nofun nofun
  | rises ht hunbind => exact h.rises ht hunbind
  | adopts ht hf hbind =>
    refine h.bind ht hbind rfl rfl (fun a ha hne => ?_) nofun fun _ => ?_
    · exact List.mem_append_left _ (List.mem_filter.mpr ⟨ha, by simp [hne]⟩)
    · exact List.mem_append_right _ (List.mem_singleton_self _)
  | ends ht => exact h.ends ht
  | elsewhere hw => exact h.elsewhere hw

theorem Keeps.runs (h : Keeps reg base d s) (hruns : Runs reg s s') : Keeps reg base d s' := by
  induction hruns with
  | refl => exact h
  | tail _ hstep ih => exact ih.step hstep

/-- No thread is forgotten. -/
lemma Step.threads_le (h : Step reg s s') :
    s.world.threads.items.size ≤ s'.world.threads.items.size := by
  cases h with
  | comes hnew => exact (World.newThread_ok hnew).2.1 ▸ Nat.le_succ _
  | elsewhere hw => exact hw.threads
  | _ => exact Nat.le_refl _

/-- A thread that was there before and is no guest does not become one. -/
lemma Runs.stage_of_away (h : Runs reg s s') (hlt : t < s.world.threads.items.size)
    (ht : s.stage t = .away) : t < s'.world.threads.items.size ∧ s'.stage t = .away := by
  induction h with
  | refl => exact ⟨hlt, ht⟩
  | @tail s₁ s₂ _ hstep ih =>
    refine ⟨Nat.lt_of_lt_of_le ih.1 hstep.threads_le, ?_⟩
    have hmove {u : ThreadId} {φ : Stage} {w : World ρ ε} (hne : t ≠ u) :
        (s₁.move u φ w).stage t = .away := (s₁.move_stage_of_ne hne φ w).trans ih.2
    have hguest {u : ThreadId} (hu : s₁.stage u ≠ .away) : t ≠ u := fun heq => hu (heq ▸ ih.2)
    cases hstep with
    | comes hnew => exact hmove (Nat.ne_of_lt ((World.newThread_ok hnew).1 ▸ ih.1))
    | sits hu | rises hu | adopts hu | ends hu => exact hmove (hguest (by simp [hu]))
    | elsewhere => exact ih.2

/-- Once there are no guests, the table holds what it held before there were any. -/
lemma Keeps.perm (h : Keeps reg base d s) (haway : ∀ t, s.stage t = .away) :
    (s.world.roster.table reg).bindings.Perm base := by
  refine .trans (.of_eq ?_) h.others
  rw [State.others]
  exact (List.filter_eq_self.mpr fun b _ => by simp [haway]).symm

end Guests

end Testbench
