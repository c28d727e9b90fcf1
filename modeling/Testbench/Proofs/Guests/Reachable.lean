import Testbench.Proofs.Guests.Program

/-!
# What registries come to

Threads come, bind themselves and others, report, unbind themselves and end; filaments and
registries are made, and default filaments are installed and revoked.  Whatever comes of it, in
whatever order, no thread is bound twice in a registry, and only threads and filaments that exist
are bound in one.
-/

namespace Testbench.Guests

open World

variable {ρ ε : Type}

/-- A world that comes of what can be done with registries. -/
inductive Reachable : World ρ ε → Prop
  /-- At first nobody is bound, and there is no default filament. -/
  | start {w} (hcurrent : w.current < w.threads.items.size)
      (hempty : ∀ reg, w.roster.table reg = {} ∧ w.roster.default? reg = none) : Reachable w
  | thread {w t w'} (h : Reachable w) (hnew : newThread w = (.ok t, w')) : Reachable w'
  | filament {w} (h : Reachable w) (o : ObserverId) (flags : FilamentFlags) (t : ThreadId) :
      Reachable { w with roster := (w.roster.newFilament o flags t).2 }
  | registry {w} (h : Reachable w) (kind : Registry.Kind) :
      Reachable { w with roster := (w.roster.newRegistry kind).2 }
  | attach {w} (h : Reachable w) (reg : RegistryId) (b : Binding)
      (hthread : b.thread < w.threads.items.size)
      (hfilament : b.filament < w.roster.filaments.items.size) :
      Reachable { w with roster := (w.roster.attach reg b).2 }
  | current {w} (h : Reachable w) (reg : RegistryId) (t : ThreadId) (derive : Bool)
      (hthread : t < w.threads.items.size) :
      Reachable { w with roster := (w.roster.current reg t derive).2 }
  | detach {w} (h : Reachable w) (reg : RegistryId) (t : ThreadId) :
      Reachable { w with roster := w.roster.detach reg t }
  | ended {w} (h : Reachable w) (t : ThreadId) :
      Reachable { w with roster := w.roster.threadEnded t }
  | install {w} (h : Reachable w) (reg : RegistryId) (o : ObserverId) (flags : FilamentFlags)
      (t : ThreadId) : Reachable { w with roster := (w.roster.installDefault reg o flags t).2 }
  | revoke {w} (h : Reachable w) (reg : RegistryId) (f : FilamentId) :
      Reachable { w with roster := w.roster.revokeDefault reg f }
  /-- Everything else is nothing to registries. -/
  | besides {w w'} (h : Reachable w) (hcurrent : w'.current < w'.threads.items.size)
      (hthreads : w.threads.items.size ≤ w'.threads.items.size)
      (hfilaments : w.roster.filaments.items.size ≤ w'.roster.filaments.items.size)
      (hregistries : w'.roster.registries = w.roster.registries) : Reachable w'

/-- What is so of registries at all times. -/
structure Orderly (w : World ρ ε) : Prop where
  current_lt : w.current < w.threads.items.size
  fits : ∀ reg, (w.roster.table reg).Fits
  thread_lt : ∀ reg, ∀ b ∈ (w.roster.table reg).bindings, b.thread < w.threads.items.size
  filament_lt : ∀ reg, ∀ b ∈ (w.roster.table reg).bindings,
    b.filament < w.roster.filaments.items.size
  default_lt : ∀ reg f, w.roster.default? reg = some f → f < w.roster.filaments.items.size

variable {w w' : World ρ ε} {r : Roster}

/-- Bindings went, and nothing else happened to the registries. -/
lemma Orderly.of_subset (h : Orderly w) (hcurrent : w'.current < w'.threads.items.size)
    (hthreads : w.threads.items.size ≤ w'.threads.items.size)
    (hfilaments : w.roster.filaments.items.size ≤ w'.roster.filaments.items.size)
    (hfits : ∀ reg, (w'.roster.table reg).Fits)
    (hsubset : ∀ reg, (w'.roster.table reg).bindings ⊆ (w.roster.table reg).bindings)
    (hdefault : ∀ reg f, w'.roster.default? reg = some f → w.roster.default? reg = some f) :
    Orderly w' where
  current_lt := hcurrent
  fits := hfits
  thread_lt reg b hb := Nat.lt_of_lt_of_le (h.thread_lt reg b (hsubset reg hb)) hthreads
  filament_lt reg b hb := Nat.lt_of_lt_of_le (h.filament_lt reg b (hsubset reg hb)) hfilaments
  default_lt reg f hf := Nat.lt_of_lt_of_le (h.default_lt reg f (hdefault reg f hf)) hfilaments

lemma Orderly.of_registries (h : Orderly w) (hcurrent : w'.current < w'.threads.items.size)
    (hthreads : w.threads.items.size ≤ w'.threads.items.size)
    (hfilaments : w.roster.filaments.items.size ≤ w'.roster.filaments.items.size)
    (hregistries : w'.roster.registries = w.roster.registries) : Orderly w' := by
  refine h.of_subset hcurrent hthreads hfilaments (fun reg => ?_) (fun reg => ?_) fun reg f hf => ?_
  · exact Roster.table_congr hregistries reg ▸ h.fits reg
  · exact Roster.table_congr hregistries reg ▸ fun _ hb => hb
  · exact Roster.default?_congr hregistries reg ▸ hf

/-! ### Numbers of filaments -/

lemma size_modify {γ : Type} (p : Pool γ) (i : Nat) (f : γ → γ) :
    (p.modify i f).items.size = p.items.size := Array.size_modify

lemma prepare_size (r : Roster) (b : Binding) :
    (r.prepare b).2.filaments.items.size = r.filaments.items.size := by
  rw [Roster.prepare]
  split
  · rfl
  · dsimp only
    rw [Pool.update]
    split
    · rfl
    · exact Array.size_setIfInBounds

lemma release_size (r : Roster) (b : Binding) :
    (r.release b).filaments.items.size = r.filaments.items.size := by
  rw [Roster.release]
  split
  · rfl
  · exact size_modify ..

lemma onTable_filaments {α : Type} (r : Roster) (reg : RegistryId) (fallback : α)
    (f : ThreadTable → α × ThreadTable) :
    (r.onTable reg fallback f).2.filaments = r.filaments := rfl

lemma detach_size (r : Roster) (reg : RegistryId) (t : ThreadId) :
    (r.detach reg t).filaments.items.size = r.filaments.items.size := by
  have hsame := congrArg (·.items.size) (onTable_filaments r reg none (·.unbind t))
  rw [Roster.detach]
  rcases hunbind : r.onTable reg none (·.unbind t) with ⟨- | b, r'⟩ <;> rw [hunbind] at hsame
  · exact hsame
  · exact (release_size r' b).trans hsame

lemma detachIf_size (r : Roster) (reg : RegistryId) (t : ThreadId) (f : FilamentId) :
    (r.detachIf reg t f).filaments.items.size = r.filaments.items.size := by
  have hsame := congrArg (·.items.size) (onTable_filaments r reg none (·.unbindIf t f))
  rw [Roster.detachIf]
  rcases hunbind : r.onTable reg none (·.unbindIf t f) with ⟨- | b, r'⟩ <;> rw [hunbind] at hsame
  · exact hsame
  · exact (release_size r' b).trans hsame

lemma threadEnded_size (r : Roster) (t : ThreadId) :
    (r.threadEnded t).filaments.items.size = r.filaments.items.size := by
  have hfold (l : List Adoption) (r : Roster) :
      (l.foldl (fun r a => r.detachIf a.registry a.thread a.filament) r).filaments.items.size
        = r.filaments.items.size := by
    induction l generalizing r with
    | nil => rfl
    | cons a l ih => exact (ih _).trans (detachIf_size ..)
  exact hfold _ r

lemma releaseAll_size (r : Roster) (bs : List Binding) :
    (r.releaseAll bs).filaments.items.size = r.filaments.items.size := by
  induction bs generalizing r with
  | nil => rfl
  | cons b bs ih => exact (ih (r.release b)).trans (release_size r b)

/-! ### Installing and revoking -/

/-- The roster in which a default filament is no longer the default. -/
def dismissing (r : Roster) (reg : RegistryId) (f : FilamentId) : Roster :=
  { r with registries := r.registries.modify reg fun g =>
      if g.default? = some f then { g with default? := none } else g }

lemma table_dismissing (r : Roster) (reg : RegistryId) (f : FilamentId) (reg' : RegistryId) :
    (dismissing r reg f).table reg' = r.table reg' := by
  rw [Roster.table, Roster.table, dismissing]
  by_cases hreg : reg = reg'
  · subst hreg
    rw [Pool.get?_modify_same]
    cases r.registries.get? reg with
    | none => rfl
    | some g => by_cases hg : g.default? = some f <;> simp [hg]
  · rw [Pool.get?_modify_of_ne hreg]

lemma default?_dismissing (r : Roster) (reg : RegistryId) (f : FilamentId) (reg' : RegistryId) :
    (dismissing r reg f).default? reg' =
      if reg = reg' ∧ r.default? reg = some f then none else r.default? reg' := by
  by_cases hreg : reg = reg'
  · subst hreg
    rw [Roster.default?, Roster.default?, dismissing, Pool.get?_modify_same]
    cases r.registries.get? reg with
    | none => simp
    | some g => by_cases hg : g.default? = some f <;> simp [hg]
  · rw [if_neg (fun h => hreg h.1), Roster.default?, Roster.default?, dismissing,
      Pool.get?_modify_of_ne hreg]

lemma revokeDefault_registries (r : Roster) (reg : RegistryId) (f : FilamentId) :
    (r.revokeDefault reg f).registries =
      ((dismissing r reg f).onTable reg [] (·.unbindFilament f)).2.registries :=
  Roster.releaseAll_registries _ _

/-- Nobody stays bound to a filament that is revoked, and everybody else stays bound. -/
lemma table_revokeDefault (r : Roster) (reg : RegistryId) (f : FilamentId) (reg' : RegistryId) :
    (r.revokeDefault reg f).table reg' =
      if reg = reg' then ⟨(r.table reg).bindings.filter (·.filament ≠ f)⟩ else r.table reg' := by
  have htable := (dismissing r reg f).table_takeOut reg [] (f := (·.unbindFilament f)) rfl reg'
  rw [table_dismissing, table_dismissing] at htable
  exact (Roster.table_congr (revokeDefault_registries r reg f) reg').trans htable

/-- It is no longer the default filament, if it was, and another one stays the default filament. -/
lemma default?_revokeDefault (r : Roster) (reg : RegistryId) (f : FilamentId) (reg' : RegistryId) :
    (r.revokeDefault reg f).default? reg' =
      if reg = reg' ∧ r.default? reg = some f then none else r.default? reg' := by
  rw [← default?_dismissing, Roster.default?_congr (revokeDefault_registries r reg f),
    Roster.default?_onTable]

/-- A default filament is installed where there is none. Nobody is bound to it yet. -/
lemma installDefault_cases (r : Roster) (reg : RegistryId) (o : ObserverId) (flags : FilamentFlags)
    (t : ThreadId) :
    ((∃ f, r.default? reg = some f) ∧ r.installDefault reg o flags t = (.error .conflict, r)) ∨
      ∃ r', r.installDefault reg o flags t = (.ok r.filaments.items.size, r') ∧
        r'.filaments.items.size = r.filaments.items.size + 1 ∧ r'.adoptions = r.adoptions ∧
        (∀ reg', r'.table reg' = r.table reg') ∧ r.default? reg = none ∧
        ∀ reg' f, r'.default? reg' = some f →
          r.default? reg' = some f ∨ reg = reg' ∧ f = r.filaments.items.size := by
  rw [Roster.installDefault]
  cases hnone : r.default? reg with
  | some f => exact .inl ⟨⟨f, rfl⟩, rfl⟩
  | none =>
    refine .inr ⟨_, rfl, Array.size_push _, rfl, fun reg' => ?_, rfl, fun reg' f hf => ?_⟩
    · rw [Roster.table, Roster.table]
      by_cases hreg : reg = reg'
      · subst hreg
        rw [Pool.get?_modify_same]
        dsimp only [Roster.newFilament]
        cases r.registries.get? reg <;> rfl
      · rw [Pool.get?_modify_of_ne hreg]
    · by_cases hreg : reg = reg'
      · subst hreg
        rw [Roster.default?, Pool.get?_modify_same] at hf
        dsimp only [Roster.newFilament] at hf
        cases hg : r.registries.get? reg with
        | none =>
          rw [hg] at hf
          cases hf
        | some g =>
          rw [hg] at hf
          exact .inr ⟨rfl, (Option.some.inj hf).symm⟩
      · rw [Roster.default?, Pool.get?_modify_of_ne hreg] at hf
        exact .inl hf

/-! ### Attaching -/

/-- What a binding that was made and put into a table does to a roster. -/
structure Attached (r : Roster) (reg : RegistryId) (b : Binding) (r' : Roster) : Prop where
  free : b.thread ∉ (r.table reg).bindings.map Binding.thread
  table_self : (r'.table reg).bindings = (r.table reg).bindings ++ [b]
  table_of_ne : ∀ reg', reg ≠ reg' → r'.table reg' = r.table reg'
  fits : ∀ reg', (r.table reg').Fits → (r'.table reg').Fits
  default_eq : ∀ reg', r'.default? reg' = r.default? reg'
  adoptions_eq : r'.adoptions = r.adoptions
  size_eq : r'.filaments.items.size = r.filaments.items.size

/-- Nothing but the table changes, and the count of children. -/
lemma attach_ok {r' : Roster} {reg : RegistryId} {b : Binding}
    (h : r.attach reg b = (.ok (), r')) : Attached r reg b r' := by
  have hadoptions := r.attach_adoptions reg b
  rw [h] at hadoptions
  rcases r.attach_cases reg b with ⟨why, r₁, -, hattach⟩ |
    ⟨r₁, hprepare, ⟨r₂, hbind, hattach⟩ | ⟨why, r₂, -, hattach⟩⟩ <;>
      rw [hattach] at h <;> cases h
  have hregistries : r₁.registries = r.registries :=
    (congrArg (·.2.registries) hprepare).symm.trans (Roster.prepare_registries ..)
  have hsize : r₁.filaments.items.size = r.filaments.items.size :=
    (congrArg (·.2.filaments.items.size) hprepare).symm.trans (prepare_size r b)
  obtain ⟨hfree, htable, hfits, -⟩ := table_bind hbind
  rw [Roster.table_congr hregistries] at hfree htable hfits
  have hother (reg' : RegistryId) (hreg : reg ≠ reg') : r'.table reg' = r.table reg' := by
    cases hg : r₁.registries.get? reg with
    | none =>
      rw [Roster.onTable_of_none hg] at hbind
      cases hbind
    | some g =>
      have := Roster.table_onTable hg (.error .unknownThread) (·.bind b) reg'
      rw [hbind, if_neg hreg] at this
      exact this.trans (Roster.table_congr hregistries reg')
  refine ⟨hfree, htable, hother, fun reg' hreg' => ?_, fun reg' => ?_, hadoptions, ?_⟩
  · by_cases hreg : reg = reg'
    · subst hreg
      exact hfits hreg'
    · exact hother reg' hreg ▸ hreg'
  · have hdefault := r₁.default?_onTable reg (.error .unknownThread) (·.bind b) reg'
    rw [hbind] at hdefault
    exact hdefault.trans (Roster.default?_congr hregistries reg')
  · exact (congrArg (·.2.filaments.items.size) hbind).symm.trans hsize

lemma Attached.mem {r' : Roster} {reg : RegistryId} {b : Binding} (h : Attached r reg b r')
    {reg' : RegistryId} {c : Binding} (hc : c ∈ (r'.table reg').bindings) :
    c ∈ (r.table reg').bindings ∨ reg = reg' ∧ c = b := by
  by_cases hreg : reg = reg'
  · subst hreg
    rw [h.table_self, List.mem_append, List.mem_singleton] at hc
    exact hc.imp_right fun heq => ⟨rfl, heq⟩
  · exact .inl (h.table_of_ne reg' hreg ▸ hc)

/-! ### All that can be done -/

/-- A thread that is bound is one that exists, and so is the filament. -/
lemma Orderly.attach (h : Orderly w) (reg : RegistryId) {b : Binding}
    (hthread : b.thread < w.threads.items.size)
    (hfilament : b.filament < w.roster.filaments.items.size) :
    Orderly { w with roster := (w.roster.attach reg b).2 } := by
  rcases hattach : w.roster.attach reg b with ⟨why | u, r⟩
  · rw [Accounts.attach_error_eq hattach]
    exact h
  · have hattached := attach_ok hattach
    constructor
    · exact h.current_lt
    · exact fun reg' => hattached.fits reg' (h.fits reg')
    · intro reg' c hc
      rcases hattached.mem hc with hc | ⟨-, rfl⟩
      · exact h.thread_lt reg' c hc
      · exact hthread
    · intro reg' c hc
      change c.filament < r.filaments.items.size
      rw [hattached.size_eq]
      rcases hattached.mem hc with hc | ⟨-, rfl⟩
      · exact h.filament_lt reg' c hc
      · exact hfilament
    · intro reg' f hf
      change f < r.filaments.items.size
      rw [hattached.size_eq]
      exact h.default_lt reg' f ((hattached.default_eq reg').symm.trans hf)

lemma Orderly.current (h : Orderly w) (reg : RegistryId) {t : ThreadId} (derive : Bool)
    (hthread : t < w.threads.items.size) :
    Orderly { w with roster := (w.roster.current reg t derive).2 } := by
  rcases w.roster.current_cases reg t derive with hsame | ⟨f, hf, hsame | ⟨kept, -, hsame⟩⟩ <;>
    rw [hsame]
  · exact h
  · exact h.attach reg hthread (h.default_lt reg f hf)
  · have hattached := h.attach reg (b := ⟨t, f, false⟩) hthread (h.default_lt reg f hf)
    exact hattached.of_registries hattached.current_lt (Nat.le_refl _) (Nat.le_refl _) rfl

lemma Orderly.detach (h : Orderly w) (reg : RegistryId) (t : ThreadId) :
    Orderly { w with roster := w.roster.detach reg t } := by
  have hperm := (w.roster.table reg).unbind_perm t
  refine h.of_subset h.current_lt (Nat.le_refl _) (Nat.le_of_eq (detach_size ..).symm)
    (fun reg' => ?_) (fun reg' => ?_) fun reg' f hf => Roster.default?_detach .. ▸ hf
  all_goals
    rw [Roster.table_detach]
    split
  · rename_i hreg
    subst hreg
    exact (h.fits reg).of_perm hperm
  · exact h.fits reg'
  · rename_i hreg
    subst hreg
    exact fun c hc => hperm.mem_iff.mpr (List.mem_append_right _ hc)
  · exact fun _ hc => hc

lemma Orderly.ended (h : Orderly w) (t : ThreadId) :
    Orderly { w with roster := w.roster.threadEnded t } := by
  have hperm (reg : RegistryId) := Roster.threadEnded_perm (h.fits reg) t
  refine h.of_subset h.current_lt (Nat.le_refl _) (Nat.le_of_eq (threadEnded_size ..).symm)
    (fun reg => ?_) (fun reg => ?_) fun reg f hf => Roster.default?_threadEnded .. ▸ hf
  · exact (h.fits reg).of_sublist (hperm reg) List.filter_sublist
  · exact fun c hc => List.mem_of_mem_filter ((hperm reg).mem_iff.mp hc)

lemma Orderly.install (h : Orderly w) (reg : RegistryId) (o : ObserverId) (flags : FilamentFlags)
    (t : ThreadId) : Orderly { w with roster := (w.roster.installDefault reg o flags t).2 } := by
  rcases installDefault_cases w.roster reg o flags t with ⟨-, hinstall⟩ |
    ⟨r, hinstall, hsize, -, htable, -, hdefault⟩ <;> rw [hinstall]
  · exact h
  · have hle : w.roster.filaments.items.size ≤ r.filaments.items.size := hsize ▸ Nat.le_succ _
    constructor
    · exact h.current_lt
    · exact fun reg' => htable reg' ▸ h.fits reg'
    · exact fun reg' b hb => h.thread_lt reg' b (htable reg' ▸ hb)
    · exact fun reg' b hb => Nat.lt_of_lt_of_le (h.filament_lt reg' b (htable reg' ▸ hb)) hle
    · intro reg' f hf
      rcases hdefault reg' f hf with hf | ⟨-, rfl⟩
      · exact Nat.lt_of_lt_of_le (h.default_lt reg' f hf) hle
      · exact hsize ▸ Nat.lt_succ_self _

lemma Orderly.revoke (h : Orderly w) (reg : RegistryId) (f : FilamentId) :
    Orderly { w with roster := w.roster.revokeDefault reg f } := by
  have hsize : (w.roster.revokeDefault reg f).filaments.items.size
      = w.roster.filaments.items.size := releaseAll_size ..
  refine h.of_subset h.current_lt (Nat.le_refl _) (Nat.le_of_eq hsize.symm) (fun reg' => ?_)
    (fun reg' => ?_) fun reg' f' hf => ?_
  · rw [table_revokeDefault]
    split
    · exact (h.fits reg).of_sublist (.refl _) List.filter_sublist
    · exact h.fits reg'
  · rw [table_revokeDefault]
    split
    · rename_i hreg
      subst hreg
      exact fun c hc => List.mem_of_mem_filter hc
    · exact fun _ hc => hc
  · rw [default?_revokeDefault] at hf
    split at hf
    · cases hf
    · exact hf

/-- A new registry has nobody in its table, and no default filament. -/
lemma newRegistry_same (r : Roster) (kind : Registry.Kind) (reg : RegistryId) :
    (r.newRegistry kind).2.table reg = r.table reg ∧
      (r.newRegistry kind).2.default? reg = r.default? reg := by
  by_cases hreg : reg = (r.registries.add { kind }).1
  · have hnew : (r.newRegistry kind).2.registries.get? reg = some { kind } :=
      hreg ▸ Pool.get?_add_self _ _
    have hold : r.registries.get? reg = none := hreg ▸ Array.getElem?_size
    simp [Roster.table, Roster.default?, hnew, hold]
  · exact table_of_get? (Pool.get?_add_of_ne _ _ hreg)

lemma Orderly.registry (h : Orderly w) (kind : Registry.Kind) :
    Orderly { w with roster := (w.roster.newRegistry kind).2 } := by
  have hsame := newRegistry_same w.roster kind
  exact h.of_subset h.current_lt (Nat.le_refl _) (Nat.le_refl _)
    (fun reg => (hsame reg).1 ▸ h.fits reg) (fun reg => (hsame reg).1 ▸ fun _ hb => hb)
    fun reg _ hf => (hsame reg).2 ▸ hf

theorem Reachable.orderly (h : Reachable w) : Orderly w := by
  induction h with
  | start hcurrent hempty =>
    constructor
    · exact hcurrent
    · exact fun reg => (hempty reg).1 ▸ ThreadTable.fits_empty
    · intro reg b hb
      rw [(hempty reg).1] at hb
      cases hb
    · intro reg b hb
      rw [(hempty reg).1] at hb
      cases hb
    · intro reg f hf
      rw [(hempty reg).2] at hf
      cases hf
  | thread _ hnew ih =>
    obtain ⟨-, hsize, hroster⟩ := newThread_ok hnew
    cases hnew
    exact ih.of_registries (Nat.lt_of_lt_of_le ih.current_lt (hsize ▸ Nat.le_succ _))
      (hsize ▸ Nat.le_succ _) (Nat.le_refl _) rfl
  | filament _ o flags t ih =>
    exact ih.of_registries ih.current_lt (Nat.le_refl _)
      (Nat.le_of_lt (Array.size_push _ ▸ Nat.lt_succ_self _)) rfl
  | registry _ kind ih => exact ih.registry kind
  | attach _ reg b hthread hfilament ih => exact ih.attach reg hthread hfilament
  | current _ reg t derive hthread ih => exact ih.current reg derive hthread
  | detach _ reg t ih => exact ih.detach reg t
  | ended _ t ih => exact ih.ended t
  | install _ reg o flags t ih => exact ih.install reg o flags t
  | revoke _ reg f ih => exact ih.revoke reg f
  | besides _ hcurrent hthreads hfilaments hregistries ih =>
    exact ih.of_registries hcurrent hthreads hfilaments hregistries

/-- Nobody is a guest yet. -/
def nobody : ThreadId → Stage := fun _ => .away

/-- Before the first guest comes, all are others. -/
theorem Orderly.keeps (h : Orderly w) (reg : RegistryId) :
    Keeps reg (w.roster.table reg).bindings (w.roster.default? reg) ⟨w, nobody⟩ where
  fits := h.fits reg
  bound_lt := h.thread_lt reg
  guest_lt _ ht := absurd rfl ht
  others := .of_eq (List.filter_eq_self.mpr fun _ _ => rfl)
  adopted _ _ h := nomatch h
  seated _ h := nomatch h
  default_eq := rfl

end Testbench.Guests
