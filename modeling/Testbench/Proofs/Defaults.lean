import Testbench.Proofs.Guests.Reachable

/-!
# Default filaments

A registry may have a default filament, which adopts the threads that report and that nobody bound.
A binding that came of an adoption can go in three ways: its thread unbinds itself, its thread ends,
or the default filament is dropped.  When a thread ends, what it was given is found by its list of
adoptions, and entries of that list outlive their bindings until they are noticed to be stale.

Whatever threads do, one after the other, no binding of this sort is left behind: each is to the
default filament that is installed now, and its thread has not ended.  What carries this is that the
list of a thread tells of each of its adoptions that has not come undone, since only entries that
are stale are taken from it.
-/

namespace Testbench

/-- A roster, and what it does not tell of how it came about. -/
structure Defaults where
  roster : Roster := {}
  /-- The default filaments that are in somebody's hands, with the registries that they are for. -/
  held : List (RegistryId × FilamentId) := []
  /-- All filaments that ever were the default filament of a registry. -/
  ever : List FilamentId := []
  /-- The threads that have ended. -/
  ended : List ThreadId := []

namespace Defaults

/-! ### Turns -/

/-- What a thread does when it has its turn. -/
inductive Deed
  /-- It makes a registry. -/
  | makeRegistry (kind : Registry.Kind)
  /-- It makes a filament, of which it is the main thread. -/
  | makeFilament (o : ObserverId) (flags : FilamentFlags)
  /-- It binds itself to a filament. -/
  | bind (reg : RegistryId) (f : FilamentId)
  /-- It asks for its place, and may be adopted. -/
  | ask (reg : RegistryId) (derive : Bool)
  /-- It unbinds itself. -/
  | unbind (reg : RegistryId)
  /-- It installs a default filament, of which it is the main thread. -/
  | install (reg : RegistryId) (o : ObserverId) (flags : FilamentFlags)
  /-- It drops a default filament. -/
  | drop (reg : RegistryId) (f : FilamentId)
  /-- It ends. -/
  | exit

/-- A thread has its turn. -/
structure Turn where
  thread : ThreadId
  deed : Deed

/-- Installs a default filament, which is then in hand. -/
def install (d : Defaults) (t : ThreadId) (reg : RegistryId) (o : ObserverId)
    (flags : FilamentFlags) : Defaults :=
  match d.roster.installDefault reg o flags t with
  | (.ok f, roster) => { d with roster, held := (reg, f) :: d.held, ever := f :: d.ever }
  | (.error _, roster) => { d with roster }

/-- What comes of a deed. There must be a registry to install a default filament for it, and only
what is in hand can be dropped. -/
def perform (d : Defaults) (t : ThreadId) : Deed → Defaults
  | .makeRegistry kind => { d with roster := (d.roster.newRegistry kind).2 }
  | .makeFilament o flags => { d with roster := (d.roster.newFilament o flags t).2 }
  | .bind reg f => { d with roster := (d.roster.attach reg ⟨t, f, true⟩).2 }
  | .ask reg derive => { d with roster := (d.roster.current reg t derive).2 }
  | .unbind reg => { d with roster := d.roster.detach reg t }
  | .install reg o flags =>
    if (d.roster.registries.get? reg).isSome then d.install t reg o flags else d
  | .drop reg f =>
    if (reg, f) ∈ d.held then
      { d with roster := d.roster.revokeDefault reg f, held := d.held.erase (reg, f) }
    else d
  | .exit => { d with roster := d.roster.threadEnded t, ended := t :: d.ended }

/-- What comes of a turn. A thread that has ended has no more turns. -/
def take (d : Defaults) (x : Turn) : Defaults :=
  if x.thread ∈ d.ended then d else d.perform x.thread x.deed

/-- What comes of turns one after the other, if at first there is nothing at all. -/
def after (turns : List Turn) : Defaults := turns.foldl take {}

/-! ### What holds -/

/-- Default filaments are in the hands of those who installed them, and the bindings that came of
adoptions are where they are looked for. -/
structure Sound (d : Defaults) : Prop where
  fits : ∀ reg, (d.roster.table reg).Fits
  default_lt : ∀ reg f, d.roster.default? reg = some f → f < d.roster.filaments.items.size
  default_ever : ∀ reg f, d.roster.default? reg = some f → f ∈ d.ever
  adopted_ever : ∀ a ∈ d.roster.adoptions, a.filament ∈ d.ever
  held_nodup : (d.held.map Prod.fst).Nodup
  held_iff : ∀ reg f, (reg, f) ∈ d.held ↔ d.roster.default? reg = some f
  unguarded : ∀ reg, ∀ b ∈ (d.roster.table reg).bindings, b.guarded = false →
    d.roster.default? reg = some b.filament ∧ ⟨b.thread, reg, b.filament⟩ ∈ d.roster.adoptions ∧
      b.thread ∉ d.ended

variable {d : Defaults} {r : Roster} {reg : RegistryId} {f : FilamentId} {t : ThreadId}

lemma start_sound : Sound {} where
  fits _ := ThreadTable.fits_empty
  default_lt _ _ := nofun
  default_ever _ _ := nofun
  adopted_ever _ := nofun
  held_nodup := List.nodup_nil
  held_iff _ _ := ⟨nofun, nofun⟩
  unguarded _ _ := nofun

/-- Default filaments and adoptions stay, and no binding came of an adoption. -/
lemma Sound.of_guarded (h : d.Sound) (hfits : ∀ reg, (r.table reg).Fits)
    (hsize : d.roster.filaments.items.size ≤ r.filaments.items.size)
    (hdefault : ∀ reg, r.default? reg = d.roster.default? reg)
    (hadoptions : r.adoptions = d.roster.adoptions)
    (hmem : ∀ reg, ∀ b ∈ (r.table reg).bindings, b.guarded = false →
      b ∈ (d.roster.table reg).bindings) : Sound { d with roster := r } where
  fits := hfits
  default_lt reg f hf := Nat.lt_of_lt_of_le (h.default_lt reg f (hdefault reg ▸ hf)) hsize
  default_ever reg f hf := h.default_ever reg f (hdefault reg ▸ hf)
  adopted_ever a ha := h.adopted_ever a (hadoptions ▸ ha)
  held_nodup := h.held_nodup
  held_iff reg f := (hdefault reg).symm ▸ h.held_iff reg f
  unguarded reg b hb hguarded := by
    have hold := h.unguarded reg b (hmem reg b hb hguarded) hguarded
    exact ⟨(hdefault reg).trans hold.1, hadoptions.symm ▸ hold.2.1, hold.2.2⟩

/-! ### Binding and unbinding -/

lemma Sound.bind (h : d.Sound) (t : ThreadId) (reg : RegistryId) (f : FilamentId) :
    Sound { d with roster := (d.roster.attach reg ⟨t, f, true⟩).2 } := by
  rcases hattach : d.roster.attach reg ⟨t, f, true⟩ with ⟨why | u, r⟩
  · rw [Accounts.attach_error_eq hattach]
    exact h
  · have hattached := Guests.attach_ok hattach
    refine h.of_guarded (fun reg' => hattached.fits reg' (h.fits reg'))
      (Nat.le_of_eq hattached.size_eq.symm) hattached.default_eq hattached.adoptions_eq
      fun reg' b hb hguarded => ?_
    rcases hattached.mem hb with hb | ⟨-, rfl⟩
    · exact hb
    · cases hguarded

lemma Sound.unbind (h : d.Sound) (t : ThreadId) (reg : RegistryId) :
    Sound { d with roster := d.roster.detach reg t } := by
  have hperm := (d.roster.table reg).unbind_perm t
  refine h.of_guarded (fun reg' => ?_) (Nat.le_of_eq (Guests.detach_size ..).symm)
    (d.roster.default?_detach reg t) (d.roster.detach_adoptions reg t) fun reg' b hb _ => ?_
  · rw [Roster.table_detach]
    split
    · rename_i hreg
      subst hreg
      exact (h.fits reg).of_perm hperm
    · exact h.fits reg'
  · rw [Roster.table_detach] at hb
    split at hb
    · rename_i hreg
      subst hreg
      exact hperm.mem_iff.mpr (List.mem_append_right _ hb)
    · exact hb

/-! ### Adoption -/

/-- A thread that is adopted is put into the table, and its list tells of it; entries that went from
the list were stale. -/
lemma adopt_ok {m : Member} (h : d.roster.adopt reg t = (.ok m, r)) :
    ∃ f r', d.roster.default? reg = some f ∧
      Guests.Attached d.roster reg ⟨t, f, false⟩ r' ∧ m = r'.memberOf ⟨t, f, false⟩ ∧
      r = { r' with adoptions :=
        (r'.adoptions.filter fun a => a.thread ≠ t || !r'.isStale a) ++ [⟨t, reg, f⟩] } := by
  rw [Roster.adopt] at h
  cases hf : d.roster.default? reg with
  | none =>
    rw [hf] at h
    cases h
  | some f =>
    rw [hf] at h
    dsimp only at h
    rcases hattach : d.roster.attach reg ⟨t, f, false⟩ with ⟨why | u, r'⟩ <;> rw [hattach] at h <;>
      cases h
    exact ⟨f, r', rfl, Guests.attach_ok hattach, rfl, rfl⟩

lemma Sound.adopt (h : d.Sound) (ht : t ∉ d.ended) {m : Member}
    (hadopt : d.roster.adopt reg t = (.ok m, r)) : Sound { d with roster := r } := by
  obtain ⟨f, r', hf, hattached, -, rfl⟩ := adopt_ok hadopt
  have hfits (reg' : RegistryId) : (r'.table reg').Fits := hattached.fits reg' (h.fits reg')
  constructor
  · exact hfits
  · intro reg' f' hf'
    exact hattached.size_eq ▸ h.default_lt reg' f' ((hattached.default_eq reg').symm.trans hf')
  · exact fun reg' f' hf' => h.default_ever reg' f' ((hattached.default_eq reg').symm.trans hf')
  · intro a ha
    rcases List.mem_append.mp ha with ha | ha
    · exact h.adopted_ever a (hattached.adoptions_eq ▸ (List.mem_filter.mp ha).1)
    · obtain rfl := List.mem_singleton.mp ha
      exact h.default_ever reg f hf
  · exact h.held_nodup
  · exact fun reg' f' => (h.held_iff reg' f').trans (hattached.default_eq reg' ▸ .rfl)
  · intro reg' b hb hguarded
    rcases hattached.mem hb with hold | ⟨rfl, rfl⟩
    · obtain ⟨hdefault, hlisted, hended⟩ := h.unguarded reg' b hold hguarded
      refine ⟨(hattached.default_eq reg').trans hdefault, List.mem_append_left _ ?_, hended⟩
      -- its binding is there, so that the entry is not stale
      have hlookup : (r'.table reg').lookup? b.thread = some b :=
        (ThreadTable.lookup?_eq_some_iff (hfits reg')).mpr ⟨hb, rfl⟩
      refine List.mem_filter.mpr ⟨hattached.adoptions_eq ▸ hlisted, ?_⟩
      simp [Roster.isStale, ThreadTable.isBoundTo, hlookup]
    · exact ⟨(hattached.default_eq reg).trans hf, List.mem_append_right _ List.mem_cons_self, ht⟩

/-- A thread that is not adopted leaves everything as it was. -/
lemma adopt_error {why : FilamentError} (h : d.roster.adopt reg t = (.error why, r)) :
    r = d.roster := by
  rw [Roster.adopt] at h
  cases hf : d.roster.default? reg with
  | none =>
    rw [hf] at h
    exact (congrArg Prod.snd h).symm
  | some f =>
    rw [hf] at h
    dsimp only at h
    rcases hattach : d.roster.attach reg ⟨t, f, false⟩ with ⟨why | u, r'⟩ <;> rw [hattach] at h <;>
      cases h
    exact Accounts.attach_error_eq hattach

lemma Sound.ask (h : d.Sound) (ht : t ∉ d.ended) (reg : RegistryId) (derive : Bool) :
    Sound { d with roster := (d.roster.current reg t derive).2 } := by
  cases derive with
  | false => rwa [Guests.current_false]
  | true =>
    rw [Roster.current]
    cases d.roster.member? reg t with
    | some m => exact h
    | none =>
      dsimp only
      rw [if_pos rfl]
      rcases hadopt : d.roster.adopt reg t with ⟨why | m, r⟩
      · exact adopt_error hadopt ▸ h
      · exact h.adopt ht hadopt

/-! ### Default filaments come and go -/

lemma default?_installDefault {g : Registry} (hg : r.registries.get? reg = some g)
    (hnone : r.default? reg = none) (o : ObserverId) (flags : FilamentFlags) (t : ThreadId)
    (reg' : RegistryId) : (r.installDefault reg o flags t).2.default? reg' =
      if reg = reg' then some r.filaments.items.size else r.default? reg' := by
  rw [Roster.installDefault, hnone]
  dsimp only
  rw [Roster.default?]
  by_cases hreg : reg = reg'
  · subst hreg
    rw [if_pos rfl]
    exact congrArg (·.bind Registry.default?) (Pool.get?_modify_self _ hg)
  · rw [if_neg hreg]
    exact congrArg (·.bind Registry.default?) (Pool.get?_modify_of_ne hreg _)

lemma Sound.install (h : d.Sound) {g : Registry} (hg : d.roster.registries.get? reg = some g)
    (t : ThreadId) (o : ObserverId) (flags : FilamentFlags) : (d.install t reg o flags).Sound := by
  rw [Defaults.install]
  have hdefault hnone := default?_installDefault hg hnone o flags t
  rcases Guests.installDefault_cases d.roster reg o flags t with ⟨-, hinstall⟩ |
    ⟨r, hinstall, hsize, hadoptions, htable, hnone, -⟩ <;> rw [hinstall] at hdefault ⊢
  · exact h
  have hle : d.roster.filaments.items.size ≤ r.filaments.items.size := hsize ▸ Nat.le_succ _
  have hfree (f : FilamentId) : (reg, f) ∉ d.held := fun hheld => by
    rw [h.held_iff, hnone] at hheld
    cases hheld
  specialize hdefault hnone
  constructor
  · exact fun reg' => htable reg' ▸ h.fits reg'
  · intro reg' f hf
    rw [hdefault] at hf
    split at hf
    · cases hf
      exact hsize ▸ Nat.lt_succ_self _
    · exact Nat.lt_of_lt_of_le (h.default_lt reg' f hf) hle
  · intro reg' f hf
    rw [hdefault] at hf
    split at hf
    · cases hf
      exact List.mem_cons_self
    · exact List.mem_cons_of_mem _ (h.default_ever reg' f hf)
  · exact fun a ha => List.mem_cons_of_mem _ (h.adopted_ever a (hadoptions ▸ ha))
  · refine List.nodup_cons.mpr ⟨fun hmem => ?_, h.held_nodup⟩
    obtain ⟨⟨reg', f⟩, hheld, rfl⟩ := List.mem_map.mp hmem
    exact hfree f hheld
  · intro reg' f
    rw [hdefault, List.mem_cons]
    split
    · rename_i hreg
      subst hreg
      simp [hfree f, eq_comm]
    · rename_i hreg
      simp [h.held_iff, Ne.symm hreg]
  · intro reg' b hb hguarded
    obtain ⟨hold, hlisted, hended⟩ := h.unguarded reg' b (htable reg' ▸ hb) hguarded
    refine ⟨?_, hadoptions.symm ▸ hlisted, hended⟩
    rw [hdefault, if_neg, hold]
    rintro rfl
    rw [hnone] at hold
    cases hold

lemma releaseAll_adoptions (r : Roster) (bs : List Binding) :
    (r.releaseAll bs).adoptions = r.adoptions := by
  induction bs generalizing r with
  | nil => rfl
  | cons b bs ih => exact (ih (r.release b)).trans (r.release_adoptions b)

lemma Sound.drop (h : d.Sound) (hheld : (reg, f) ∈ d.held) :
    Sound { d with roster := d.roster.revokeDefault reg f, held := d.held.erase (reg, f) } := by
  have hf := (h.held_iff reg f).mp hheld
  have hdefault (reg' : RegistryId) : (d.roster.revokeDefault reg f).default? reg' =
      if reg = reg' then none else d.roster.default? reg' := by
    rw [Guests.default?_revokeDefault]
    simp [hf]
  have hsize : (d.roster.revokeDefault reg f).filaments.items.size
      = d.roster.filaments.items.size := Guests.releaseAll_size ..
  have hadoptions : (d.roster.revokeDefault reg f).adoptions = d.roster.adoptions := by
    refine (releaseAll_adoptions _ _).trans ?_
    rfl
  constructor
  · intro reg'
    rw [Guests.table_revokeDefault]
    split
    · exact (h.fits reg).of_sublist (.refl _) List.filter_sublist
    · exact h.fits reg'
  · intro reg' f' hf'
    rw [hdefault] at hf'
    split at hf'
    · cases hf'
    · exact hsize ▸ h.default_lt reg' f' hf'
  · intro reg' f' hf'
    rw [hdefault] at hf'
    split at hf'
    · cases hf'
    · exact h.default_ever reg' f' hf'
  · exact fun a ha => h.adopted_ever a (hadoptions ▸ ha)
  · exact h.held_nodup.sublist (List.erase_sublist.map _)
  · intro reg' f'
    rw [hdefault, (h.held_nodup.of_map _).mem_erase_iff, h.held_iff]
    split
    · rename_i hreg
      subst hreg
      simp [hf, eq_comm]
    · rename_i hreg
      simp [Ne.symm hreg]
  · intro reg' b hb hguarded
    rw [Guests.table_revokeDefault] at hb
    rw [hdefault]
    split at hb
    · rename_i hreg
      subst hreg
      obtain ⟨hmem, hne⟩ := List.mem_filter.mp hb
      -- there were no other adoptions in this registry
      have hsame := (h.unguarded reg b hmem hguarded).1
      rw [hf] at hsame
      simp [Option.some.inj hsame] at hne
    · rename_i hreg
      rw [if_neg hreg]
      exact hadoptions.symm ▸ h.unguarded reg' b hb hguarded

/-! ### Threads end -/

/-- What an ended thread was given is no longer there, and everybody else's bindings are. -/
lemma Sound.mem_threadEnded (h : d.Sound) {b : Binding}
    (hb : b ∈ ((d.roster.threadEnded t).table reg).bindings) :
    b ∈ (d.roster.table reg).bindings ∧ (b.thread = t → b.guarded = true) := by
  obtain ⟨hmem, hstays⟩ := List.mem_filter.mp
    ((Roster.threadEnded_perm (h.fits reg) t).mem_iff.mp hb)
  refine ⟨hmem, ?_⟩
  rintro rfl
  by_contra hguarded
  simp [(h.unguarded reg b hmem (by simpa using hguarded)).2.1] at hstays

lemma Sound.exit (h : d.Sound) (t : ThreadId) :
    Sound { d with roster := d.roster.threadEnded t, ended := t :: d.ended } := by
  have hdefault := d.roster.default?_threadEnded t
  have hadoptions := d.roster.threadEnded_adoptions t
  constructor
  · intro reg
    exact (h.fits reg).of_sublist (Roster.threadEnded_perm (h.fits reg) t) List.filter_sublist
  · intro reg f hf
    exact Guests.threadEnded_size d.roster t ▸ h.default_lt reg f (hdefault reg ▸ hf)
  · exact fun reg f hf => h.default_ever reg f (hdefault reg ▸ hf)
  · exact fun a ha => h.adopted_ever a (List.mem_of_mem_filter (hadoptions ▸ ha))
  · exact h.held_nodup
  · exact fun reg f => (hdefault reg).symm ▸ h.held_iff reg f
  · intro reg b hb hguarded
    obtain ⟨hmem, hmine⟩ := h.mem_threadEnded hb
    obtain ⟨hold, hlisted, hended⟩ := h.unguarded reg b hmem hguarded
    have hne : b.thread ≠ t := fun heq => by simp [hmine heq] at hguarded
    refine ⟨(hdefault reg).trans hold, ?_, ?_⟩
    · exact hadoptions.symm ▸ List.mem_filter.mpr ⟨hlisted, by simpa using hne⟩
    · exact List.not_mem_cons_of_ne_of_not_mem hne hended

/-! ### All turns -/

lemma Sound.perform (h : d.Sound) (ht : t ∉ d.ended) (x : Deed) : (d.perform t x).Sound := by
  cases x with
  | makeRegistry kind =>
    have hsame := Guests.newRegistry_same d.roster kind
    exact h.of_guarded (fun reg => (hsame reg).1 ▸ h.fits reg) (Nat.le_refl _)
      (fun reg => (hsame reg).2) rfl fun reg _ hb _ => (hsame reg).1 ▸ hb
  | makeFilament o flags =>
    exact h.of_guarded h.fits (Nat.le_of_lt (Array.size_push _ ▸ Nat.lt_succ_self _))
      (fun _ => rfl) rfl fun _ _ hb _ => hb
  | bind reg f => exact h.bind t reg f
  | ask reg derive => exact h.ask ht reg derive
  | unbind reg => exact h.unbind t reg
  | install reg o flags =>
    rw [Defaults.perform]
    split
    · rename_i hsome
      obtain ⟨g, hg⟩ := Option.isSome_iff_exists.mp hsome
      exact h.install hg t o flags
    · exact h
  | drop reg f =>
    rw [Defaults.perform]
    split
    · rename_i hheld
      exact h.drop hheld
    · exact h
  | exit => exact h.exit t

lemma after_sound (turns : List Turn) : (after turns).Sound := by
  have hfold (d : Defaults) (h : d.Sound) : (turns.foldl take d).Sound := by
    induction turns generalizing d with
    | nil => exact h
    | cons x turns ih =>
      refine ih (d.take x) ?_
      rw [take]
      split
      · exact h
      · rename_i ht
        exact h.perform ht x.deed
  exact hfold {} start_sound

/-! ### Who is adopted -/

/-- A thread that is not in the table is put there just if the filament can take another child, if
it is not its main thread, and there is room. -/
lemma attach_ok_iff {b : Binding} {x : Filament} {g : Registry}
    (hx : r.filaments.get? b.filament = some x) (hg : r.registries.get? reg = some g)
    (hfree : b.thread ∉ g.table.bindings.map Binding.thread) :
    (r.attach reg b).1 = .ok () ↔ g.table.size < ThreadTable.maxThreads ∧
      (b.thread = x.mainThread ∨ x.running < Filament.maxChildren) := by
  have hbind {r' : Roster} (hregistries : r'.registries = r.registries) :
      (r'.onTable reg (.error .unknownThread) (·.bind b)).1 = .ok () ↔
        g.table.size < ThreadTable.maxThreads := by
    rw [Roster.onTable_eq (hregistries ▸ hg)]
    rcases g.table.bind_cases b with ⟨-, hroom, hbind⟩ | ⟨hbound, -⟩ | ⟨-, hfull, hbind⟩
    · rw [hbind]
      exact ⟨fun _ => hroom, fun _ => rfl⟩
    · exact absurd hbound hfree
    · rw [hbind]
      exact ⟨nofun, fun hroom => absurd hroom (Nat.not_lt.mpr hfull)⟩
  have hprepare : (r.prepare b).1 = .ok () ↔
      (b.thread = x.mainThread ∨ x.running < Filament.maxChildren) := by
    have heq := Roster.prepare_eq (t := b.thread) hx
    rw [show r.prepare b = _ from heq, Filament.addChild]
    by_cases hmain : x.mainThread = b.thread
    · simp [hmain]
    · by_cases hfull : Filament.maxChildren ≤ x.running
      · simp [hmain, Ne.symm hmain, hfull]
      · simp [hmain, hfull, Nat.lt_of_not_le hfull]
  have hregistries := r.prepare_registries b
  rw [← hprepare]
  rcases r.attach_cases reg b with ⟨why, r₁, hprepare, hattach⟩ |
    ⟨r₁, hprepare, ⟨r₂, htable, hattach⟩ | ⟨why, r₂, htable, hattach⟩⟩ <;>
      rw [hattach, hprepare]
  · simp
  all_goals
    rw [hprepare] at hregistries
    simp [← hbind hregistries, htable]

/-- A thread that nobody bound is adopted just if there is a default filament, which can take
another child if the thread is not its main thread, and there is room in the table. -/
lemma Sound.adopt_ok_iff (h : d.Sound) (hfree : (d.roster.table reg).lookup? t = none) :
    (∃ m, (d.roster.adopt reg t).1 = .ok m) ↔
      ∃ f x, d.roster.default? reg = some f ∧ d.roster.filaments.get? f = some x ∧
        (d.roster.table reg).size < ThreadTable.maxThreads ∧
        (t = x.mainThread ∨ x.running < Filament.maxChildren) := by
  rw [Roster.adopt]
  cases hf : d.roster.default? reg with
  | none => simp
  | some f =>
    obtain ⟨x, hx⟩ : ∃ x, d.roster.filaments.get? f = some x :=
      ⟨_, Array.getElem?_eq_getElem (h.default_lt reg f hf)⟩
    obtain ⟨g, hg, -⟩ := Option.bind_eq_some_iff.mp hf
    rw [Roster.table_eq hg] at hfree ⊢
    have hthread : t ∉ g.table.bindings.map Binding.thread := fun hmem => by
      obtain ⟨b, hb, heq⟩ := List.mem_map.mp hmem
      exact ThreadTable.lookup?_eq_none_iff.mp hfree b hb heq
    have hiff := attach_ok_iff (b := ⟨t, f, false⟩) hx hg hthread
    calc (∃ m, _) ↔ (d.roster.attach reg ⟨t, f, false⟩).1 = .ok () := by
          dsimp only
          rcases d.roster.attach reg ⟨t, f, false⟩ with ⟨why | u, r⟩ <;> simp
      _ ↔ _ := by simp [hiff, hx]

/-! ### What is promised -/

/-- What can be relied on when default filaments are used. -/
structure Upheld (d : Defaults) : Prop where
  /-- A registry has one default filament at most, since that is how many are in hand for it. -/
  held_one : (d.held.map Prod.fst).Nodup
  /-- It is the one that is in hand. -/
  held_iff : ∀ reg f, (reg, f) ∈ d.held ↔ d.roster.default? reg = some f
  /-- There is no other to be had until it is dropped. -/
  install_conflict : ∀ t reg o flags, (∃ f, (reg, f) ∈ d.held) →
    d.roster.installDefault reg o flags t = (.error .conflict, d.roster)
  /-- What came of an adoption is a binding to the default filament there is now, of a thread that
  has not ended. -/
  unguarded : ∀ reg, ∀ b ∈ (d.roster.table reg).bindings, b.guarded = false →
    d.roster.default? reg = some b.filament ∧ b.thread ∉ d.ended
  /-- Once a default filament is dropped, there is none, and nobody is bound to it any more. -/
  dropped : ∀ t reg f, t ∉ d.ended → (reg, f) ∈ d.held →
    (d.take ⟨t, .drop reg f⟩).roster.default? reg = none ∧
      ∀ b ∈ ((d.take ⟨t, .drop reg f⟩).roster.table reg).bindings, b.filament ≠ f
  /-- Once a thread has ended, nothing is left that came of an adoption of it. -/
  exited : ∀ t reg, ∀ b ∈ ((d.take ⟨t, .exit⟩).roster.table reg).bindings,
    b.thread = t → b.guarded = true
  /-- Neither has to do with bindings to a filament that never was a default filament. -/
  others : ∀ t x, (x = .exit ∨ ∃ reg f, x = .drop reg f) → ∀ reg,
    (((d.take ⟨t, x⟩).roster.table reg).bindings.filter (·.filament ∉ d.ever)).Perm
      ((d.roster.table reg).bindings.filter (·.filament ∉ d.ever))
  /-- A thread that nobody bound gets a place just if there is a default filament, there is room in
  the table, and the filament can take another child, if the thread is not its main thread. -/
  asked : ∀ t reg, (d.roster.table reg).lookup? t = none →
    ((∃ m, (d.roster.current reg t true).1 = .ok m) ↔
      ∃ f x, d.roster.default? reg = some f ∧ d.roster.filaments.get? f = some x ∧
        (d.roster.table reg).size < ThreadTable.maxThreads ∧
        (t = x.mainThread ∨ x.running < Filament.maxChildren))
  /-- Then it is bound to the default filament, and has no boundary. -/
  adopted : ∀ t reg m, (d.roster.table reg).lookup? t = none →
    (d.roster.current reg t true).1 = .ok m →
    m.guarded = false ∧ d.roster.default? reg = some m.filament ∧
      ((d.roster.current reg t true).2.table reg).bindings =
        (d.roster.table reg).bindings ++ [⟨t, m.filament, false⟩]
  /-- Otherwise nothing has changed. -/
  refused : ∀ t reg derive why, (d.roster.current reg t derive).1 = .error why →
    (d.roster.current reg t derive).2 = d.roster

lemma current_of_unbound (hfree : (r.table reg).lookup? t = none) :
    r.current reg t true = r.adopt reg t := by
  rw [Roster.current, Roster.member?, hfree]
  rfl

lemma current_error {why : FilamentError} {derive : Bool}
    (h : (d.roster.current reg t derive).1 = .error why) :
    (d.roster.current reg t derive).2 = d.roster := by
  cases derive with
  | false => rw [Guests.current_false]
  | true =>
    rw [Roster.current] at h ⊢
    cases hm : d.roster.member? reg t with
    | some m => rfl
    | none =>
      rw [hm] at h
      exact adopt_error (Prod.ext h rfl)

/-- What is dropped was a default filament, and what is taken back from a thread that ends came of
an adoption. -/
lemma Sound.others (h : d.Sound) {x : Deed} (hx : x = .exit ∨ ∃ reg f, x = .drop reg f)
    (t : ThreadId) (reg : RegistryId) :
    (((d.take ⟨t, x⟩).roster.table reg).bindings.filter (·.filament ∉ d.ever)).Perm
      ((d.roster.table reg).bindings.filter (·.filament ∉ d.ever)) := by
  rw [take]
  split
  · exact .refl _
  rcases hx with rfl | ⟨reg', f, rfl⟩
  · refine ((Roster.threadEnded_perm (h.fits reg) t).filter _).trans (.of_eq ?_)
    rw [List.filter_filter]
    refine List.filter_congr fun b _ => ?_
    by_cases hever : b.filament ∈ d.ever
    · simp [hever]
    · have hmine : ⟨t, reg, b.filament⟩ ∉ d.roster.adoptions := fun hmem =>
        hever (h.adopted_ever _ hmem)
      simp [hmine]
  · rw [Defaults.perform]
    split
    · rename_i hheld
      have hever : f ∈ d.ever := h.default_ever reg' f ((h.held_iff reg' f).mp hheld)
      rw [Guests.table_revokeDefault]
      split
      · rename_i hreg
        subst hreg
        rw [List.filter_filter]
        refine .of_eq (List.filter_congr fun b _ => ?_)
        by_cases hf : b.filament = f
        · simp [hf, hever]
        · simp [hf]
      · exact .refl _
    · exact .refl _

/-- Whatever threads do, one after the other, default filaments are as one expects. -/
theorem default_filaments_upheld (turns : List Turn) : (after turns).Upheld := by
  have h := after_sound turns
  generalize after turns = d at h
  constructor
  · exact h.held_nodup
  · exact h.held_iff
  · rintro t reg o flags ⟨f, hheld⟩
    rw [Roster.installDefault, (h.held_iff reg f).mp hheld]
  · intro reg b hb hguarded
    have hold := h.unguarded reg b hb hguarded
    exact ⟨hold.1, hold.2.2⟩
  · intro t reg f ht hheld
    rw [take, if_neg ht, perform, if_pos hheld]
    dsimp only
    rw [Guests.default?_revokeDefault, Guests.table_revokeDefault, if_pos rfl,
      if_pos ⟨rfl, (h.held_iff reg f).mp hheld⟩]
    exact ⟨rfl, fun b hb => by simpa using (List.mem_filter.mp hb).2⟩
  · intro t reg b hb hthread
    rw [take] at hb
    split at hb
    · rename_i hended
      subst hthread
      by_contra hguarded
      exact (h.unguarded reg b hb (by simpa using hguarded)).2.2 hended
    · exact (h.mem_threadEnded hb).2 hthread
  · exact fun t x hx reg => h.others hx t reg
  · intro t reg hfree
    rw [current_of_unbound hfree]
    exact h.adopt_ok_iff hfree
  · intro t reg m hfree hm
    rw [current_of_unbound hfree] at hm ⊢
    rcases hadopt : d.roster.adopt reg t with ⟨result, r⟩
    rw [hadopt] at hm
    cases hm
    obtain ⟨f, r', hf, hattached, rfl, rfl⟩ := adopt_ok hadopt
    exact ⟨rfl, hf, hattached.table_self⟩
  · exact fun t reg derive why => current_error

/-- A default filament is installed, and adopts a thread that asks for its place. -/
def adopting : List Turn := [⟨0, .makeRegistry .program⟩, ⟨0, .install 0 0 {}⟩, ⟨1, .ask 0 true⟩]

/-- The thread is bound to the default filament until the filament is dropped or the thread ends. -/
theorem default_filaments_upheld_adopting :
    (after adopting).roster.default? 0 = some 0 ∧
    ((after adopting).roster.table 0).bindings = [⟨1, 0, false⟩] ∧
    (after (adopting ++ [⟨0, .drop 0 0⟩])).roster.default? 0 = none ∧
    ((after (adopting ++ [⟨0, .drop 0 0⟩])).roster.table 0).bindings = [] ∧
    ((after (adopting ++ [⟨1, .exit⟩])).roster.table 0).bindings = [] := by
  have hupheld := default_filaments_upheld adopting
  have hdrop : after (adopting ++ [⟨0, .drop 0 0⟩]) = (after adopting).take ⟨0, .drop 0 0⟩ :=
    List.foldl_append
  obtain ⟨hnone, -⟩ := hupheld.dropped 0 0 0 (by decide) (by decide)
  refine ⟨by decide, by decide, hdrop ▸ hnone, by decide, by decide⟩

end Defaults

end Testbench
