import Mathlib.Logic.Function.Basic
import Testbench.Proofs.Guests.Reachable

/-!
# What a thread sees of registries

A thread sees of a registry whom it is for, its own binding there and the default filament.  Two
threads see the same if they find the same things at the same places, where filaments may have other
names.  Binding a thread to a filament of its own and installing a default filament put something at
one place and touch no other, and undoing it takes just this away again.

Besides what the thread sees, the tables have sizes, and filaments have threads bound to them that
the thread does not see; these are followed through the same operations.
-/

namespace Testbench

/-! ### Views -/

/-- Where a thread finds a filament. -/
inductive Post
  /-- The filament that the thread is bound to in a registry. -/
  | own (reg : RegistryId)
  /-- The default filament of a registry. -/
  | default (reg : RegistryId)
deriving DecidableEq

/-- What a thread sees of registries. -/
@[ext]
structure View where
  thread : ThreadId
  /-- Whom a registry is for. -/
  kind : RegistryId → Option Registry.Kind
  /-- The thread's own binding. -/
  seat : RegistryId → Option Binding
  /-- The default filament. -/
  default? : RegistryId → Option FilamentId

namespace View

/-- The filament at a post. -/
def post (v : View) : Post → Option FilamentId
  | .own reg => (v.seat reg).map Binding.filament
  | .default reg => v.default? reg

/-- A filament is not seen. -/
def Lacks (v : View) (f : FilamentId) : Prop := ∀ i, v.post i ≠ some f

/-- The view of a thread that was bound. -/
def seating (v : View) (reg : RegistryId) (b : Binding) : View :=
  { v with seat := Function.update v.seat reg (some b) }

/-- The view of a thread after a default filament was installed, if there is the registry. -/
def installing (v : View) (reg : RegistryId) (d : FilamentId) : View :=
  { v with default? := Function.update v.default? reg ((v.kind reg).map fun _ => d) }

variable {v v' : View} {reg : RegistryId} {f g d d' : FilamentId} {b c : Binding}

lemma post_seating (v : View) (reg : RegistryId) (b : Binding) :
    (v.seating reg b).post = Function.update v.post (.own reg) (some b.filament) := by
  funext i
  cases i with
  | own reg' =>
    rw [post, seating, Function.apply_update fun _ x => Option.map Binding.filament x]
    by_cases h : reg' = reg
    · subst h
      simp
    · simp [h, post]
  | default reg' => simp [post, seating]

lemma post_installing (v : View) (reg : RegistryId) (d : FilamentId) :
    (v.installing reg d).post =
      Function.update v.post (.default reg) ((v.kind reg).map fun _ => d) := by
  funext i
  cases i with
  | own reg' => simp [post, installing]
  | default reg' =>
    rw [post, installing]
    by_cases h : reg' = reg
    · subst h
      simp
    · simp [h, post]

lemma post_seating_self (v : View) (reg : RegistryId) (b : Binding) :
    (v.seating reg b).post (.own reg) = some b.filament := by
  rw [post_seating, Function.update_self]

lemma post_seating_of_ne {i : Post} (hi : i ≠ .own reg) (v : View) (b : Binding) :
    (v.seating reg b).post i = v.post i := by
  rw [post_seating, Function.update_of_ne hi]

lemma post_installing_of_ne {i : Post} (hi : i ≠ .default reg) (v : View) (d : FilamentId) :
    (v.installing reg d).post i = v.post i := by
  rw [post_installing, Function.update_of_ne hi]

/-- Nothing is found at a post that is free. -/
lemma ne_of_post_eq_some {i j : Post} (hi : v.post i = some f) (hj : v.post j = none) : i ≠ j := by
  rintro rfl
  rw [hj] at hi
  cases hi

/-- Two threads see the same, up to the names of filaments. -/
structure Matches (v v' : View) : Prop where
  kind_eq : v'.kind = v.kind
  guarded_eq : ∀ reg, (v'.seat reg).map Binding.guarded = (v.seat reg).map Binding.guarded
  none_iff : ∀ i, v'.post i = none ↔ v.post i = none
  /-- The same filament is found at two posts in one view if it is in the other. -/
  same_iff : ∀ i j, v'.post i = v'.post j ↔ v.post i = v.post j

lemma Matches.refl (v : View) : v.Matches v := ⟨rfl, fun _ => rfl, fun _ => .rfl, fun _ _ => .rfl⟩

/-- What is put at one post must not be told apart in the two views either. -/
lemma same_iff_update {u u' : Post → Option FilamentId} (h : ∀ i j, u' i = u' j ↔ u i = u j)
    {x x' : Option FilamentId} (hx : ∀ i, u' i = x' ↔ u i = x) (k i j : Post) :
    Function.update u' k x' i = Function.update u' k x' j ↔
      Function.update u k x i = Function.update u k x j := by
  by_cases hi : i = k <;> by_cases hj : j = k <;> simp [hi, hj, h, hx]
  rw [eq_comm, hx, eq_comm]

lemma Matches.seating (h : v.Matches v') (hb : v.Lacks b.filament) (hc : v'.Lacks c.filament)
    (hguarded : c.guarded = b.guarded) : (v.seating reg b).Matches (v'.seating reg c) where
  kind_eq := h.kind_eq
  guarded_eq reg' := by
    by_cases hreg : reg' = reg
    · subst hreg
      simp [View.seating, hguarded]
    · simpa [View.seating, hreg] using h.guarded_eq reg'
  none_iff i := by
    rw [post_seating, post_seating]
    by_cases hi : i = .own reg
    · simp [hi]
    · simpa [hi] using h.none_iff i
  same_iff := by
    rw [post_seating, post_seating]
    exact same_iff_update h.same_iff (fun i => iff_of_false (hc i) (hb i)) _

lemma Matches.installing (h : v.Matches v') (hd : v.Lacks d) (hd' : v'.Lacks d') :
    (v.installing reg d).Matches (v'.installing reg d') where
  kind_eq := h.kind_eq
  guarded_eq := h.guarded_eq
  none_iff i := by
    rw [post_installing, post_installing, h.kind_eq]
    by_cases hi : i = .default reg
    · simp [hi]
    · simpa [hi] using h.none_iff i
  same_iff := by
    rw [post_installing, post_installing, h.kind_eq]
    refine same_iff_update h.same_iff (fun i => ?_) _
    cases v.kind reg with
    | none => exact h.none_iff i
    | some kind => exact iff_of_false (hd' i) (hd i)

end View

/-! ### Tables -/

namespace ThreadTable

/-- Whether a binding is taken depends on the thread's own binding and on the size of the table. -/
lemma bind_fst (t : ThreadTable) (b : Binding) : (t.bind b).1 =
    if (t.lookup? b.thread).isSome then .error .conflict
    else if maxThreads ≤ t.size then .error (.tooManyThreads t.size) else .ok () := by
  have hfound : (t.position? b.thread).isSome = (t.lookup? b.thread).isSome := by
    rw [position?, lookup?, List.findIdx?_isSome, Bool.eq_iff_iff, List.any_eq_true,
      List.find?_isSome]
  rw [bind, hfound, apply_ite Prod.fst, apply_ite Prod.fst]

/-- What is taken out is what was found. -/
lemma unbind_fst (t : ThreadTable) (thread : ThreadId) :
    (t.unbind thread).1 = t.lookup? thread := by
  rw [unbind, lookup?, List.find?_eq_bind_findIdx?_getElem?, ← position?]
  cases t.position? thread <;> rfl

end ThreadTable

/-! ### Rosters -/

namespace Roster

variable {r r' s s' : Roster} {reg : RegistryId} {t : ThreadId} {f g : FilamentId} {b : Binding}
  {α : Type}

/-- What a thread sees. -/
def view (r : Roster) (t : ThreadId) : View where
  thread := t
  kind reg := (r.registries.get? reg).map Registry.kind
  seat reg := (r.table reg).lookup? t
  default? reg := r.default? reg

lemma view_kind (r : Roster) (t : ThreadId) (reg : RegistryId) :
    (r.view t).kind reg = (r.registries.get? reg).map Registry.kind := rfl

lemma view_seat (r : Roster) (t : ThreadId) (reg : RegistryId) :
    (r.view t).seat reg = (r.table reg).lookup? t := rfl

lemma view_default? (r : Roster) (t : ThreadId) (reg : RegistryId) :
    (r.view t).default? reg = r.default? reg := rfl

/-- How many threads a registry binds to a filament. -/
def bound (r : Roster) (reg : RegistryId) (f : FilamentId) : Nat :=
  (r.table reg).bindings.countP (·.filament = f)

lemma bound_congr (h : r'.table reg = r.table reg) (f : FilamentId) :
    r'.bound reg f = r.bound reg f := by
  rw [bound, bound, h]

lemma kind_modify {p : Pool Registry} {i : RegistryId} {f : Registry → Registry}
    (hf : ∀ g, p.get? i = some g → (f g).kind = g.kind) (j : RegistryId) :
    ((p.modify i f).get? j).map Registry.kind = (p.get? j).map Registry.kind := by
  by_cases hij : i = j
  · subst hij
    rw [Pool.get?_modify_same]
    cases hg : p.get? i with
    | none => rfl
    | some g => exact congrArg some (hf g hg)
  · rw [Pool.get?_modify_of_ne hij]

lemma kind_onTable (r : Roster) (reg : RegistryId) (fallback : α)
    (f : ThreadTable → α × ThreadTable) (reg' : RegistryId) :
    ((r.onTable reg fallback f).2.registries.get? reg').map Registry.kind
      = (r.registries.get? reg').map Registry.kind := by
  cases hg : r.registries.get? reg with
  | none => rw [onTable_of_none hg]
  | some g =>
    rw [onTable_eq hg]
    refine kind_modify (fun g' hg' => ?_) reg'
    rw [Option.some.inj (hg.symm.trans hg')]

/-! ### Binding the thread and letting it go -/

/-- The main thread of a filament is not counted, so that nothing happens but in the table. -/
lemma attach_of_main (h : r.mainThread? b.filament = some b.thread) (reg : RegistryId) :
    r.attach reg b = r.onTable reg (.error .unknownThread) (·.bind b) := by
  have hprepare : r.prepare b = (.ok (), r) := by rw [prepare, if_pos h]
  rcases r.attach_cases reg b with ⟨why, r₁, hrefused, -⟩ |
    ⟨r₁, hprepared, ⟨r₂, hbind, hattach⟩ | ⟨why, r₂, hbind, hattach⟩⟩
  · rw [hprepare] at hrefused
    cases hrefused
  all_goals
    cases hprepare.symm.trans hprepared
    rw [hattach, hbind]
  rw [bind_error_eq hbind, release, if_pos h]

lemma attach_of_main_fst (h : r.mainThread? b.filament = some b.thread) (reg : RegistryId) :
    (r.attach reg b).1 =
      if (r.registries.get? reg).isNone then .error .unknownThread
      else if ((r.table reg).lookup? b.thread).isSome then .error .conflict
      else if ThreadTable.maxThreads ≤ (r.table reg).size then
        .error (.tooManyThreads (r.table reg).size)
      else .ok () := by
  rw [attach_of_main h]
  cases hg : r.registries.get? reg with
  | none =>
    rw [onTable_of_none hg]
    rfl
  | some g =>
    rw [onTable_eq hg, table_eq hg]
    exact g.table.bind_fst b

lemma attach_of_main_filaments (h : r.mainThread? b.filament = some b.thread)
    (hattach : r.attach reg b = (.ok (), r')) : r'.filaments = r.filaments :=
  congrArg (·.2.filaments) (hattach.symm.trans (attach_of_main h reg))

lemma view_attach (h : r.mainThread? b.filament = some b.thread) (hfits : (r.table reg).Fits)
    (hattach : r.attach reg b = (.ok (), r')) :
    r'.view b.thread = (r.view b.thread).seating reg b := by
  have hattached := Guests.attach_ok hattach
  have hkind := kind_onTable r reg (.error .unknownThread) (·.bind b)
  rw [← attach_of_main h, hattach] at hkind
  apply View.ext
  · rfl
  · exact funext hkind
  · funext reg'
    change (r'.view _).seat reg' = Function.update (r.view _).seat reg (some b) reg'
    rw [view_seat]
    by_cases hreg : reg = reg'
    · subst hreg
      rw [Function.update_self]
      refine (ThreadTable.lookup?_eq_some_iff (hattached.fits reg hfits)).mpr ⟨?_, rfl⟩
      exact hattached.table_self ▸ List.mem_append_right _ (List.mem_singleton_self b)
    · rw [Function.update_of_ne (Ne.symm hreg), hattached.table_of_ne reg' hreg, view_seat]
  · exact funext hattached.default_eq

lemma bound_attach (hattached : Guests.Attached r reg b r') (reg' : RegistryId) (f : FilamentId) :
    r'.bound reg' f = r.bound reg' f + if reg = reg' ∧ b.filament = f then 1 else 0 := by
  rw [bound, bound]
  by_cases hreg : reg = reg'
  · subst hreg
    simp [hattached.table_self, List.countP_singleton]
  · simp [hattached.table_of_ne reg' hreg, hreg]

lemma size_attach (hattached : Guests.Attached r reg b r') (reg' : RegistryId) :
    (r'.table reg').size = (r.table reg').size + if reg = reg' then 1 else 0 := by
  rw [ThreadTable.size, ThreadTable.size]
  by_cases hreg : reg = reg'
  · subst hreg
    simp [hattached.table_self]
  · simp [hattached.table_of_ne reg' hreg, hreg]

lemma onTable_unbind_fst (r : Roster) (reg : RegistryId) (t : ThreadId) :
    (r.onTable reg none (·.unbind t)).1 = (r.table reg).lookup? t := by
  cases hg : r.registries.get? reg with
  | none =>
    rw [onTable_of_none hg, table, hg]
    rfl
  | some g =>
    rw [onTable_eq hg, table_eq hg]
    exact g.table.unbind_fst t

lemma detach_of_main_filaments (hseat : (r.table reg).lookup? t = some b)
    (h : r.mainThread? b.filament = some t) : (r.detach reg t).filaments = r.filaments := by
  have hfound := r.onTable_unbind_fst reg t
  have hsame := Guests.onTable_filaments r reg none (·.unbind t)
  rw [detach]
  rcases hunbind : r.onTable reg none (·.unbind t) with ⟨b?, r'⟩
  rw [hunbind] at hfound hsame
  obtain rfl : b? = some b := hfound.trans hseat
  have hthread : b.thread = t := by simpa using List.find?_some hseat
  have hmain : r'.mainThread? b.filament = some b.thread := by
    rw [mainThread?, hsame, hthread]
    exact h
  dsimp only
  rw [release, if_pos hmain]
  exact hsame

lemma kind_detach (r : Roster) (reg : RegistryId) (t : ThreadId) (reg' : RegistryId) :
    ((r.detach reg t).registries.get? reg').map Registry.kind
      = (r.registries.get? reg').map Registry.kind := by
  rw [← r.kind_onTable reg none (·.unbind t), detach]
  rcases r.onTable reg none (·.unbind t) with ⟨- | b, r'⟩
  · rfl
  · rw [release_registries]

lemma view_detach {v : View} (h : r.view t = v.seating reg b) (hfree : v.seat reg = none)
    (hfits : (r.table reg).Fits) : (r.detach reg t).view t = v := by
  have hview : (r.detach reg t).view t =
      { r.view t with seat := Function.update (r.view t).seat reg none } := by
    apply View.ext
    · rfl
    · exact funext (r.kind_detach reg t)
    · funext reg'
      change _ = Function.update (r.view t).seat reg none reg'
      rw [view_seat, table_detach]
      by_cases hreg : reg = reg'
      · subst hreg
        rw [if_pos rfl, Function.update_self, ThreadTable.lookup?_eq_none_iff]
        intro c hc
        have hstays := (hfits.unbind_perm_filter t).mem_iff.mp hc
        simpa using List.of_mem_filter hstays
      · rw [if_neg hreg, Function.update_of_ne (Ne.symm hreg), view_seat]
    · exact funext (r.default?_detach reg t)
  rw [hview, h, View.seating, Function.update_idem, ← hfree, Function.update_eq_self]

lemma bound_detach (hother : ∀ b, (r.table reg).lookup? t = some b → b.filament ≠ f)
    (reg' : RegistryId) : (r.detach reg t).bound reg' f = r.bound reg' f := by
  rw [bound, bound, table_detach]
  split
  · rename_i hreg
    subst hreg
    have hperm := (r.table reg).unbind_perm t
    rw [ThreadTable.unbind_fst] at hperm
    have hgone : ((r.table reg).lookup? t).toList.countP (·.filament = f) = 0 := by
      simpa [List.countP_eq_zero] using hother
    rw [hperm.countP_eq, List.countP_append, hgone, Nat.zero_add]
  · rfl

lemma size_detach (hseat : (r.table reg).lookup? t = some b) (reg' : RegistryId) :
    ((r.detach reg t).table reg').size = (r.table reg').size - if reg = reg' then 1 else 0 := by
  rw [table_detach]
  split
  · rename_i hreg
    subst hreg
    have hlength := ((r.table reg).unbind_perm t).length_eq
    rw [ThreadTable.unbind_fst, hseat, List.length_append] at hlength
    rw [ThreadTable.size, ThreadTable.size, hlength]
    exact (Nat.add_sub_cancel_left ..).symm
  · rfl

/-! ### Installing and revoking -/

lemma view_install {d : FilamentId} {o : ObserverId} {flags : FilamentFlags} {t' : ThreadId}
    (hinstall : r.installDefault reg o flags t' = (.ok d, r')) (t : ThreadId) :
    r'.view t = (r.view t).installing reg d := by
  rcases Guests.installDefault_cases r reg o flags t' with ⟨-, hrefused⟩ |
    ⟨r₁, hdone, -, -, htable, hnone, -⟩
  · rw [hinstall] at hrefused
    cases hrefused
  obtain ⟨hd, rfl⟩ := Prod.mk.inj (hinstall.symm.trans hdone)
  obtain rfl : d = r.filaments.items.size := Except.ok.inj hd
  rw [installDefault, hnone] at hinstall
  obtain ⟨-, rfl⟩ := Prod.mk.inj hinstall
  apply View.ext
  · rfl
  · exact funext (kind_modify fun _ _ => rfl)
  · exact funext fun reg' => congrArg (·.lookup? t) (htable reg')
  · funext reg'
    change (Roster.default? _ reg') = Function.update (r.view t).default? reg _ reg'
    rw [default?]
    by_cases hreg : reg = reg'
    · subst hreg
      rw [Function.update_self]
      dsimp only [newFilament]
      rw [Pool.get?_modify_same, view_kind]
      cases r.registries.get? reg <;> rfl
    · rw [Function.update_of_ne (Ne.symm hreg)]
      exact congrArg (·.bind Registry.default?) (Pool.get?_modify_of_ne hreg _)

lemma installDefault_filaments {d : FilamentId} {o : ObserverId} {flags : FilamentFlags}
    (hinstall : r.installDefault reg o flags t = (.ok d, r')) :
    r'.filaments = (r.filaments.add ⟨o, t, flags.withDefault true, 0, 0, 0, .completed⟩).2 := by
  rw [installDefault] at hinstall
  split at hinstall
  · cases hinstall
  · obtain ⟨-, rfl⟩ := Prod.mk.inj hinstall
    rfl

lemma kind_revokeDefault (r : Roster) (reg : RegistryId) (d : FilamentId) (reg' : RegistryId) :
    ((r.revokeDefault reg d).registries.get? reg').map Registry.kind
      = (r.registries.get? reg').map Registry.kind := by
  rw [Guests.revokeDefault_registries, kind_onTable, Guests.dismissing]
  refine kind_modify (fun g _ => ?_) reg'
  split <;> rfl

lemma view_revoke {v : View} {d : FilamentId} (h : r.view t = v.installing reg d)
    (hnone : v.default? reg = none) (hd : v.Lacks d) (hfits : (r.table reg).Fits) :
    (r.revokeDefault reg d).view t = v := by
  have hkind : (r.view t).kind = v.kind := h ▸ rfl
  have hseat : (r.view t).seat = v.seat := h ▸ rfl
  have hdefault : (r.view t).default? =
      Function.update v.default? reg ((v.kind reg).map fun _ => d) := h ▸ rfl
  have hthread : t = v.thread := congrArg View.thread h
  apply View.ext
  · exact hthread
  · exact (funext (r.kind_revokeDefault reg d)).trans hkind
  · rw [← hseat]
    funext reg'
    rw [view_seat, view_seat, Guests.table_revokeDefault]
    split
    · rename_i hreg
      subst hreg
      have hfits' : ThreadTable.Fits ⟨(r.table reg).bindings.filter (·.filament ≠ d)⟩ :=
        hfits.of_sublist (.refl _) List.filter_sublist
      refine Option.ext fun b => ?_
      rw [ThreadTable.lookup?_eq_some_iff hfits, ThreadTable.lookup?_eq_some_iff hfits',
        List.mem_filter]
      refine ⟨fun hb => ⟨hb.1.1, hb.2⟩, fun hb => ⟨⟨hb.1, ?_⟩, hb.2⟩⟩
      -- the thread itself is not bound to the filament
      have hown : v.seat reg = some b :=
        hseat ▸ (ThreadTable.lookup?_eq_some_iff hfits).mpr hb
      have hne : b.filament ≠ d := fun heq =>
        hd (.own reg) (by rw [View.post, hown, Option.map_some, heq])
      simpa using hne
    · rfl
  · funext reg'
    rw [view_default?, Guests.default?_revokeDefault]
    have hreg' : r.default? reg' = _ := congrFun hdefault reg'
    have hreg₀ : r.default? reg = _ := congrFun hdefault reg
    rw [Function.update_self] at hreg₀
    by_cases hreg : reg = reg'
    · subst hreg
      rw [hreg₀, hnone]
      cases v.kind reg <;> simp
    · rw [if_neg (fun hboth => hreg hboth.1), hreg', Function.update_of_ne (Ne.symm hreg)]

lemma revokeDefault_filaments {d : FilamentId} (h : f ≠ d) (r : Roster) (reg : RegistryId) :
    (r.revokeDefault reg d).filaments.get? f = r.filaments.get? f := by
  have hgone (bs : List Binding) (hbs : ∀ b ∈ bs, b.filament ≠ f) (r : Roster) :
      (r.releaseAll bs).filaments.get? f = r.filaments.get? f := by
    induction bs generalizing r with
    | nil => rfl
    | cons b bs ih =>
      obtain ⟨hb, hrest⟩ := List.forall_mem_cons.mp hbs
      exact (ih hrest (r.release b)).trans (release_of_ne hb).2
  have htaken : ∀ b ∈ ((Guests.dismissing r reg d).onTable reg [] (·.unbindFilament d)).1,
      b.filament ≠ f := by
    intro b hb
    cases hg : (Guests.dismissing r reg d).registries.get? reg with
    | none =>
      rw [onTable_of_none hg] at hb
      cases hb
    | some g =>
      rw [onTable_eq hg] at hb
      have hfilament : b.filament = d := by simpa using List.of_mem_filter hb
      exact hfilament ▸ Ne.symm h
  exact hgone _ htaken _

lemma bound_revoke {d : FilamentId} (h : f ≠ d) (r : Roster) (reg reg' : RegistryId) :
    (r.revokeDefault reg d).bound reg' f = r.bound reg' f := by
  rw [bound, bound, Guests.table_revokeDefault]
  split
  · rename_i hreg
    subst hreg
    rw [List.countP_filter]
    refine List.countP_congr fun b _ => ?_
    simp only [Bool.and_eq_true, decide_eq_true_eq, and_iff_left_iff_imp]
    exact fun heq => heq ▸ h
  · rfl

lemma size_revoke (r : Roster) (reg : RegistryId) (d : FilamentId) (reg' : RegistryId) :
    ((r.revokeDefault reg d).table reg').size =
      (r.table reg').size - if reg = reg' then r.bound reg d else 0 := by
  rw [Guests.table_revokeDefault]
  split
  · rename_i hreg
    subst hreg
    have hsplit := (r.table reg).bindings.length_eq_countP_add_countP (·.filament = d)
    rw [ThreadTable.size, ThreadTable.size, bound, hsplit, ← List.countP_eq_length_filter,
      Nat.add_sub_cancel_left]
    exact List.countP_congr fun b _ => by simp
  · rfl

end Roster

end Testbench
