import Testbench.Proofs.Repeat.Views

/-!
# Rosters that are twins

Two rosters are twins for a thread if it sees the same in both, where filaments may have other names
but are alike, and if all tables are of the same size.  Binding the thread to a new filament takes
twins to twins and answers the same, and so does whatever else is done when a routine is called and
when a fixture is run.

Other threads may be bound differently in twins, and there may be any filaments that the thread does
not see.
-/

namespace Testbench.Roster

variable {r r' s s' : Roster} {reg : RegistryId} {t : ThreadId} {f g : FilamentId}

/-- A thread sees the same in two rosters, and all tables are of the same size. -/
structure Twins (t : ThreadId) (v v' : View) (r s : Roster) : Prop where
  matching : v.Matches v'
  view_left : r.view t = v
  view_right : s.view t = v'
  size_eq : ∀ reg, (s.table reg).size = (r.table reg).size
  filament_eq : ∀ i f g, v.post i = some f → v'.post i = some g →
    s.filaments.get? g = r.filaments.get? f
  bound_eq : ∀ i f g, v.post i = some f → v'.post i = some g →
    ∀ reg, s.bound reg g = r.bound reg f

/-- A thread does not see a filament, and nobody is bound to it. -/
structure Unseen (r : Roster) (t : ThreadId) (f : FilamentId) : Prop where
  lacks : (r.view t).Lacks f
  bound_eq : ∀ reg, r.bound reg f = 0

namespace Twins

variable {v v' : View} {d d' : FilamentId}

lemma newFilament (h : Twins t v v' r s) (hr : r.Unseen t r.filaments.items.size)
    (hs : s.Unseen t s.filaments.items.size) (o : ObserverId) (flags : FilamentFlags)
    (t' : ThreadId) : Twins t v v' (r.newFilament o flags t').2 (s.newFilament o flags t').2 where
  matching := h.matching
  view_left := h.view_left
  view_right := h.view_right
  size_eq := h.size_eq
  filament_eq i f g hf hg := by
    have hf' : f ≠ r.filaments.items.size := fun heq => hr.lacks i (h.view_left ▸ heq ▸ hf)
    have hg' : g ≠ s.filaments.items.size := fun heq => hs.lacks i (h.view_right ▸ heq ▸ hg)
    refine (Pool.get?_add_of_ne _ _ hg').trans ?_
    exact (h.filament_eq i f g hf hg).trans (Pool.get?_add_of_ne _ _ hf').symm
  bound_eq := h.bound_eq

/-- Whether the thread is bound to a filament of its own does not depend on the filament. -/
lemma attach_fst (h : Twins t v v' r s) (hf : r.mainThread? f = some t)
    (hg : s.mainThread? g = some t) (reg : RegistryId) :
    (s.attach reg ⟨t, g, true⟩).1 = (r.attach reg ⟨t, f, true⟩).1 := by
  rw [attach_of_main_fst (b := ⟨t, g, true⟩) hg, attach_of_main_fst (b := ⟨t, f, true⟩) hf,
    h.size_eq reg]
  have hkind : (s.registries.get? reg).isNone = (r.registries.get? reg).isNone := by
    have hsame : (s.view t).kind reg = (r.view t).kind reg := by
      rw [h.view_left, h.view_right, h.matching.kind_eq]
    rw [← Option.isNone_map (f := Registry.kind), ← Option.isNone_map (f := Registry.kind)]
    exact congrArg Option.isNone hsame
  have hseat : ((s.table reg).lookup? t).isSome = ((r.table reg).lookup? t).isSome := by
    have hsame : ((s.view t).seat reg).map Binding.guarded
        = ((r.view t).seat reg).map Binding.guarded := by
      rw [h.view_left, h.view_right, h.matching.guarded_eq]
    rw [← Option.isSome_map (f := Binding.guarded), ← Option.isSome_map (f := Binding.guarded)]
    exact congrArg Option.isSome hsame
  rw [hkind, hseat]

lemma attach (h : Twins t v v' r s) (hr : r.Unseen t f) (hs : s.Unseen t g)
    (hf : r.mainThread? f = some t) (hsame : s.filaments.get? g = r.filaments.get? f)
    (hfits : (r.table reg).Fits) (hfits' : (s.table reg).Fits)
    (hattach : r.attach reg ⟨t, f, true⟩ = (.ok (), r'))
    (hattach' : s.attach reg ⟨t, g, true⟩ = (.ok (), s')) :
    Twins t (v.seating reg ⟨t, f, true⟩) (v'.seating reg ⟨t, g, true⟩) r' s' := by
  obtain ⟨hlacks, hnobody⟩ := hr
  obtain ⟨hlacks', hnobody'⟩ := hs
  rw [h.view_left] at hlacks
  rw [h.view_right] at hlacks'
  have hg : s.mainThread? g = some t := by
    rw [mainThread?, hsame]
    exact hf
  have hfilaments := attach_of_main_filaments (b := ⟨t, f, true⟩) hf hattach
  have hfilaments' := attach_of_main_filaments (b := ⟨t, g, true⟩) hg hattach'
  have hattached := Guests.attach_ok hattach
  have hattached' := Guests.attach_ok hattach'
  constructor
  · exact h.matching.seating hlacks hlacks' rfl
  · rw [view_attach (b := ⟨t, f, true⟩) hf hfits hattach, h.view_left]
  · rw [view_attach (b := ⟨t, g, true⟩) hg hfits' hattach', h.view_right]
  · intro reg'
    rw [size_attach hattached, size_attach hattached', h.size_eq]
  · intro i k l hk hl
    rw [hfilaments, hfilaments']
    by_cases hi : i = .own reg
    · subst hi
      rw [View.post_seating_self] at hk hl
      cases hk
      cases hl
      exact hsame
    · rw [View.post_seating_of_ne hi] at hk hl
      exact h.filament_eq i k l hk hl
  · intro i k l hk hl reg'
    rw [bound_attach hattached, bound_attach hattached']
    by_cases hi : i = .own reg
    · subst hi
      rw [View.post_seating_self] at hk hl
      cases hk
      cases hl
      simp only [hnobody, hnobody']
    · rw [View.post_seating_of_ne hi] at hk hl
      have hne : ¬ (reg = reg' ∧ f = k) := fun heq => hlacks i (heq.2 ▸ hk)
      have hne' : ¬ (reg = reg' ∧ g = l) := fun heq => hlacks' i (heq.2 ▸ hl)
      rw [if_neg hne, if_neg hne', h.bound_eq i k l hk hl]

lemma detach (h : Twins t (v.seating reg ⟨t, f, true⟩) (v'.seating reg ⟨t, g, true⟩) r s)
    (hmatching : v.Matches v') (hv : v.Lacks f) (hv' : v'.Lacks g) (hfree : v.seat reg = none)
    (hf : r.mainThread? f = some t) (hfits : (r.table reg).Fits) (hfits' : (s.table reg).Fits) :
    Twins t v v' (r.detach reg t) (s.detach reg t) := by
  have hpost : v.post (.own reg) = none := by rw [View.post, hfree, Option.map_none]
  have hpost' : v'.post (.own reg) = none := (hmatching.none_iff _).mpr hpost
  have hfree' : v'.seat reg = none := Option.map_eq_none_iff.mp hpost'
  have hseat : (r.table reg).lookup? t = some ⟨t, f, true⟩ :=
    (congrFun (congrArg View.seat h.view_left) reg).trans (Function.update_self ..)
  have hseat' : (s.table reg).lookup? t = some ⟨t, g, true⟩ :=
    (congrFun (congrArg View.seat h.view_right) reg).trans (Function.update_self ..)
  have hg : s.mainThread? g = some t := by
    rw [mainThread?, h.filament_eq _ f g (View.post_seating_self ..) (View.post_seating_self ..)]
    exact hf
  have hother {r : Roster} {e k : FilamentId} (hseat : (r.table reg).lookup? t = some ⟨t, e, true⟩)
      (hne : k ≠ e) : ∀ b, (r.table reg).lookup? t = some b → b.filament ≠ k := by
    intro b hb heq
    cases hseat.symm.trans hb
    exact hne heq.symm
  constructor
  · exact hmatching
  · exact view_detach h.view_left hfree hfits
  · exact view_detach h.view_right hfree' hfits'
  · intro reg'
    rw [size_detach hseat, size_detach hseat', h.size_eq]
  · intro i k l hk hl
    have hi := View.ne_of_post_eq_some hk hpost
    rw [← View.post_seating_of_ne hi] at hk hl
    rw [detach_of_main_filaments hseat hf, detach_of_main_filaments hseat' hg]
    exact h.filament_eq i k l hk hl
  · intro i k l hk hl reg'
    have hne : k ≠ f := fun heq => hv i (heq ▸ hk)
    have hne' : l ≠ g := fun heq => hv' i (heq ▸ hl)
    have hi := View.ne_of_post_eq_some hk hpost
    rw [← View.post_seating_of_ne hi] at hk hl
    rw [bound_detach (hother hseat hne), bound_detach (hother hseat' hne')]
    exact h.bound_eq i k l hk hl reg'

/-- Whether a default filament is installed depends on whether there is one. -/
lemma install (h : Twins t v v' r s) (hr : r.Unseen t r.filaments.items.size)
    (hs : s.Unseen t s.filaments.items.size) (reg : RegistryId) (o : ObserverId)
    (flags : FilamentFlags) :
    (∃ r' s', v.default? reg = none ∧
        r.installDefault reg o flags t = (.ok r.filaments.items.size, r') ∧
        s.installDefault reg o flags t = (.ok s.filaments.items.size, s') ∧
        Twins t (v.installing reg r.filaments.items.size)
          (v'.installing reg s.filaments.items.size) r' s') ∨
      r.installDefault reg o flags t = (.error .conflict, r) ∧
        s.installDefault reg o flags t = (.error .conflict, s) := by
  have hnone : s.default? reg = none ↔ r.default? reg = none := by
    have hsame := h.matching.none_iff (.default reg)
    rw [← h.view_left, ← h.view_right] at hsame
    exact hsame
  rcases Guests.installDefault_cases r reg o flags t with ⟨⟨f, hf⟩, hrefused⟩ |
      ⟨r', hdone, -, -, htable, hfree, -⟩ <;>
    rcases Guests.installDefault_cases s reg o flags t with ⟨⟨g, hg⟩, hrefused'⟩ |
      ⟨s', hdone', -, -, htable', hfree', -⟩
  · exact .inr ⟨hrefused, hrefused'⟩
  · rw [hnone.mp hfree'] at hf
    cases hf
  · rw [hnone.mpr hfree] at hg
    cases hg
  · obtain ⟨hlacks, hnobody⟩ := hr
    obtain ⟨hlacks', hnobody'⟩ := hs
    rw [h.view_left] at hlacks
    rw [h.view_right] at hlacks'
    have hview : r.default? reg = v.default? reg :=
      congrFun (congrArg View.default? h.view_left) reg
    -- what is found at the post of the default filament is the new one
    have hnew {u : View} {d k : FilamentId}
        (hk : (u.installing reg d).post (.default reg) = some k) : k = d := by
      rw [View.post_installing, Function.update_self, Option.map_eq_some_iff] at hk
      obtain ⟨-, -, rfl⟩ := hk
      rfl
    refine .inl ⟨r', s', hview ▸ hfree, hdone, hdone', ?_⟩
    constructor
    · exact h.matching.installing hlacks hlacks'
    · rw [view_install hdone, h.view_left]
    · rw [view_install hdone', h.view_right]
    · intro reg'
      rw [htable, htable', h.size_eq]
    · intro i k l hk hl
      rw [installDefault_filaments hdone, installDefault_filaments hdone']
      by_cases hi : i = .default reg
      · subst hi
        rw [hnew hk, hnew hl]
        exact (Pool.get?_add_self ..).trans (Pool.get?_add_self ..).symm
      · rw [View.post_installing_of_ne hi] at hk hl
        have hne : k ≠ r.filaments.items.size := fun heq => hlacks i (heq ▸ hk)
        have hne' : l ≠ s.filaments.items.size := fun heq => hlacks' i (heq ▸ hl)
        rw [Pool.get?_add_of_ne _ _ hne, Pool.get?_add_of_ne _ _ hne', h.filament_eq i k l hk hl]
    · intro i k l hk hl reg'
      rw [bound_congr (htable reg'), bound_congr (htable' reg')]
      by_cases hi : i = .default reg
      · subst hi
        rw [hnew hk, hnew hl, hnobody, hnobody']
      · rw [View.post_installing_of_ne hi] at hk hl
        exact h.bound_eq i k l hk hl reg'

lemma revoke (h : Twins t (v.installing reg d) (v'.installing reg d') r s)
    (hmatching : v.Matches v') (hd : v.Lacks d) (hd' : v'.Lacks d') (hfree : v.default? reg = none)
    (hfits : (r.table reg).Fits) (hfits' : (s.table reg).Fits) :
    Twins t v v' (r.revokeDefault reg d) (s.revokeDefault reg d') := by
  have hpost : v.post (.default reg) = none := hfree
  have hfree' : v'.default? reg = none := (hmatching.none_iff (.default reg)).mpr hpost
  -- where there is no registry, nobody is bound to anything
  have hbound : s.bound reg d' = r.bound reg d := by
    cases hkind : v.kind reg with
    | none =>
      have hempty {r : Roster} {u : View} {e : FilamentId} (hview : r.view t = u.installing reg e)
          (hu : u.kind reg = none) : r.bound reg e = 0 := by
        have hg : (r.registries.get? reg).map Registry.kind = none :=
          (congrFun (congrArg View.kind hview) reg).trans hu
        rw [bound, table, Option.map_eq_none_iff.mp hg]
        rfl
      rw [hempty h.view_left hkind, hempty h.view_right (hmatching.kind_eq ▸ hkind)]
    | some kind =>
      refine h.bound_eq (.default reg) d d' ?_ ?_ reg
      · rw [View.post_installing, Function.update_self, hkind, Option.map_some]
      · rw [View.post_installing, Function.update_self, hmatching.kind_eq, hkind, Option.map_some]
  constructor
  · exact hmatching
  · exact view_revoke h.view_left hfree hd hfits
  · exact view_revoke h.view_right hfree' hd' hfits'
  · intro reg'
    rw [size_revoke, size_revoke, h.size_eq, hbound]
  · intro i k l hk hl
    have hne : k ≠ d := fun heq => hd i (heq ▸ hk)
    have hne' : l ≠ d' := fun heq => hd' i (heq ▸ hl)
    have hi := View.ne_of_post_eq_some hk hpost
    rw [← View.post_installing_of_ne hi] at hk hl
    rw [revokeDefault_filaments hne, revokeDefault_filaments hne']
    exact h.filament_eq i k l hk hl
  · intro i k l hk hl reg'
    have hne : k ≠ d := fun heq => hd i (heq ▸ hk)
    have hne' : l ≠ d' := fun heq => hd' i (heq ▸ hl)
    have hi := View.ne_of_post_eq_some hk hpost
    rw [← View.post_installing_of_ne hi] at hk hl
    rw [bound_revoke hne, bound_revoke hne']
    exact h.bound_eq i k l hk hl reg'

end Twins

end Testbench.Roster
