import Mathlib.Data.List.Nodup
import Mathlib.Data.List.Perm.Basic
import Testbench.Proofs.Crew.Seat

/-!
# All tables together

A binding that is made, put into a table, taken out and undone is somewhere all the time: in one of
the tables or outside.  Whatever is done to a table, what is taken out of it and what stays make up
what was there; and whatever was done, no table holds two bindings of a thread or more than it has
room for.
-/

namespace Testbench

namespace ThreadTable

variable {t t' : ThreadTable} {b : Binding} {thread : ThreadId}

/-- No thread has two bindings, and there are no more than there is room for. -/
structure Fits (t : ThreadTable) : Prop where
  distinct : (t.bindings.map Binding.thread).Nodup
  size_le : t.bindings.length ≤ maxThreads

lemma fits_empty : Fits {} := ⟨List.nodup_nil, Nat.zero_le _⟩

/-- What stays after something was taken out still fits. -/
lemma Fits.of_perm (h : t.Fits) {gone : List Binding}
    (hperm : t.bindings.Perm (gone ++ t'.bindings)) : t'.Fits := by
  constructor
  · have hmap := hperm.map Binding.thread
    rw [List.map_append] at hmap
    exact (hmap.nodup_iff.mp h.distinct).of_append_right
  · have hlength := hperm.length_eq
    rw [List.length_append] at hlength
    have hsize := h.size_le
    omega

lemma Fits.of_sublist (h : t.Fits) {rest : List Binding} (hperm : t'.bindings.Perm rest)
    (hrest : rest.Sublist t.bindings) : t'.Fits := by
  constructor
  · exact (hperm.map Binding.thread).nodup_iff.mpr (h.distinct.sublist (hrest.map _))
  · exact Nat.le_trans (hperm.length_eq ▸ hrest.length_le) h.size_le

/-- A binding is put into the table if there is room and its thread has none; otherwise the table
tells why not, and stays as it is. -/
lemma bind_cases (t : ThreadTable) (b : Binding) :
    (b.thread ∉ t.bindings.map Binding.thread ∧ t.bindings.length < maxThreads ∧
        t.bind b = (.ok (), ⟨t.bindings ++ [b]⟩)) ∨
      (b.thread ∈ t.bindings.map Binding.thread ∧ t.bind b = (.error .conflict, t)) ∨
      (b.thread ∉ t.bindings.map Binding.thread ∧ maxThreads ≤ t.bindings.length ∧
        t.bind b = (.error (.tooManyThreads t.bindings.length), t)) := by
  have hposition : (t.position? b.thread).isSome ↔ b.thread ∈ t.bindings.map Binding.thread := by
    rw [position?, List.findIdx?_isSome, List.any_eq_true, List.mem_map]
    simp only [decide_eq_true_eq]
  rw [bind]
  by_cases hbound : b.thread ∈ t.bindings.map Binding.thread
  · rw [if_pos (hposition.mpr hbound)]
    exact .inr (.inl ⟨hbound, rfl⟩)
  · rw [if_neg (hposition.not.mpr hbound)]
    by_cases hroom : maxThreads ≤ t.size
    · rw [if_pos hroom]
      exact .inr (.inr ⟨hbound, hroom, rfl⟩)
    · rw [if_neg hroom]
      exact .inl ⟨hbound, Nat.lt_of_not_le hroom, rfl⟩

lemma Fits.bind (h : t.Fits) (b : Binding) : (t.bind b).2.Fits := by
  rcases t.bind_cases b with ⟨hfree, hroom, hbind⟩ | ⟨-, hbind⟩ | ⟨-, -, hbind⟩ <;> rw [hbind]
  · constructor
    · rw [List.map_append, List.map_singleton]
      exact List.nodup_append_comm.mp (List.nodup_cons.mpr ⟨hfree, h.distinct⟩)
    · rw [List.length_append, List.length_singleton]
      exact hroom
  · exact h
  · exact h

lemma unbind_none (h : t.unbind thread = (none, t')) : t' = t := by
  rw [unbind] at h
  split at h
  · exact (congrArg Prod.snd h).symm
  · rename_i i hi
    obtain ⟨hlt, -⟩ := List.findIdx?_eq_some_iff_getElem.mp hi
    obtain ⟨hnone, -⟩ := Prod.mk.inj h
    rw [List.getElem?_eq_getElem hlt] at hnone
    cases hnone

lemma unbind_perm (t : ThreadTable) (thread : ThreadId) :
    t.bindings.Perm ((t.unbind thread).1.toList ++ (t.unbind thread).2.bindings) := by
  rcases h : t.unbind thread with ⟨- | b, t'⟩
  · rw [unbind_none h]
    exact .refl _
  · exact (unbind_some h).2

lemma unbindIf_perm (t : ThreadTable) (thread : ThreadId) (f : FilamentId) :
    t.bindings.Perm ((t.unbindIf thread f).1.toList ++ (t.unbindIf thread f).2.bindings) := by
  rcases h : t.unbindIf thread f with ⟨- | b, t'⟩
  · rw [unbindIf_none h]
    exact .refl _
  · exact (unbindIf_some h).2

lemma unbindFilament_perm (t : ThreadTable) (f : FilamentId) :
    t.bindings.Perm ((t.unbindFilament f).1 ++ (t.unbindFilament f).2.bindings) := by
  have hperm := List.filter_append_perm (fun b : Binding => decide (b.filament = f)) t.bindings
  simpa [unbindFilament] using hperm.symm

/-! ### Tables as maps -/

/-- What is left of a table when some bindings were taken out, told by what they have in common. -/
lemma perm_filter_of_perm {gone rest : List Binding} {stays : Binding → Bool}
    (hperm : t.bindings.Perm (gone ++ rest)) (hgone : ∀ b ∈ gone, stays b = false)
    (hrest : ∀ b ∈ rest, stays b = true) : rest.Perm (t.bindings.filter stays) := by
  have hnone : gone.filter stays = [] := List.filter_eq_nil_iff.mpr (by simpa using hgone)
  have hfilter := hperm.filter stays
  rw [List.filter_append, hnone, List.filter_eq_self.mpr hrest, List.nil_append] at hfilter
  exact hfilter.symm

lemma lookup?_eq_some_iff (h : t.Fits) :
    t.lookup? thread = some b ↔ b ∈ t.bindings ∧ b.thread = thread := by
  constructor
  · intro hb
    exact ⟨List.mem_of_find?_eq_some hb, by simpa using List.find?_some hb⟩
  · rintro ⟨hb, rfl⟩
    cases hc : t.lookup? b.thread with
    | none =>
      have hnone := List.find?_eq_none.mp hc b hb
      simp at hnone
    | some c =>
      have hthread : c.thread = b.thread := by simpa using List.find?_some hc
      rw [List.inj_on_of_nodup_map h.distinct (List.mem_of_find?_eq_some hc) hb hthread]

lemma lookup?_eq_none_iff :
    t.lookup? thread = none ↔ ∀ b ∈ t.bindings, b.thread ≠ thread := by
  simp [lookup?, List.find?_eq_none]

/-- The order of a table means nothing. -/
lemma lookup?_of_perm (h : t.Fits) (hperm : t.bindings.Perm t'.bindings) (thread : ThreadId) :
    t'.lookup? thread = t.lookup? thread := by
  have hnone : t.bindings.Perm ([] ++ t'.bindings) := hperm
  have h' : t'.Fits := h.of_perm hnone
  refine Option.ext fun b => ?_
  rw [lookup?_eq_some_iff h, lookup?_eq_some_iff h', hperm.mem_iff]

/-- A thread that was taken out is in the table no more. -/
lemma Fits.unbind_perm_filter (h : t.Fits) (thread : ThreadId) :
    (t.unbind thread).2.bindings.Perm (t.bindings.filter (·.thread ≠ thread)) := by
  have hperm := t.unbind_perm thread
  rcases hunbind : t.unbind thread with ⟨- | b, t'⟩ <;> rw [hunbind] at hperm
  · refine perm_filter_of_perm hperm (by simp) fun c hc => ?_
    rw [unbind] at hunbind
    split at hunbind
    · rename_i hnone
      have := List.findIdx?_eq_none_iff.mp hnone c (hperm.mem_iff.mpr hc)
      simpa using this
    · rename_i i hi
      obtain ⟨hlt, -⟩ := List.findIdx?_eq_some_iff_getElem.mp hi
      simp [List.getElem?_eq_getElem hlt] at hunbind
  · obtain ⟨hb, -⟩ := unbind_some hunbind
    have hdistinct := (hperm.map Binding.thread).nodup_iff.mp h.distinct
    simp only [Option.toList_some, List.singleton_append, List.map_cons,
      List.nodup_cons] at hdistinct
    refine perm_filter_of_perm hperm (by simpa using hb) fun c hc => ?_
    have hne : c.thread ≠ b.thread := fun heq =>
      hdistinct.1 (heq ▸ List.mem_map_of_mem hc)
    simpa [hb] using hne

/-- So is a thread that was taken out because it was bound to some filament. -/
lemma Fits.unbindIf_perm_filter (h : t.Fits) (thread : ThreadId) (f : FilamentId) :
    (t.unbindIf thread f).2.bindings.Perm
      (t.bindings.filter fun b => !(b.thread = thread && b.filament = f)) := by
  rw [ThreadTable.unbindIf, isBoundTo]
  cases hb : t.lookup? thread with
  | none =>
    have hnone := lookup?_eq_none_iff.mp hb
    refine .of_eq (List.filter_eq_self.mpr fun c hc => ?_).symm
    simp [hnone c hc]
  | some b =>
    obtain ⟨hmem, hthread⟩ := (lookup?_eq_some_iff h).mp hb
    have hone (c : Binding) (hc : c ∈ t.bindings) (heq : c.thread = thread) : c = b :=
      List.inj_on_of_nodup_map h.distinct hc hmem (heq.trans hthread.symm)
    by_cases hf : b.filament = f
    · simp only [hf, beq_self_eq_true, if_true]
      refine (h.unbind_perm_filter thread).trans (.of_eq (List.filter_congr fun c hc => ?_))
      by_cases heq : c.thread = thread
      · simp [hone c hc heq, hf]
      · simp [heq]
    · simp only [beq_eq_false_iff_ne.mpr hf, Bool.false_eq_true, if_false]
      refine .of_eq (List.filter_eq_self.mpr fun c hc => ?_).symm
      by_cases heq : c.thread = thread
      · simp [hone c hc heq, hf]
      · simp [heq]

end ThreadTable

/-- When one part of a list changes, the other parts stay. -/
lemma perm_flatMap_set {α β : Type} {l : List α} {i : Nat} {a : α} (f : α → List β)
    (h : l[i]? = some a) (a' : α) :
    (f a' ++ l.flatMap f).Perm (f a ++ (l.set i a').flatMap f) := by
  induction l generalizing i with
  | nil => cases h
  | cons c l ih =>
    cases i with
    | zero =>
      obtain rfl : c = a := Option.some.inj h
      exact List.perm_append_comm_assoc ..
    | succ i =>
      have hrest := (ih h).append_left (f c)
      exact (List.perm_append_comm_assoc ..).trans (hrest.trans (List.perm_append_comm_assoc ..))

namespace Roster

variable {r : Roster} {reg : RegistryId} {g : Registry} {α : Type}

/-- The bindings in all tables. -/
def bindings (r : Roster) : List Binding :=
  r.registries.items.toList.flatMap fun g => g.table.bindings

lemma toList_modify (p : Pool Registry) (i : RegistryId) (g : Registry) :
    (p.modify i fun _ => g).items.toList = p.items.toList.set i g := by
  refine List.ext_getElem? fun j => ?_
  rw [Array.getElem?_toList, Pool.modify, Array.getElem?_modify, List.getElem?_set,
    Array.getElem?_toList]
  by_cases hij : i = j
  · subst hij
    rw [if_pos rfl, if_pos rfl]
    split
    · rename_i hlt
      rw [Array.getElem?_eq_getElem hlt]
      rfl
    · rename_i hlt
      rw [Array.getElem?_eq_none (Nat.le_of_not_lt hlt)]
      rfl
  · rw [if_neg hij, if_neg hij]

/-- What is done to one table is done to all of them together. -/
lemma onTable_perm (hg : r.registries.get? reg = some g) (fallback : α)
    (f : ThreadTable → α × ThreadTable) (xs ys : List Binding)
    (hf : (xs ++ g.table.bindings).Perm (ys ++ (f g.table).2.bindings)) :
    (xs ++ r.bindings).Perm (ys ++ (r.onTable reg fallback f).2.bindings) := by
  rw [onTable_eq hg, bindings, bindings, toList_modify]
  have hget : r.registries.items.toList[reg]? = some g := by
    rw [Array.getElem?_toList]
    exact hg
  have hall := perm_flatMap_set (fun g : Registry => g.table.bindings) hget
    { g with table := (f g.table).2 }
  dsimp only at hall ⊢
  generalize r.registries.items.toList.flatMap (fun g => g.table.bindings) = before at hall ⊢
  generalize (r.registries.items.toList.set reg _).flatMap (fun g => g.table.bindings) = after
    at hall ⊢
  -- with the changed table on one side and the old one on the other, the rest can be cancelled
  refine (List.perm_append_left_iff (f g.table).2.bindings).mp ?_
  calc ((f g.table).2.bindings ++ (xs ++ before)).Perm (xs ++ ((f g.table).2.bindings ++ before)) :=
        List.perm_append_comm_assoc ..
    _ |>.Perm (xs ++ (g.table.bindings ++ after)) := hall.append_left xs
    _ |>.Perm ((xs ++ g.table.bindings) ++ after) := .of_eq (List.append_assoc ..).symm
    _ |>.Perm ((ys ++ (f g.table).2.bindings) ++ after) := hf.append_right after
    _ |>.Perm (ys ++ ((f g.table).2.bindings ++ after)) := .of_eq (List.append_assoc ..)
    _ |>.Perm ((f g.table).2.bindings ++ (ys ++ after)) := List.perm_append_comm_assoc ..

/-- A binding that is made or undone is nothing to the registries. -/
lemma prepare_registries (r : Roster) (b : Binding) :
    (r.prepare b).2.registries = r.registries := by
  rw [prepare]
  split <;> rfl

lemma release_registries (r : Roster) (b : Binding) : (r.release b).registries = r.registries := by
  rw [release]
  split <;> rfl

/-- What is done to a table leaves the default filaments alone. -/
lemma default?_onTable (r : Roster) (reg : RegistryId) (fallback : α)
    (f : ThreadTable → α × ThreadTable) (reg' : RegistryId) :
    (r.onTable reg fallback f).2.default? reg' = r.default? reg' := by
  cases hg : r.registries.get? reg with
  | none => rw [onTable_of_none hg]
  | some g =>
    rw [onTable_eq hg, default?, default?]
    by_cases h : reg = reg'
    · subst h
      rw [Pool.get?_modify_self _ hg, hg]
      rfl
    · rw [Pool.get?_modify_of_ne h]

/-- A table of which nothing but one registry changed. -/
lemma table_onTable (hg : r.registries.get? reg = some g) (fallback : α)
    (f : ThreadTable → α × ThreadTable) (reg' : RegistryId) :
    (r.onTable reg fallback f).2.table reg' =
      if reg = reg' then (f g.table).2 else r.table reg' := by
  rw [onTable_eq hg]
  by_cases h : reg = reg'
  · subst h
    rw [if_pos rfl, table, Pool.get?_modify_self _ hg]
  · rw [if_neg h, table, table, Pool.get?_modify_of_ne h]

lemma table_congr {r' : Roster} (h : r'.registries = r.registries) (reg : RegistryId) :
    r'.table reg = r.table reg := by
  rw [table, table, h]

lemma default?_congr {r' : Roster} (h : r'.registries = r.registries) (reg : RegistryId) :
    r'.default? reg = r.default? reg := by
  rw [default?, default?, h]

/-! ### Taking threads back -/

/-- Where there is no registry, nothing can be taken out of its table. -/
lemma table_takeOut (r : Roster) (reg : RegistryId) (fallback : α)
    {f : ThreadTable → α × ThreadTable} (hf : (f {}).2 = {}) (reg' : RegistryId) :
    (r.onTable reg fallback f).2.table reg' =
      if reg = reg' then (f (r.table reg)).2 else r.table reg' := by
  cases hg : r.registries.get? reg with
  | some g => rw [table_onTable hg, table_eq hg]
  | none =>
    have hempty : r.table reg = {} := by rw [table, hg]
    rw [onTable_of_none hg]
    split
    · rename_i h
      rw [← h, hempty, hf]
    · rfl

lemma table_detach (r : Roster) (reg : RegistryId) (thread : ThreadId) (reg' : RegistryId) :
    (r.detach reg thread).table reg' =
      if reg = reg' then ((r.table reg).unbind thread).2 else r.table reg' := by
  rw [← r.table_takeOut reg none (f := (·.unbind thread)) rfl, detach]
  rcases r.onTable reg none (·.unbind thread) with ⟨- | b, r'⟩
  · rfl
  · exact table_congr (release_registries r' b) reg'

/-- A thread that was taken out can be bound again. -/
lemma free_detach (h : (r.table reg).Fits) {b : Binding} {thread : ThreadId}
    (hb : b ∈ (r.table reg).bindings) (hthread : b.thread = thread) :
    (r.detach reg thread).Free reg thread := by
  subst hthread
  cases hg : r.registries.get? reg with
  | none =>
    rw [table, hg] at hb
    cases hb
  | some g =>
    have hregistries : (r.detach reg b.thread).registries
        = (r.onTable reg none (·.unbind b.thread)).2.registries := by
      rw [detach]
      rcases r.onTable reg none (·.unbind b.thread) with ⟨- | c, r'⟩
      · rfl
      · exact release_registries r' c
    have hafter : (r.detach reg b.thread).registries.get? reg
        = some { g with table := (g.table.unbind b.thread).2 } := by
      rw [hregistries, onTable_eq hg]
      exact Pool.get?_modify_self _ hg
    have hperm := h.unbind_perm_filter b.thread
    rw [table_eq hg] at hb hperm
    refine ⟨_, hafter, List.findIdx?_eq_none_iff.mpr fun c hc => ?_, ?_⟩
    · simpa using (List.mem_filter.mp (hperm.mem_iff.mp hc)).2
    · have hlt : (g.table.unbind b.thread).2.bindings.length < g.table.bindings.length := by
        rw [hperm.length_eq]
        exact List.length_filter_lt_length_iff_exists.mpr ⟨b, hb, by simp⟩
      rw [table_eq hg] at h
      exact Nat.lt_of_lt_of_le hlt h.size_le

lemma table_detachIf (r : Roster) (reg : RegistryId) (thread : ThreadId) (f : FilamentId)
    (reg' : RegistryId) : (r.detachIf reg thread f).table reg' =
      if reg = reg' then ((r.table reg).unbindIf thread f).2 else r.table reg' := by
  rw [← r.table_takeOut reg none (f := (·.unbindIf thread f)) rfl, detachIf]
  rcases r.onTable reg none (·.unbindIf thread f) with ⟨- | b, r'⟩
  · rfl
  · exact table_congr (release_registries r' b) reg'

lemma default?_detach (r : Roster) (reg : RegistryId) (thread : ThreadId) (reg' : RegistryId) :
    (r.detach reg thread).default? reg' = r.default? reg' := by
  rw [← r.default?_onTable reg none (·.unbind thread), detach]
  rcases r.onTable reg none (·.unbind thread) with ⟨- | b, r'⟩
  · rfl
  · exact default?_congr (release_registries r' b) reg'

lemma default?_detachIf (r : Roster) (reg : RegistryId) (thread : ThreadId) (f : FilamentId)
    (reg' : RegistryId) : (r.detachIf reg thread f).default? reg' = r.default? reg' := by
  rw [← r.default?_onTable reg none (·.unbindIf thread f), detachIf]
  rcases r.onTable reg none (·.unbindIf thread f) with ⟨- | b, r'⟩
  · rfl
  · exact default?_congr (release_registries r' b) reg'

/-- Of the bindings of a thread that ends, those go that came of its adoptions. -/
lemma threadEnded_perm (h : (r.table reg).Fits) (thread : ThreadId) :
    ((r.threadEnded thread).table reg).bindings.Perm ((r.table reg).bindings.filter fun b =>
      !(b.thread = thread && decide (⟨thread, reg, b.filament⟩ ∈ r.adoptions))) := by
  have hfold (l : List Adoption) (hl : ∀ a ∈ l, a.thread = thread) (r : Roster)
      (h : (r.table reg).Fits) :
      ((l.foldl (fun r a => r.detachIf a.registry a.thread a.filament) r).table reg).bindings.Perm
        ((r.table reg).bindings.filter fun b =>
          !(b.thread = thread && decide (⟨thread, reg, b.filament⟩ ∈ l))) := by
    induction l generalizing r with
    | nil => simp
    | cons a l ih =>
      obtain ⟨t, reg', f⟩ := a
      obtain rfl : t = thread := hl _ List.mem_cons_self
      -- the first adoption takes one binding out of the table, if it is about this table
      have hfirst : ((r.detachIf reg' t f).table reg).bindings.Perm
          ((r.table reg).bindings.filter fun b =>
            !(b.thread = t && (reg = reg' && b.filament = f))) := by
        rw [table_detachIf]
        by_cases hreg : reg = reg'
        · subst hreg
          simpa using h.unbindIf_perm_filter t f
        · simp [hreg, Ne.symm hreg]
      have hfits : ((r.detachIf reg' t f).table reg).Fits := by
        rw [table_detachIf]
        split
        · rename_i hreg
          subst hreg
          exact h.of_perm ((r.table reg').unbindIf_perm t f)
        · exact h
      refine (ih (fun a ha => hl a (List.mem_cons_of_mem _ ha)) _ hfits).trans ?_
      refine (hfirst.filter _).trans (.of_eq ?_)
      rw [List.filter_filter]
      refine List.filter_congr fun b _ => ?_
      by_cases hthread : b.thread = t <;> by_cases hreg : reg = reg' <;>
        by_cases hf : b.filament = f <;> simp [hthread, hreg, hf]
  have hmine := hfold (r.adoptions.filter (·.thread = thread)) (by simp) r h
  refine (List.Perm.of_eq (congrArg ThreadTable.bindings (table_congr rfl reg))).trans
    (hmine.trans (.of_eq ?_))
  refine List.filter_congr fun b _ => ?_
  simp

lemma threadEnded_adoptions (r : Roster) (thread : ThreadId) :
    (r.threadEnded thread).adoptions = r.adoptions.filter (·.thread ≠ thread) := by
  have hfold (l : List Adoption) (r : Roster) :
      (l.foldl (fun r a => r.detachIf a.registry a.thread a.filament) r).adoptions
        = r.adoptions := by
    induction l generalizing r with
    | nil => rfl
    | cons a l ih => exact (ih _).trans (detachIf_adoptions ..)
  exact congrArg (List.filter (·.thread ≠ thread)) (hfold _ r)

lemma default?_threadEnded (r : Roster) (thread : ThreadId) (reg : RegistryId) :
    (r.threadEnded thread).default? reg = r.default? reg := by
  have hfold (l : List Adoption) (r : Roster) :
      (l.foldl (fun r a => r.detachIf a.registry a.thread a.filament) r).default? reg
        = r.default? reg := by
    induction l generalizing r with
    | nil => rfl
    | cons a l ih => exact (ih _).trans (default?_detachIf ..)
  exact (default?_congr rfl reg).trans (hfold _ r)

end Roster

end Testbench
