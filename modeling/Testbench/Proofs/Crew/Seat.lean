import Mathlib.Data.List.Perm.Basic
import Testbench.Proofs.Roster

/-!
# Seats and counts

A thread has a seat in a filament if the table of its registry holds one binding of the thread, which
is to this filament.  Taking a binding out moves another one into its place, but the seats of all
other threads stay as they are; and the filament counts its threads one by one, except for its main
thread, which it never counts.
-/

namespace Testbench

namespace ThreadTable

variable {t t' : ThreadTable} {thread : ThreadId} {b : Binding} {i : Nat}

/-- The bindings of a thread. -/
def bindingsOf (t : ThreadTable) (thread : ThreadId) : List Binding :=
  t.bindings.filter (·.thread = thread)

/-- What is taken out of a place is all that is missing afterwards. -/
lemma removeAt_perm (h : t.bindings[i]? = some b) :
    t.bindings.Perm (b :: (t.removeAt i).bindings) := by
  obtain ⟨hlt, rfl⟩ := List.getElem?_eq_some_iff.mp h
  rw [removeAt]
  split
  · rename_i hnone
    rw [List.getLast?_eq_none_iff.mp hnone] at hlt
    exact absurd hlt (Nat.not_lt_zero i)
  · rename_i last hlast
    obtain ⟨init, hinit⟩ := List.getLast?_eq_some_iff.mp hlast
    simp only [hinit] at hlt ⊢
    rw [List.length_append, List.length_singleton] at hlt
    by_cases hi : i < init.length
    · -- the last binding moves into the place that is left
      rw [List.getElem_append_left hi, List.set_append_left i last hi, List.dropLast_concat]
      calc (init ++ [last]).Perm (last :: init) := List.perm_append_comm
        _ |>.Perm (last :: init[i] :: init.eraseIdx i) :=
          (List.getElem_cons_eraseIdx_perm hi).symm.cons last
        _ |>.Perm (init[i] :: last :: init.eraseIdx i) := .swap ..
        _ |>.Perm (init[i] :: init.set i last) :=
          (List.set_perm_cons_eraseIdx hi last).symm.cons init[i]
    · obtain rfl : i = init.length := by omega
      have hset : (init ++ [last]).set init.length last = init ++ [last] := by
        rw [List.set_append_right _ _ (Nat.le_refl _), Nat.sub_self]
        rfl
      rw [hset, List.dropLast_concat, List.getElem_concat_length rfl]
      exact List.perm_append_comm

/-- When something else is taken out, the one binding of a thread stays. -/
lemma bindingsOf_of_perm {c : Binding} (hperm : t.bindings.Perm (b :: t'.bindings))
    (h : t.bindingsOf thread = [c]) (hb : b ≠ c) : t'.bindingsOf thread = [c] := by
  have hfilter := hperm.filter (·.thread = thread)
  rw [← bindingsOf, h] at hfilter
  by_cases hthread : b.thread = thread
  · rw [List.filter_cons_of_pos (by simpa using hthread)] at hfilter
    have hmem : b ∈ [c] := hfilter.mem_iff.mpr List.mem_cons_self
    exact absurd (List.mem_singleton.mp hmem) hb
  · rw [List.filter_cons_of_neg (by simpa using hthread)] at hfilter
    exact List.perm_singleton.mp hfilter.symm

lemma bind_ok (h : t.bind b = (.ok (), t')) :
    t.bindingsOf b.thread = [] ∧ t'.bindings = t.bindings ++ [b] := by
  rw [bind] at h
  split at h
  · cases h
  · rename_i hfree
    split at h
    · cases h
    · cases h
      refine ⟨List.filter_eq_nil_iff.mpr fun c hc => ?_, rfl⟩
      have hnone : t.position? b.thread = none := by simpa using hfree
      have := List.findIdx?_eq_none_iff.mp hnone c hc
      simpa using this

lemma bind_error {why : FilamentError} (h : t.bind b = (.error why, t')) : t' = t := by
  rw [bind] at h
  split at h
  · exact (congrArg Prod.snd h).symm
  · split at h
    · exact (congrArg Prod.snd h).symm
    · cases h

/-- A thread with one binding is found in its place. -/
lemma unbind_eq (h : t.bindingsOf thread = [b]) :
    ∃ i, t.bindings[i]? = some b ∧ t.unbind thread = (some b, t.removeAt i) := by
  have hmem : b ∈ t.bindings.filter (·.thread = thread) := by
    rw [← bindingsOf, h]
    exact List.mem_singleton_self b
  obtain ⟨hb, hthread⟩ := List.mem_filter.mp hmem
  cases hi : t.position? thread with
  | none =>
    have := List.findIdx?_eq_none_iff.mp hi b hb
    rw [this] at hthread
    cases hthread
  | some i =>
    obtain ⟨hlt, hthere, -⟩ := List.findIdx?_eq_some_iff_getElem.mp hi
    have hfound : t.bindings[i] ∈ t.bindingsOf thread :=
      List.mem_filter.mpr ⟨List.getElem_mem hlt, hthere⟩
    rw [h] at hfound
    have hget : t.bindings[i]? = some b := by
      rw [List.getElem?_eq_getElem hlt, List.mem_singleton.mp hfound]
    refine ⟨i, hget, ?_⟩
    rw [unbind, hi]
    exact Prod.ext hget rfl

lemma unbind_some {t' : ThreadTable} (h : t.unbind thread = (some b, t')) :
    b.thread = thread ∧ t.bindings.Perm (b :: t'.bindings) := by
  rw [unbind] at h
  split at h
  · cases h
  · rename_i i hi
    obtain ⟨hlt, hthere, -⟩ := List.findIdx?_eq_some_iff_getElem.mp hi
    obtain ⟨hget, rfl⟩ := Prod.mk.inj h
    refine ⟨?_, removeAt_perm hget⟩
    obtain ⟨-, rfl⟩ := List.getElem?_eq_some_iff.mp hget
    simpa using hthere

/-- The first binding of a thread is found, and is the one that is taken out. -/
lemma unbindIf_some {t' : ThreadTable} {f : FilamentId} (h : t.unbindIf thread f = (some b, t')) :
    b.filament = f ∧ t.bindings.Perm (b :: t'.bindings) := by
  rw [unbindIf] at h
  split at h
  · rename_i hbound
    refine ⟨?_, (unbind_some h).2⟩
    rw [isBoundTo] at hbound
    split at hbound
    · rename_i c hc
      rw [unbind] at h
      split at h
      · cases h
      · rename_i i hi
        have hget : t.bindings[i]? = some c := by
          rw [lookup?, List.find?_eq_bind_findIdx?_getElem?] at hc
          rw [position?] at hi
          rw [hi] at hc
          exact hc
        obtain ⟨hb, -⟩ := Prod.mk.inj h
        obtain rfl := Option.some.inj (hget.symm.trans hb)
        exact eq_of_beq hbound
    · cases hbound
  · cases h

lemma unbindIf_none {t' : ThreadTable} {f : FilamentId} (h : t.unbindIf thread f = (none, t')) :
    t' = t := by
  rw [unbindIf] at h
  split at h
  · rw [unbind] at h
    split at h
    · exact (congrArg Prod.snd h).symm
    · rename_i i hi
      obtain ⟨hlt, -⟩ := List.findIdx?_eq_some_iff_getElem.mp hi
      obtain ⟨hnone, -⟩ := Prod.mk.inj h
      rw [List.getElem?_eq_getElem hlt] at hnone
      cases hnone
  · exact (congrArg Prod.snd h).symm

end ThreadTable

namespace Roster

variable {r r' : Roster} {reg : RegistryId} {f : FilamentId} {t u : ThreadId} {b : Binding}

/-- A thread is bound to a filament in a registry, under a boundary, and to nothing else there. -/
def Seated (r : Roster) (reg : RegistryId) (f : FilamentId) (t : ThreadId) : Prop :=
  (r.table reg).bindingsOf t = [⟨t, f, true⟩]

/-- A registry that is not there has an empty table. -/
lemma exists_registry (h : r.Seated reg f t) : ∃ g, r.registries.get? reg = some g := by
  cases hg : r.registries.get? reg with
  | some g => exact ⟨g, rfl⟩
  | none =>
    rw [Seated, table, hg] at h
    cases h

lemma onTable_eq {β : Type} {g : Registry} (hg : r.registries.get? reg = some g) (fallback : β)
    (h : ThreadTable → β × ThreadTable) :
    r.onTable reg fallback h = ((h g.table).1, { r with
      registries := r.registries.modify reg fun _ => { g with table := (h g.table).2 } }) := by
  rw [onTable, Pool.update_eq _ _ hg]

lemma onTable_of_none {β : Type} (hg : r.registries.get? reg = none) (fallback : β)
    (h : ThreadTable → β × ThreadTable) : r.onTable reg fallback h = (fallback, r) := by
  rw [Pool.get?] at hg
  simp only [onTable, Pool.update, hg]

lemma table_eq {g : Registry} (hg : r.registries.get? reg = some g) : r.table reg = g.table := by
  rw [table, hg]

/-- A thread that is put into the table has a seat, and nobody loses one. -/
lemma seated_bind (h : r.onTable reg (.error .unknownThread) (·.bind ⟨t, f, true⟩) = (.ok (), r')) :
    r'.filaments = r.filaments ∧ r'.Seated reg f t ∧
      ∀ u, r.Seated reg f u → r'.Seated reg f u := by
  cases hg : r.registries.get? reg with
  | none =>
    rw [onTable_of_none hg] at h
    cases h
  | some g =>
    rw [onTable_eq hg] at h
    obtain ⟨hok, rfl⟩ := Prod.mk.inj h
    obtain ⟨hfree, hbindings⟩ := ThreadTable.bind_ok (t := g.table) (Prod.ext hok rfl)
    have hg' := Pool.get?_modify_self
      (fun _ => { g with table := (g.table.bind ⟨t, f, true⟩).2 }) hg
    have hof (u : ThreadId) : (g.table.bind ⟨t, f, true⟩).2.bindingsOf u
        = g.table.bindingsOf u ++ if t = u then [⟨t, f, true⟩] else [] := by
      rw [ThreadTable.bindingsOf, hbindings, List.filter_append, ThreadTable.bindingsOf]
      congr 1
      split
      · rename_i htu
        exact List.filter_cons_of_pos (by simpa using htu)
      · rename_i htu
        exact List.filter_cons_of_neg (by simpa using htu)
    refine ⟨rfl, ?_, fun u hu => ?_⟩
    · rw [Seated, table_eq hg', hof, hfree, if_pos rfl, List.nil_append]
    · rw [Seated, table_eq hg] at hu
      rw [Seated, table_eq hg', hof, hu]
      split
      · rename_i htu
        subst htu
        rw [hfree] at hu
        cases hu
      · rfl

/-- A thread that is not put into the table changes nothing. -/
lemma bind_error_eq {why : FilamentError}
    (h : r.onTable reg (.error .unknownThread) (·.bind b) = (.error why, r')) : r' = r := by
  cases hg : r.registries.get? reg with
  | none =>
    rw [onTable_of_none hg] at h
    exact (congrArg Prod.snd h).symm
  | some g =>
    rw [onTable_eq hg] at h
    obtain ⟨herror, rfl⟩ := Prod.mk.inj h
    have htable : (g.table.bind b).2 = g.table := ThreadTable.bind_error (Prod.ext herror rfl)
    rw [htable, Pool.modify_eq_self_of_some hg rfl]

/-- A thread that is taken out of the table leaves with its own binding, and nobody else loses a
seat. -/
lemma seated_unbind {b? : Option Binding} (ht : r.Seated reg f t)
    (h : r.onTable reg none (·.unbind t) = (b?, r')) :
    b? = some ⟨t, f, true⟩ ∧ r'.filaments = r.filaments ∧
      ∀ u, u ≠ t → r.Seated reg f u → r'.Seated reg f u := by
  obtain ⟨g, hg⟩ := exists_registry ht
  rw [Seated, table_eq hg] at ht
  obtain ⟨i, hi, hunbind⟩ := ThreadTable.unbind_eq ht
  rw [onTable_eq hg, hunbind] at h
  obtain ⟨rfl, rfl⟩ := Prod.mk.inj h
  have hg' := Pool.get?_modify_self (fun _ => { g with table := g.table.removeAt i }) hg
  refine ⟨rfl, rfl, fun u hu hseated => ?_⟩
  rw [Seated, table_eq hg] at hseated
  rw [Seated, table_eq hg']
  refine ThreadTable.bindingsOf_of_perm (ThreadTable.removeAt_perm hi) hseated fun heq => ?_
  exact hu (congrArg Binding.thread heq).symm

/-! ### Counting -/

variable {x : Filament}

lemma mainThread?_eq (hx : r.filaments.get? f = some x) : r.mainThread? f = some x.mainThread := by
  rw [mainThread?, hx]
  rfl

/-- How much a thread adds to the count of a filament: nothing if it is the main thread. -/
def weight (main t : ThreadId) : Nat := if main = t then 0 else 1

/-- What comes of making a binding. -/
lemma prepare_eq (hx : r.filaments.get? f = some x) :
    r.prepare ⟨t, f, true⟩ = if x.mainThread = t then (.ok (), r)
      else (x.addChild.1, { r with filaments := r.filaments.modify f fun _ => x.addChild.2 }) := by
  rw [prepare, mainThread?_eq hx, Pool.update_eq _ _ hx]
  simp only [Option.some.injEq]

/-- A binding that is made counts its thread. -/
lemma prepare_ok (hx : r.filaments.get? f = some x) (h : r.prepare ⟨t, f, true⟩ = (.ok (), r')) :
    r'.registries = r.registries ∧
      r'.filaments.get? f = some { x with running := x.running + weight x.mainThread t } := by
  rw [prepare_eq hx] at h
  split at h
  · rename_i hmain
    cases h
    rw [weight, if_pos hmain]
    exact ⟨rfl, hx⟩
  · rename_i hmain
    rw [weight, if_neg hmain]
    obtain ⟨hok, rfl⟩ := Prod.mk.inj h
    refine ⟨rfl, (Pool.get?_modify_self _ hx).trans ?_⟩
    rw [Filament.addChild] at hok ⊢
    split at hok
    · cases hok
    · rename_i hroom
      rw [if_neg hroom]

/-- There is no binding if there is no room for a child. -/
lemma prepare_error (hx : r.filaments.get? f = some x) {why : FilamentError}
    (h : r.prepare ⟨t, f, true⟩ = (.error why, r')) : r' = r := by
  rw [prepare_eq hx] at h
  split at h
  · cases h
  · obtain ⟨herror, rfl⟩ := Prod.mk.inj h
    have hadd : x.addChild.2 = x := by
      rw [Filament.addChild] at herror ⊢
      split at herror
      · rename_i hfull
        rw [if_pos hfull]
      · cases herror
    rw [hadd, Pool.modify_eq_self_of_some hx rfl]

/-- A binding that is undone counts its thread no more. -/
lemma release_eq (hx : r.filaments.get? f = some x) :
    (r.release ⟨t, f, true⟩).registries = r.registries ∧
      (r.release ⟨t, f, true⟩).filaments.get? f = some { x with
        running := x.running - weight x.mainThread t } := by
  rw [release, mainThread?_eq hx]
  split
  · rename_i hmain
    rw [weight, if_pos (Option.some.inj hmain)]
    exact ⟨rfl, hx⟩
  · rename_i hmain
    have hne : x.mainThread ≠ t := fun heq => hmain (congrArg some heq)
    rw [weight, if_neg hne]
    exact ⟨rfl, Pool.get?_modify_self _ hx⟩

lemma Seated.of_registries (h : r'.registries = r.registries) (hu : r.Seated reg f u) :
    r'.Seated reg f u := by
  rw [Seated, table, h]
  exact hu

/-- Undoing a binding does not concern other filaments. -/
lemma release_of_ne (h : b.filament ≠ f) : (r.release b).registries = r.registries ∧
    (r.release b).filaments.get? f = r.filaments.get? f := by
  rw [release]
  split
  · exact ⟨rfl, rfl⟩
  · exact ⟨rfl, Pool.get?_modify_of_ne h _⟩

/-! ### Attaching and taking back -/

lemma prepare_adoptions (r : Roster) (b : Binding) : (r.prepare b).2.adoptions = r.adoptions := by
  rw [prepare]
  split <;> rfl

lemma release_adoptions (r : Roster) (b : Binding) : (r.release b).adoptions = r.adoptions := by
  rw [release]
  split <;> rfl

/-- A thread is attached in two steps, or is turned away in one of them. -/
lemma attach_cases (r : Roster) (reg : RegistryId) (b : Binding) :
    (∃ why r₁, r.prepare b = (.error why, r₁) ∧ r.attach reg b = (.error why, r₁)) ∨
      ∃ r₁, r.prepare b = (.ok (), r₁) ∧
        ((∃ r₂, r₁.onTable reg (.error .unknownThread) (·.bind b) = (.ok (), r₂) ∧
          r.attach reg b = (.ok (), r₂)) ∨
        ∃ why r₂, r₁.onTable reg (.error .unknownThread) (·.bind b) = (.error why, r₂) ∧
          r.attach reg b = (.error why, r₂.release b)) := by
  rw [attach]
  cases hprepare : r.prepare b with
  | mk result r₁ =>
    cases result with
    | error why => exact .inl ⟨why, r₁, rfl, rfl⟩
    | ok =>
      refine .inr ⟨r₁, rfl, ?_⟩
      dsimp only
      cases hbind : r₁.onTable reg (.error .unknownThread) (·.bind b) with
      | mk result r₂ =>
        cases result with
        | error why => exact .inr ⟨why, r₂, rfl, rfl⟩
        | ok => exact .inl ⟨r₂, rfl, rfl⟩

lemma attach_adoptions (r : Roster) (reg : RegistryId) (b : Binding) :
    (r.attach reg b).2.adoptions = r.adoptions := by
  have hprepared := r.prepare_adoptions b
  rcases r.attach_cases reg b with ⟨why, r₁, h, heq⟩ | ⟨r₁, h, ⟨r₂, hbind, heq⟩ | ⟨why, r₂, hbind, heq⟩⟩ <;>
    rw [heq]
  · rw [h] at hprepared
    exact hprepared
  · rw [h] at hprepared
    exact (congrArg (·.2.adoptions) hbind.symm).trans hprepared
  · rw [h] at hprepared
    exact (release_adoptions r₂ b).trans ((congrArg (·.2.adoptions) hbind.symm).trans hprepared)

lemma detach_adoptions (r : Roster) (reg : RegistryId) (t : ThreadId) :
    (r.detach reg t).adoptions = r.adoptions := by
  rw [detach]
  cases hunbind : r.onTable reg none (·.unbind t) with
  | mk b? r₁ =>
    have hsame : r₁.adoptions = r.adoptions := congrArg (·.2.adoptions) hunbind.symm
    cases b? with
    | none => exact hsame
    | some b => exact (release_adoptions r₁ b).trans hsame

lemma detachIf_adoptions (r : Roster) (reg : RegistryId) (t : ThreadId) (f : FilamentId) :
    (r.detachIf reg t f).adoptions = r.adoptions := by
  rw [detachIf]
  cases hunbind : r.onTable reg none (·.unbindIf t f) with
  | mk b? r₁ =>
    have hsame : r₁.adoptions = r.adoptions := congrArg (·.2.adoptions) hunbind.symm
    cases b? with
    | none => exact hsame
    | some b => exact (release_adoptions r₁ b).trans hsame

/-- A thread that asks for its place changes nothing, or is attached to the default filament; if it is
adopted then, a note is made of it, and some older notes may be dropped. -/
lemma current_cases (r : Roster) (reg : RegistryId) (t : ThreadId) (derive : Bool) :
    (r.current reg t derive).2 = r ∨
      ∃ g, r.default? reg = some g ∧
        ((r.current reg t derive).2 = (r.attach reg ⟨t, g, false⟩).2 ∨
          ∃ kept, kept ⊆ r.adoptions ∧ (r.current reg t derive).2 =
            { (r.attach reg ⟨t, g, false⟩).2 with adoptions := kept ++ [⟨t, reg, g⟩] }) := by
  rw [current]
  cases r.member? reg t with
  | some m => exact .inl rfl
  | none =>
    cases derive with
    | false => exact .inl rfl
    | true =>
      dsimp only
      rw [if_pos rfl, adopt]
      cases r.default? reg with
      | none => exact .inl rfl
      | some g =>
        have hadoptions := r.attach_adoptions reg ⟨t, g, false⟩
        refine .inr ⟨g, rfl, ?_⟩
        dsimp only
        rcases hattach : r.attach reg ⟨t, g, false⟩ with ⟨why | u, r₁⟩ <;> rw [hattach] at hadoptions
        · exact .inl rfl
        · refine .inr ⟨_, fun a ha => ?_, rfl⟩
          exact hadoptions ▸ (List.mem_filter.mp ha).1

/-- A thread with a seat is known by it. -/
lemma current_of_seated (h : r.Seated reg f t) (derive : Bool) :
    ∃ m, r.current reg t derive = (.ok m, r) ∧ m.filament = f := by
  have hlookup : (r.table reg).lookup? t = some ⟨t, f, true⟩ := by
    rw [ThreadTable.lookup?, ← List.head?_filter, ← ThreadTable.bindingsOf, h]
    rfl
  refine ⟨r.memberOf ⟨t, f, true⟩, ?_, rfl⟩
  rw [current, member?, hlookup]
  rfl

/-- Whoever is taken back from another filament, this one counts its threads as before, and they keep
their seats. -/
lemma detachIf_spec (r : Roster) (reg reg' : RegistryId) (u : ThreadId) {f' : FilamentId}
    (hf : f' ≠ f) :
    (r.detachIf reg' u f').filaments.get? f = r.filaments.get? f ∧
      ∀ t, r.Seated reg f t → (r.detachIf reg' u f').Seated reg f t := by
  cases hg : r.registries.get? reg' with
  | none =>
    rw [detachIf, onTable_of_none hg]
    exact ⟨rfl, fun _ ht => ht⟩
  | some g =>
    rw [detachIf, onTable_eq hg]
    have hg' := Pool.get?_modify_self (fun _ => { g with table := (g.table.unbindIf u f').2 }) hg
    cases hunbind : g.table.unbindIf u f' with
    | mk b? bindings =>
      cases b? with
      | none =>
        obtain rfl := ThreadTable.unbindIf_none hunbind
        have hsame : r.registries.modify reg' (fun _ => { g with table := g.table })
            = r.registries := Pool.modify_eq_self_of_some hg rfl
        dsimp only
        rw [hsame]
        exact ⟨rfl, fun _ ht => ht⟩
      | some b =>
        obtain ⟨rfl, hperm⟩ := ThreadTable.unbindIf_some hunbind
        obtain ⟨hregistries, hfilament⟩ := release_of_ne (r := { r with
          registries := r.registries.modify reg' fun _ => { g with table := bindings } }) hf
        refine ⟨hfilament, fun t ht => .of_registries hregistries ?_⟩
        rw [hunbind] at hg'
        by_cases hreg : reg' = reg
        · subst hreg
          rw [Seated, table_eq hg] at ht
          rw [Seated, table_eq hg']
          exact ThreadTable.bindingsOf_of_perm hperm ht
            fun heq => hf (congrArg Binding.filament heq)
        · rw [Seated, table, Pool.get?_modify_of_ne hreg]
          exact ht

/-- No thread was given a binding to the filament on its first report. -/
def AdoptsNobody (r : Roster) (f : FilamentId) : Prop := ∀ a ∈ r.adoptions, a.filament ≠ f

/-- When a thread ends that the filament did not adopt, the filament counts its threads as before, they
keep their seats, and still nobody was adopted. -/
lemma threadEnded_spec (reg : RegistryId) (h : r.AdoptsNobody f) (u : ThreadId) :
    (r.threadEnded u).filaments.get? f = r.filaments.get? f ∧
      (∀ t, r.Seated reg f t → (r.threadEnded u).Seated reg f t) ∧
      (r.threadEnded u).AdoptsNobody f := by
  have hfold (l : List Adoption) (hl : ∀ a ∈ l, a.filament ≠ f) (r : Roster) :
      let r' := l.foldl (fun r a => r.detachIf a.registry a.thread a.filament) r
      r'.filaments.get? f = r.filaments.get? f ∧
        (∀ t, r.Seated reg f t → r'.Seated reg f t) ∧ r'.adoptions = r.adoptions := by
    induction l generalizing r with
    | nil => exact ⟨rfl, fun _ ht => ht, rfl⟩
    | cons a l ih =>
      obtain ⟨hfirst, hseats⟩ :=
        r.detachIf_spec reg a.registry a.thread (hl a List.mem_cons_self)
      obtain ⟨hrest, hseats', hadoptions⟩ := ih (fun a ha => hl a (List.mem_cons_of_mem _ ha))
        (r.detachIf a.registry a.thread a.filament)
      exact ⟨hrest.trans hfirst, fun t ht => hseats' t (hseats t ht),
        hadoptions.trans (detachIf_adoptions ..)⟩
  obtain ⟨hfilament, hseats, hadoptions⟩ := hfold (r.adoptions.filter (·.thread = u))
    (fun a ha => h a (List.mem_filter.mp ha).1) r
  refine ⟨hfilament, fun t ht => .of_registries rfl (hseats t ht), fun a ha => h a ?_⟩
  exact hadoptions ▸ (List.mem_filter.mp ha).1

lemma AdoptsNobody.threadEnded (h : r.AdoptsNobody f) (u : ThreadId) :
    (r.threadEnded u).AdoptsNobody f := (threadEnded_spec 0 h u).2.2

/-! ### What stays of filaments -/

/-- All about a filament but how many children it counts. -/
def uncounted (x : Filament) : Filament := { x with running := 0 }

/-- Nothing changed about filaments but how many children they count. -/
def Recounts (r r' : Roster) : Prop :=
  ∀ f, (r'.filaments.get? f).map uncounted = (r.filaments.get? f).map uncounted

namespace Recounts

variable {r'' : Roster}

lemma of_filaments (h : r'.filaments = r.filaments) : Recounts r r' := fun f => by rw [h]

lemma refl (r : Roster) : Recounts r r := of_filaments rfl

lemma symm (h : Recounts r r') : Recounts r' r := fun f => (h f).symm

lemma trans (h : Recounts r r') (h' : Recounts r' r'') : Recounts r r'' :=
  fun f => (h' f).trans (h f)

/-- A filament is still there, and is what it was. -/
lemma exists_get? (h : Recounts r r') (hx : r.filaments.get? f = some x) :
    ∃ n, r'.filaments.get? f = some { x with running := n } := by
  have hsame := h f
  rw [hx] at hsame
  obtain ⟨x', hx', heq⟩ := Option.map_eq_some_iff.mp hsame
  refine ⟨x'.running, hx'.trans (congrArg some ?_)⟩
  exact congrArg (fun y => { y with running := x'.running }) heq

lemma modify {g : Filament → Filament} (hg : ∀ x, uncounted (g x) = uncounted x) (r : Roster)
    (j : FilamentId) : Recounts r { r with filaments := r.filaments.modify j g } := by
  intro f
  by_cases hj : j = f
  · subst hj
    rw [Pool.get?_modify_same, Option.map_map]
    exact congrArg (Option.map · _) (funext hg)
  · rw [Pool.get?_modify_of_ne hj]

lemma prepare (r : Roster) (b : Binding) : Recounts r (r.prepare b).2 := by
  have hadd (x : Filament) : uncounted x.addChild.2 = uncounted x := by
    rw [Filament.addChild]
    split <;> rfl
  rw [Roster.prepare]
  split
  · exact .refl r
  · dsimp only
    rw [Pool.update_snd]
    exact modify hadd r b.filament

lemma release (r : Roster) (b : Binding) : Recounts r (r.release b) := by
  rw [Roster.release]
  split
  · exact .refl r
  · exact modify (g := Filament.removeChild) (fun _ => rfl) r b.filament

lemma attach (r : Roster) (reg : RegistryId) (b : Binding) : Recounts r (r.attach reg b).2 := by
  have hprepare := prepare r b
  rcases r.attach_cases reg b with
    ⟨why, r₁, h, heq⟩ | ⟨r₁, h, ⟨r₂, hbind, heq⟩ | ⟨why, r₂, hbind, heq⟩⟩ <;> rw [h] at hprepare <;>
    rw [heq]
  · exact hprepare
  · exact hprepare.trans (.of_filaments (congrArg (·.2.filaments) hbind.symm))
  · exact hprepare.trans (.trans (.of_filaments (congrArg (·.2.filaments) hbind.symm)) (release r₂ b))

lemma detach (r : Roster) (reg : RegistryId) (t : ThreadId) : Recounts r (r.detach reg t) := by
  rw [Roster.detach]
  rcases hunbind : r.onTable reg none (·.unbind t) with ⟨- | b, r₁⟩
  · exact .of_filaments (congrArg (·.2.filaments) hunbind.symm)
  · exact .trans (.of_filaments (congrArg (·.2.filaments) hunbind.symm)) (release r₁ b)

lemma detachIf (r : Roster) (reg : RegistryId) (t : ThreadId) (f : FilamentId) :
    Recounts r (r.detachIf reg t f) := by
  rw [Roster.detachIf]
  rcases hunbind : r.onTable reg none (·.unbindIf t f) with ⟨- | b, r₁⟩
  · exact .of_filaments (congrArg (·.2.filaments) hunbind.symm)
  · exact .trans (.of_filaments (congrArg (·.2.filaments) hunbind.symm)) (release r₁ b)

lemma threadEnded (r : Roster) (t : ThreadId) : Recounts r (r.threadEnded t) := by
  have hfold (l : List Adoption) (r : Roster) :
      Recounts r (l.foldl (fun r a => r.detachIf a.registry a.thread a.filament) r) := by
    induction l generalizing r with
    | nil => exact .refl r
    | cons a l ih => exact (detachIf r a.registry a.thread a.filament).trans (ih _)
  exact (hfold (r.adoptions.filter (·.thread = t)) r).trans (.of_filaments rfl)

/-- A thread that is adopted is counted, and that is all. -/
lemma current (r : Roster) (reg : RegistryId) (t : ThreadId) (derive : Bool) :
    Recounts r (r.current reg t derive).2 := by
  rcases r.current_cases reg t derive with hsame | ⟨g, -, hsame | ⟨kept, -, hsame⟩⟩ <;> rw [hsame]
  · exact .refl r
  · exact .attach r reg _
  · exact (attach r reg _).trans (.of_filaments rfl)

end Recounts

end Roster

end Testbench
