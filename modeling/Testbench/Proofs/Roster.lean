import Testbench.Filament.Roster
import Testbench.Proofs.Pool

/-!
# Coming and going

The main thread of a filament that is bound and unbound again leaves its registry as it was: its
binding goes to the end of the table and is taken out there, and nobody counts it as a child.
-/

namespace Testbench

namespace ThreadTable

variable {t : ThreadTable} {thread : ThreadId} {b : Binding}

lemma lookup?_append (h : t.position? thread = none) (hb : b.thread = thread) :
    lookup? ⟨t.bindings ++ [b]⟩ thread = some b := by
  have hnone : t.bindings.find? (·.thread = thread) = none := by
    rw [List.find?_eq_none]
    intro c hc
    have := List.findIdx?_eq_none_iff.mp h c hc
    simpa using this
  rw [lookup?, List.find?_append, hnone, Option.none_or, List.find?_cons_of_pos (by simpa using hb)]

/-- The binding that was added last is taken out without a trace. -/
lemma unbind_append (h : t.position? thread = none) (hb : b.thread = thread) :
    unbind ⟨t.bindings ++ [b]⟩ thread = (some b, t) := by
  have hposition : position? ⟨t.bindings ++ [b]⟩ thread = some t.bindings.length := by
    rw [position?, List.findIdx?_append]
    rw [position?] at h
    rw [h]
    simp [List.findIdx?_cons, hb]
  simp only [unbind, hposition, removeAt, List.getLast?_concat, List.getElem?_concat_length]
  simp

end ThreadTable

namespace Roster

variable {r : Roster} {reg : RegistryId} {thread : ThreadId} {f : FilamentId}

/-- A thread can be bound in a registry: it is not bound there, and there is room. -/
def Free (r : Roster) (reg : RegistryId) (thread : ThreadId) : Prop :=
  ∃ g, r.registries.get? reg = some g ∧ g.table.position? thread = none ∧
    g.table.size < ThreadTable.maxThreads

/-- The registries once a binding was added to the table of one of them. -/
def binding (r : Roster) (reg : RegistryId) (b : Binding) : Pool Registry :=
  r.registries.modify reg fun g => { g with table := ⟨g.table.bindings ++ [b]⟩ }

lemma attach_eq (hfree : r.Free reg thread) (hmain : r.mainThread? f = some thread)
    (guarded : Bool) :
    r.attach reg ⟨thread, f, guarded⟩ =
      (.ok (), { r with registries := r.binding reg ⟨thread, f, guarded⟩ }) := by
  obtain ⟨g, hg, hposition, hsize⟩ := hfree
  have hbind : g.table.bind ⟨thread, f, guarded⟩
      = (.ok (), ⟨g.table.bindings ++ [⟨thread, f, guarded⟩]⟩) := by
    rw [ThreadTable.bind, hposition, if_neg (by decide), if_neg (Nat.not_le.mpr hsize)]
  have htable : r.onTable reg (.error .unknownThread) (·.bind ⟨thread, f, guarded⟩)
      = (.ok (), { r with registries := r.binding reg ⟨thread, f, guarded⟩ }) := by
    rw [onTable, Pool.update_eq _ _ hg, hbind, binding]
    refine Prod.ext rfl (congrArg (fun p => { r with registries := p }) ?_)
    exact Pool.modify_congr_of_some hg rfl
  rw [attach, prepare, if_pos hmain]
  simp only [htable]

lemma lookup?_binding (hfree : r.Free reg thread) {r' : Roster}
    (hr' : r'.registries = r.binding reg ⟨thread, f, true⟩) :
    (r'.table reg).lookup? thread = some ⟨thread, f, true⟩ := by
  obtain ⟨g, hg, hposition, -⟩ := hfree
  rw [table, hr', binding, Pool.get?_modify_self _ hg]
  exact ThreadTable.lookup?_append hposition rfl

lemma detach_eq (hfree : r.Free reg thread) {r' : Roster}
    (hr' : r'.registries = r.binding reg ⟨thread, f, true⟩)
    (hmain : r'.mainThread? f = some thread) :
    r'.detach reg thread = { r' with registries := r.registries } := by
  obtain ⟨g, hg, hposition, -⟩ := hfree
  have hbound : r'.registries.get? reg
      = some { g with table := ⟨g.table.bindings ++ [⟨thread, f, true⟩]⟩ } := by
    rw [hr']
    exact Pool.get?_modify_self _ hg
  have htable : r'.onTable reg none (·.unbind thread)
      = (some ⟨thread, f, true⟩, { r' with registries := r.registries }) := by
    rw [onTable, Pool.update_eq _ _ hbound]
    simp only [ThreadTable.unbind_append hposition]
    refine Prod.ext rfl (congrArg (fun p => { r' with registries := p }) ?_)
    rw [hr', binding, Pool.modify_modify]
    exact Pool.modify_eq_self_of_some hg rfl
  rw [detach, htable]
  exact if_pos hmain

/-! ### Default filaments -/

/-- A default filament that is installed has no children yet. -/
lemma installDefault_eq (hfree : r.Free reg thread) (hnone : r.default? reg = none)
    (observer : ObserverId) (flags : FilamentFlags) (t : ThreadId) :
    ∃ f r', r.installDefault reg observer flags t = (.ok f, r') ∧ r'.default? reg = some f ∧
      r'.Free reg thread ∧ ∃ y, r'.filaments.get? f = some y ∧ y.running = 0 := by
  obtain ⟨g, hg, hbind⟩ := hfree
  let y : Filament := { observer, mainThread := t, flags := flags.withDefault true }
  let f := (r.filaments.add y).1
  let r' : Roster := { r with
    filaments := (r.filaments.add y).2
    registries := r.registries.modify reg fun g => { g with default? := some f } }
  have hg' : r'.registries.get? reg = some { g with default? := some f } :=
    Pool.get?_modify_self _ hg
  refine ⟨f, r', ?_, ?_, ⟨_, hg', hbind⟩, y, Pool.get?_add_self _ _, rfl⟩
  · rw [installDefault, hnone]
    rfl
  · rw [default?, hg']
    rfl

lemma releaseAll_registries (r : Roster) (bs : List Binding) :
    (r.releaseAll bs).registries = r.registries := by
  induction bs generalizing r with
  | nil => rfl
  | cons b bs ih =>
    refine (ih (r.release b)).trans ?_
    rw [release]
    split <;> rfl

/-- A registry once a default filament is gone: nobody is bound to that. -/
lemma get?_revokeDefault {g : Registry} (hg : r.registries.get? reg = some g) (f : FilamentId) :
    (r.revokeDefault reg f).registries.get? reg = some
      { kind := g.kind
        table := ⟨g.table.bindings.filter (·.filament ≠ f)⟩
        default? := if g.default? = some f then none else g.default? } := by
  have hcleared : (r.registries.modify reg fun g =>
      if g.default? = some f then { g with default? := none } else g).get? reg
      = some { g with default? := if g.default? = some f then none else g.default? } := by
    rw [Pool.get?_modify_self _ hg]
    split <;> rfl
  rw [revokeDefault]
  simp only [releaseAll_registries, onTable, Pool.update_eq _ _ hcleared]
  exact Pool.get?_modify_self _ hcleared

/-- Whoever could be bound can still be bound once a default filament is gone. -/
lemma Free.revokeDefault (h : r.Free reg thread) (f : FilamentId) :
    (r.revokeDefault reg f).Free reg thread := by
  obtain ⟨g, hg, hposition, hsize⟩ := h
  refine ⟨_, get?_revokeDefault hg f, ?_, ?_⟩
  · refine List.findIdx?_eq_none_iff.mpr fun b hb => ?_
    exact List.findIdx?_eq_none_iff.mp hposition b (List.mem_filter.mp hb).1
  · exact Nat.lt_of_le_of_lt (List.length_filter_le _ _) hsize

lemma revokeDefault_spec (hfree : r.Free reg thread) (hsome : r.default? reg = some f) :
    (r.revokeDefault reg f).default? reg = none ∧ (r.revokeDefault reg f).Free reg thread := by
  refine ⟨?_, hfree.revokeDefault f⟩
  obtain ⟨g, hg, -⟩ := hfree
  have hdefault : g.default? = some f := by
    rw [default?, hg] at hsome
    exact hsome
  rw [default?, get?_revokeDefault hg, Option.bind_some]
  exact if_pos hdefault

end Roster

end Testbench
