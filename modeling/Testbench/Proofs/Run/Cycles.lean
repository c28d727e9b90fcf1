import Mathlib.Data.Fintype.EquivFin
import Testbench.Proofs.Pool
import Testbench.Proofs.Run.Unfold

/-!
# Sequences that hold themselves

A sequence is not added to itself, and so no sequence stands among its own actions.  But it may be
added to one that it holds, and then it stands somewhere under itself.  Running such a plan never
comes to an end, whatever room it is given, unless a leaf stops it.

This is the only thing that can go wrong: if no sequence under an action stands under itself, then
running the action comes to an end whenever its leaves do.  The reason is that a plan is finite, so
that going down from action to action must come to a leaf or come back.  Both directions follow from
what the two have in common, that going down from the action comes to an end on every way.
-/

namespace Testbench.Plan

variable {α σ ε : Type}

/-! ### What is under an action -/

/-- A sequence has an action among its own. -/
def Contains (p : Plan α) (i j : ActionId) : Prop := j ∈ p.items i

/-- A sequence stands under itself. -/
def ContainsItself (p : Plan α) (i : ActionId) : Prop := Relation.TransGen p.Contains i i

/-- Going down from an action comes to an end on every way. -/
def Grounded (p : Plan α) (i : ActionId) : Prop := Acc (Function.swap p.Contains) i

variable {p : Plan α} {i j : ActionId}

lemma contains_iff_of_found {inner : List ActionId}
    (h : p.actions.get? i = some (.sequence inner)) : p.Contains i j ↔ j ∈ inner := by
  rw [Contains, items, h]

lemma lt_of_contains (h : p.Contains i j) : i < p.actions.items.size := by
  rw [Contains, items] at h
  split at h
  · rename_i found
    exact (Array.getElem?_eq_some_iff.mp found).1
  · cases h

lemma Grounded.of_reach (h : p.Grounded i) (hreach : Relation.ReflTransGen p.Contains i j) :
    p.Grounded j := by
  induction hreach with
  | refl => exact h
  | tail _ hstep ih => exact ih.inv hstep

lemma Grounded.not_containsItself (h : p.Grounded i) : ¬ p.ContainsItself i := by
  intro hcycle
  have hacc : Acc (Relation.TransGen (Function.swap p.Contains)) i := Acc.transGen h
  have hback : Relation.TransGen (Function.swap p.Contains) i i :=
    Relation.transGen_swap.mpr hcycle
  clear hcycle h
  -- a way back to the action would go down without end
  induction hacc with
  | intro i _ ih => exact ih i hback hback

/-- A plan has only finitely many actions, so that there is no way down without end that does not
come back to where it was. -/
lemma grounded_iff : p.Grounded i ↔
    ∀ j, Relation.ReflTransGen p.Contains i j → ¬ p.ContainsItself j := by
  constructor
  · exact fun h j hreach => (h.of_reach hreach).not_containsItself
  · intro hacyclic
    -- the actions under `i` that hold others, ordered by what is under what
    let Under := { j : Fin p.actions.items.size // Relation.ReflTransGen p.Contains i j }
    let below : Under → Under → Prop := fun k j => Relation.TransGen p.Contains j.1 k.1
    have : IsTrans Under below := ⟨fun _ _ _ hab hbc => hbc.trans hab⟩
    have : Std.Irrefl below := ⟨fun j hj => hacyclic j.1 j.2 hj⟩
    have hwell : WellFounded below := Finite.wellFounded_of_trans_of_irrefl below
    have hunder (j : Under) : p.Grounded j.1 := by
      induction hwell.apply j with
      | intro j _ ih =>
        refine .intro _ fun k (hk : p.Contains j.1 k) => ?_
        by_cases hlt : k < p.actions.items.size
        · exact ih ⟨⟨k, hlt⟩, j.2.tail hk⟩ (.single hk)
        · exact .intro _ fun l hl => absurd (lt_of_contains hl) hlt
    by_cases hlt : i < p.actions.items.size
    · exact hunder ⟨⟨i, hlt⟩, .refl⟩
    · exact .intro _ fun l hl => absurd (lt_of_contains hl) hlt

/-! ### Coming to an end -/

/-- With enough room, running an action comes to an end, and more room makes no difference. -/
def Ends (p : Plan α) (leaf : α → Flow σ (Except ε Unit)) (i : ActionId) (s : σ) : Prop :=
  ∃ r : Except Stop (Except ε Unit) × σ, r.1 ≠ .error .exhausted ∧
    ∃ room, ∀ depth, room ≤ depth → run (lookup fun _ => p) leaf depth i s = r

/-- Running an action comes to an end whenever its leaves do. -/
def ComesToEnd (p : Plan α) (i : ActionId) : Prop :=
  ∀ (σ ε : Type) (leaf : α → Flow σ (Except ε Unit)),
    (∀ a s, (leaf a s).1 ≠ .error .exhausted) → ∀ s, p.Ends leaf i s

variable {leaf : α → Flow σ (Except ε Unit)} {s : σ}

variable (leaf s) in
lemma run_of_none (found : p.actions.get? i = none) (depth : Nat) :
    run (lookup fun _ => p) leaf (depth + 1) i s = (.ok (.ok ()), s) := by
  have hfind : lookup (fun _ => p) i s = (.ok none, s) := by
    rw [lookup, Flow.see_apply, found]
  rw [run, Flow.bind_ok hfind]
  rfl

/-- Actions in order come to an end if each of them does. -/
lemma ends_inOrder {items : List ActionId} (h : ∀ j ∈ items, ∀ s, p.Ends leaf j s) (s : σ) :
    ∃ r : Except Stop (Except ε Unit) × σ, r.1 ≠ .error .exhausted ∧
      ∃ room, ∀ depth, room ≤ depth →
        inOrder (run (lookup fun _ => p) leaf depth) items s = r := by
  induction items generalizing s with
  | nil => exact ⟨(.ok (.ok ()), s), nofun, 0, fun _ _ => rfl⟩
  | cons j items ih =>
    obtain ⟨hj, hitems⟩ := List.forall_mem_cons.mp h
    obtain ⟨r, hr, room, hroom⟩ := hj s
    rcases goesOn_or_stops r with ⟨s', rfl⟩ | hstop
    · obtain ⟨r', hr', room', hroom'⟩ := ih hitems s'
      refine ⟨r', hr', max room room', fun depth hdepth => ?_⟩
      obtain ⟨hle, hle'⟩ := Nat.max_le.mp hdepth
      rw [inOrder_cons_ok (hroom depth hle), hroom' depth hle']
    · refine ⟨r, hr, room, fun depth hdepth => ?_⟩
      rw [inOrder_cons_stop (fun s' => hroom depth hdepth ▸ hstop s'), hroom depth hdepth]

lemma Grounded.ends (h : p.Grounded i) (hleaf : ∀ a s, (leaf a s).1 ≠ .error .exhausted) (s : σ) :
    p.Ends leaf i s := by
  induction h generalizing s with
  | intro i _ ih =>
    cases found : p.actions.get? i with
    | none =>
      refine ⟨(.ok (.ok ()), s), nofun, 1, fun depth hdepth => ?_⟩
      obtain ⟨d, rfl⟩ := Nat.exists_eq_add_of_le' hdepth
      exact run_of_none leaf s found d
    | some a =>
      cases a with
      | leaf a =>
        refine ⟨leaf a s, hleaf a s, 1, fun depth hdepth => ?_⟩
        obtain ⟨d, rfl⟩ := Nat.exists_eq_add_of_le' hdepth
        exact run_of_leaf leaf found d
      | sequence inner =>
        have hinner : ∀ j ∈ inner, ∀ s, p.Ends leaf j s := fun j hj s =>
          ih j ((contains_iff_of_found found).mpr hj) s
        obtain ⟨r, hr, room, hroom⟩ := ends_inOrder hinner s
        refine ⟨r, hr, room + 1, fun depth hdepth => ?_⟩
        obtain ⟨d, rfl⟩ := Nat.exists_eq_add_of_le' (Nat.le_of_add_left_le hdepth)
        rw [run_of_sequence leaf found d]
        exact hroom d (Nat.le_of_succ_le_succ hdepth)

/-- The leaves of a plan in which nothing is to be done. -/
def idle : α → Flow Unit (Except Empty Unit) := fun _ => return .ok ()

/-- If there is nothing to be done, then either the room runs out or the action has been gone
through on every way down. -/
lemma run_idle (p : Plan α) (depth : Nat) (i : ActionId) :
    (run (lookup fun _ => p) idle depth i ()).1 = .error .exhausted ∨
      run (lookup fun _ => p) idle depth i () = (.ok (.ok ()), ()) ∧ p.Grounded i := by
  induction depth generalizing i with
  | zero => exact .inl rfl
  | succ depth ih =>
    have hground (hnone : p.items i = []) : p.Grounded i := by
      refine .intro _ fun j (hj : p.Contains i j) => ?_
      rw [Contains, hnone] at hj
      cases hj
    cases found : p.actions.get? i with
    | none => exact .inr ⟨run_of_none idle () found depth, hground (by rw [items, found])⟩
    | some a =>
      cases a with
      | leaf a => exact .inr ⟨run_of_leaf idle found depth, hground (by rw [items, found])⟩
      | sequence inner =>
        have hinner (items : List ActionId) :
            (inOrder (run (lookup fun _ => p) idle depth) items ()).1 = .error .exhausted ∨
              inOrder (run (lookup fun _ => p) idle depth) items () = (.ok (.ok ()), ()) ∧
                ∀ j ∈ items, p.Grounded j := by
          induction items with
          | nil => exact .inr ⟨rfl, nofun⟩
          | cons j items ihitems =>
            rcases ih j with hj | ⟨hj, hground⟩
            · refine .inl ?_
              rw [inOrder_cons_stop fun s' hs' => by rw [hs'] at hj; cases hj]
              exact hj
            · rw [inOrder_cons_ok hj]
              exact ihitems.imp_right fun ⟨hrun, hrest⟩ =>
                ⟨hrun, List.forall_mem_cons.mpr ⟨hground, hrest⟩⟩
        rw [run_of_sequence idle found depth]
        refine (hinner inner).imp_right fun ⟨hrun, hall⟩ => ⟨hrun, .intro _ fun j hj => ?_⟩
        exact hall j ((contains_iff_of_found found).mp hj)

/-- Running an action comes to an end whenever its leaves do exactly if going down from it does. -/
lemma comesToEnd_iff_grounded : p.ComesToEnd i ↔ p.Grounded i := by
  constructor
  · intro h
    obtain ⟨r, hr, room, hroom⟩ := h Unit Empty idle (fun _ _ => nofun) ()
    rcases run_idle p room i with hrun | ⟨-, hground⟩
    · rw [hroom room (Nat.le_refl _)] at hrun
      exact absurd hrun hr
    · exact hground
  · exact fun h σ ε leaf hleaf s => h.ends hleaf s

/-! ### Making plans -/

/-- A change of a plan. -/
inductive Edit (α : Type)
  /-- A leaf is made. -/
  | leaf (a : α)
  /-- An empty sequence is made. -/
  | sequence
  /-- An action is to be added to a sequence. -/
  | add (s what : ActionId)

/-- Changes a plan; what is refused changes nothing. -/
def edit (p : Plan α) : Edit α → Plan α
  | .leaf a => (p.make (.leaf a)).2
  | .sequence => (p.make (.sequence [])).2
  | .add s what => (p.add s what).2

/-- The plan that comes of some changes. -/
def edited (edits : List (Edit α)) : Plan α := edits.foldl edit {}

lemma items_make {a : Action α} (ha : ∀ inner, a = .sequence inner → inner = []) (i : ActionId) :
    (p.make a).2.items i = p.items i ∨ (p.make a).2.items i = [] := by
  by_cases hi : i = (p.actions.add a).1
  · subst hi
    have hfound : (p.make a).2.actions.get? (p.actions.add a).1 = some a :=
      Pool.get?_add_self p.actions a
    refine .inr ?_
    rw [items, hfound]
    cases a with
    | leaf a => rfl
    | sequence inner => exact ha inner rfl
  · refine .inl ?_
    have hfound : (p.make a).2.actions.get? i = p.actions.get? i :=
      Pool.get?_add_of_ne p.actions a hi
    rw [items, items, hfound]

lemma mem_items_add {s what : ActionId} (hj : j ∈ (p.add s what).2.items i) :
    j ∈ p.items i ∨ i = s ∧ j = what ∧ s ≠ what := by
  rw [add] at hj
  by_cases hself : s = what
  · rw [if_pos hself] at hj
    exact .inl hj
  · rw [if_neg hself] at hj
    by_cases hi : s = i
    · subst hi
      rw [items, Pool.get?_modify_same] at hj
      rw [items]
      generalize p.actions.get? s = found at hj ⊢
      rcases found with - | (a | inner)
      · cases hj
      · cases hj
      · exact (List.mem_append.mp hj).imp_right fun hj =>
          ⟨rfl, List.mem_singleton.mp hj, hself⟩
    · rw [items, Pool.get?_modify_of_ne hi, ← items] at hj
      exact .inl hj

/-- No sequence comes to stand among its own actions. -/
lemma not_contains_edited (edits : List (Edit α)) (i : ActionId) :
    ¬ (edited edits).Contains i i := by
  have hedit {p : Plan α} (hp : ∀ i, ¬ p.Contains i i) (e : Edit α) (i : ActionId) :
      ¬ (p.edit e).Contains i i := by
    rw [Contains]
    cases e with
    | leaf a =>
      rcases items_make (p := p) (a := .leaf a) nofun i with h | h <;> rw [edit, h]
      · exact hp i
      · exact List.not_mem_nil
    | sequence =>
      rcases items_make (p := p) (a := .sequence []) (fun _ h => by cases h; rfl) i with h | h <;>
        rw [edit, h]
      · exact hp i
      · exact List.not_mem_nil
    | add s what =>
      intro hmem
      rcases mem_items_add hmem with hmem | ⟨rfl, rfl, hne⟩
      · exact hp i hmem
      · exact hne rfl
  have hfold (p : Plan α) (hp : ∀ i, ¬ p.Contains i i) :
      ∀ i, ¬ (edits.foldl edit p).Contains i i := by
    induction edits generalizing p with
    | nil => exact hp
    | cons e edits ih => exact ih (p.edit e) (hedit hp e)
  refine hfold {} (fun i hmem => ?_) i
  exact absurd (lt_of_contains hmem) (Nat.not_lt_zero i)

/-- However a plan was made, no sequence stands among its own actions, since adding it to itself is
all that is refused.  Running an action comes to an end whenever its leaves do exactly if nothing
under it, and not itself either, stands under itself. -/
theorem comesToEnd_iff_acyclic (edits : List (Edit α)) :
    (∀ i, ¬ (edited edits).Contains i i) ∧
    (∀ s what, ((edited edits).add s what).1 = .error .selfReference ↔ s = what) ∧
    ∀ i, (edited edits).ComesToEnd i ↔ ∀ j,
      Relation.ReflTransGen (edited edits).Contains i j → ¬ (edited edits).ContainsItself j := by
  refine ⟨not_contains_edited edits, fun s what => ?_, fun i => ?_⟩
  · rw [add]
    split <;> simp_all
  · rw [comesToEnd_iff_grounded, grounded_iff]

/-- Two sequences that were added to each other. -/
def eachOther : Plan Unit := edited [.sequence, .sequence, .add 0 1, .add 1 0]

/-- Two sequences are added to each other, which is not refused.  Then each of them stands under
itself, and running one of them runs out of whatever room there is, although there is no leaf. -/
theorem sequences_hold_each_other :
    ((edited [.sequence, .sequence] : Plan Unit).add 0 1).1 = .ok () ∧
    ((edited [.sequence, .sequence, .add 0 1] : Plan Unit).add 1 0).1 = .ok () ∧
    eachOther.ContainsItself 0 ∧
    ∀ depth, (run (lookup fun _ => eachOther) idle depth 0 ()).1 = .error .exhausted := by
  have hcycle : eachOther.ContainsItself 0 := by
    have hdown : eachOther.Contains 0 1 := List.mem_cons_self
    have hback : eachOther.Contains 1 0 := List.mem_cons_self
    exact .tail (.single hdown) hback
  refine ⟨rfl, rfl, hcycle, fun depth => ?_⟩
  rcases run_idle eachOther depth 0 with hrun | ⟨-, hground⟩
  · exact hrun
  · exact absurd hcycle hground.not_containsItself

end Testbench.Plan
