import Testbench.Proofs.Flow
import Testbench.Proofs.Run.Watched

/-!
# Plans as trees

A plan names its actions, and a sequence lists names.  What is run is a tree: every sequence as it
stands when its turn comes, with what stands under it at that time.  The tree is not there
beforehand, since the leaves that run may add actions to sequences whose turn is still to come.
Running the plan is running the leaves of the tree from left to right, up to the first that stops
the run; how the sequences nest makes no difference.
-/

namespace Testbench

variable {σ α ε : Type}

/-! ### Trees -/

/-- Trees side by side, with things to do at the leaves. -/
inductive Forest (α : Type)
  /-- No trees. -/
  | nil
  /-- A leaf beside other trees. -/
  | leaf (a : α) (rest : Forest α)
  /-- A sequence with what stands under it, beside other trees. -/
  | sequence (items rest : Forest α)

namespace Forest

/-- The leaves from left to right. -/
def leaves : Forest α → List α
  | nil => []
  | leaf a rest => a :: rest.leaves
  | sequence items rest => items.leaves ++ rest.leaves

/-- How deep the trees nest; a leaf counts, too. -/
def height : Forest α → Nat
  | nil => 0
  | leaf _ rest => max 1 rest.height
  | sequence items rest => max (items.height + 1) rest.height

end Forest

namespace Plan

variable {plan : σ → Plan α} {leaf : α → Flow σ (Except ε Unit)} {s s' : σ}

/-- From a state, actions are taken as a forest: each action as it stands when its turn comes. Once
something stopped the run, what else there is does not matter. -/
inductive Takes (plan : σ → Plan α) (leaf : α → Flow σ (Except ε Unit)) :
    List ActionId → σ → Forest α → Prop
  /-- There are no actions. -/
  | nil {s : σ} : Takes plan leaf [] s .nil
  /-- The first action is a leaf. -/
  | leaf {i : ActionId} {items : List ActionId} {s : σ} {a : α} {rest : Forest α}
      (found : (plan s).actions.get? i = some (.leaf a))
      (others : ∀ s', leaf a s = (.ok (.ok ()), s') → Takes plan leaf items s' rest) :
      Takes plan leaf (i :: items) s (.leaf a rest)
  /-- The first action is a sequence. -/
  | sequence {i : ActionId} {items inner : List ActionId} {s : σ} {under rest : Forest α}
      (found : (plan s).actions.get? i = some (.sequence inner))
      (first : Takes plan leaf inner s under)
      (others : ∀ s', inOrder leaf under.leaves s = (.ok (.ok ()), s') →
        Takes plan leaf items s' rest) :
      Takes plan leaf (i :: items) s (.sequence under rest)

/-! ### Things in order -/

section

variable {β : Type} {f : β → Flow σ (Except ε Unit)} {i : β} {items : List β}

/-- What was run lets the next thing come, or it does not. -/
lemma goesOn_or_stops (r : Except Stop (Except ε Unit) × σ) :
    (∃ s', r = (.ok (.ok ()), s')) ∨ ∀ s', r ≠ (.ok (.ok ()), s') :=
  (Classical.em _).imp_right not_exists.mp

/-- Nothing comes after what stops, with an error or without returning. -/
lemma inOrder_cons_stop (h : ∀ s', f i s ≠ (.ok (.ok ()), s')) :
    inOrder f (i :: items) s = f i s := by
  rw [inOrder]
  rcases hf : f i s with ⟨stop | e | u, s'⟩
  · rw [Flow.bind_error hf]
  · rw [Flow.bind_ok hf]
    rfl
  · exact absurd hf (h s')

lemma inOrder_singleton (i : β) : inOrder f [i] s = f i s := by
  rcases goesOn_or_stops (f i s) with ⟨s', hs'⟩ | hstop
  · rw [inOrder_cons_ok hs', hs']
    rfl
  · exact inOrder_cons_stop hstop

lemma inOrder_append_ok {others : List β} (h : inOrder f items s = (.ok (.ok ()), s')) :
    inOrder f (items ++ others) s = inOrder f others s' := by
  induction items generalizing s with
  | nil =>
    cases h
    rfl
  | cons i items ih =>
    rcases goesOn_or_stops (f i s) with ⟨s₁, hs₁⟩ | hstop
    · rw [inOrder_cons_ok hs₁] at h
      rw [List.cons_append, inOrder_cons_ok hs₁]
      exact ih h
    · rw [inOrder_cons_stop hstop] at h
      exact absurd h (hstop s')

lemma inOrder_append_stop {others : List β} (h : ∀ s', inOrder f items s ≠ (.ok (.ok ()), s')) :
    inOrder f (items ++ others) s = inOrder f items s := by
  induction items generalizing s with
  | nil => exact absurd rfl (h s)
  | cons i items ih =>
    rcases goesOn_or_stops (f i s) with ⟨s₁, hs₁⟩ | hstop
    · simp only [inOrder_cons_ok hs₁, List.cons_append] at h ⊢
      exact ih h
    · rw [List.cons_append, inOrder_cons_stop hstop, inOrder_cons_stop hstop]

end

/-! ### Running -/

variable (leaf) in
lemma run_of_leaf {i : ActionId} {a : α} (found : (plan s).actions.get? i = some (.leaf a))
    (depth : Nat) : run (lookup plan) leaf (depth + 1) i s = leaf a s := by
  have hfind : lookup plan i s = (.ok (some (.leaf a)), s) := by
    rw [lookup, Flow.see_apply, found]
  rw [run, Flow.bind_ok hfind]

variable (leaf) in
lemma run_of_sequence {i : ActionId} {inner : List ActionId}
    (found : (plan s).actions.get? i = some (.sequence inner)) (depth : Nat) :
    run (lookup plan) leaf (depth + 1) i s = inOrder (run (lookup plan) leaf depth) inner s := by
  have hfind : lookup plan i s = (.ok (some (.sequence inner)), s) := by
    rw [lookup, Flow.see_apply, found]
  rw [run, Flow.bind_ok hfind]

/-- Taken as a forest, actions run as its leaves do. -/
lemma inOrder_run_eq {items : List ActionId} {t : Forest α} (ht : Takes plan leaf items s t)
    {depth : Nat} (hdepth : t.height ≤ depth) :
    inOrder (run (lookup plan) leaf depth) items s = inOrder leaf t.leaves s := by
  induction ht generalizing depth with
  | nil => rfl
  | @leaf i items s a rest found others ih =>
    rw [Forest.height, Nat.max_le] at hdepth
    obtain ⟨d, rfl⟩ := Nat.exists_eq_add_of_le' hdepth.1
    have hrun := run_of_leaf leaf found d
    rw [Forest.leaves]
    rcases goesOn_or_stops (leaf a s) with ⟨s', hs'⟩ | hstop
    · rw [inOrder_cons_ok (hrun.trans hs'), inOrder_cons_ok hs']
      exact ih s' hs' hdepth.2
    · rw [inOrder_cons_stop (hrun ▸ hstop), inOrder_cons_stop hstop, hrun]
  | @sequence i items inner s under rest found first others ihfirst ih =>
    rw [Forest.height, Nat.max_le] at hdepth
    obtain ⟨d, rfl⟩ := Nat.exists_eq_add_of_le' (Nat.le_of_add_left_le hdepth.1)
    have hrun := run_of_sequence leaf found d
    rw [ihfirst (Nat.le_of_succ_le_succ hdepth.1)] at hrun
    rw [Forest.leaves]
    rcases goesOn_or_stops (inOrder leaf under.leaves s) with ⟨s', hs'⟩ | hstop
    · rw [inOrder_cons_ok (hrun.trans hs'), inOrder_append_ok hs']
      exact ih s' hs' hdepth.2
    · rw [inOrder_cons_stop (hrun ▸ hstop), inOrder_append_stop hstop, hrun]

/-- Where every leaf comes back that the plan holds when its turn comes, the leaves of a tree come
back one after the other. -/
lemma inOrder_returns {J : σ → Prop} {items : List ActionId} {t : Forest α}
    (ht : Takes plan leaf items s t)
    (hleaf : ∀ i a s, J s → (plan s).actions.get? i = some (.leaf a) →
      ∃ answer s', leaf a s = (.ok answer, s') ∧ (answer = .ok () → J s')) (hs : J s) :
    ∃ answer s', inOrder leaf t.leaves s = (.ok answer, s') ∧ (answer = .ok () → J s') := by
  induction ht with
  | @nil s => exact ⟨.ok (), s, rfl, fun _ => hs⟩
  | @leaf i items s a rest found others ih =>
    obtain ⟨answer, s₁, ha, hs₁⟩ := hleaf i a s hs found
    rw [Forest.leaves]
    cases answer with
    | error e =>
      refine ⟨.error e, s₁, ?_, nofun⟩
      rw [inOrder, Flow.bind_ok ha]
      rfl
    | ok u =>
      rw [inOrder_cons_ok ha]
      exact ih s₁ ha (hs₁ rfl)
  | @sequence i items inner s under rest found first others ihfirst ih =>
    obtain ⟨answer, s₁, hunder, hs₁⟩ := ihfirst hs
    rw [Forest.leaves]
    cases answer with
    | error e =>
      refine ⟨.error e, s₁, ?_, nofun⟩
      rw [inOrder_append_stop (fun s' h => by cases hunder.symm.trans h), hunder]
    | ok u =>
      rw [inOrder_append_ok hunder]
      exact ih s₁ hunder (hs₁ rfl)

/-- Running an action is running the leaves of the tree that it is taken as. -/
theorem run_eq_inOrder_leaves {i : ActionId} {t : Forest α} (ht : Takes plan leaf [i] s t)
    {depth : Nat} (hdepth : t.height ≤ depth) :
    run (lookup plan) leaf depth i s = inOrder leaf t.leaves s := by
  rw [← inOrder_run_eq ht hdepth, inOrder_singleton]

/-! ### Plans that stay -/

/-- The sequences of a plan hold actions that are there, and `rank` goes down from a sequence to
what it holds: no sequence stands under itself. -/
def Acyclic (p : Plan α) (rank : ActionId → Nat) : Prop :=
  ∀ i inner, p.actions.get? i = some (.sequence inner) →
    ∀ j ∈ inner, rank j < rank i ∧ ∃ a, p.actions.get? j = some a

lemma inOrder_keeps {β : Type} {f : β → Flow σ (Except ε Unit)} {I : σ → Prop}
    (hf : ∀ a s, I s → I (f a s).2) (items : List β) (hs : I s) : I (inOrder f items s).2 := by
  induction items generalizing s with
  | nil => exact hs
  | cons a items ih =>
    have ha := hf a s hs
    rcases goesOn_or_stops (f a s) with ⟨s', hs'⟩ | hstop
    · rw [inOrder_cons_ok hs']
      rw [hs'] at ha
      exact ih ha
    · rwa [inOrder_cons_stop hstop]

/-- A plan without cycles that no leaf changes is taken as trees no higher than it is. -/
theorem exists_takes {p : Plan α} {rank : ActionId → Nat} (hp : p.Acyclic rank)
    (hleaf : ∀ a s, plan s = p → plan (leaf a s).2 = p) (n : Nat) (items : List ActionId)
    (hitems : ∀ j ∈ items, rank j < n ∧ ∃ a, p.actions.get? j = some a) (hs : plan s = p) :
    ∃ t, Takes plan leaf items s t ∧ t.height ≤ n := by
  -- what stands under a sequence is of lower rank, and what stands beside it is shorter
  induction n generalizing items s with
  | zero =>
    cases items with
    | nil => exact ⟨.nil, .nil, Nat.zero_le _⟩
    | cons i items => exact absurd (hitems i List.mem_cons_self).1 (Nat.not_lt_zero _)
  | succ n ihn =>
    induction items generalizing s with
    | nil => exact ⟨.nil, .nil, Nat.zero_le _⟩
    | cons i items ih =>
      obtain ⟨⟨hrank, a, ha⟩, hrest⟩ := List.forall_mem_cons.mp hitems
      have hothers (r : Except Stop (Except ε Unit) × σ) (hr : plan r.2 = p) :
          ∃ rest, (∀ s', r = (.ok (.ok ()), s') → Takes plan leaf items s' rest) ∧
            rest.height ≤ n + 1 := by
        obtain ⟨rest, htakes, hheight⟩ := ih hrest hr
        refine ⟨rest, ?_, hheight⟩
        rintro s' rfl
        exact htakes
      cases a with
      | leaf a =>
        obtain ⟨rest, htakes, hheight⟩ := hothers (leaf a s) (hleaf a s hs)
        exact ⟨.leaf a rest, .leaf (hs ▸ ha) htakes, Nat.max_le.mpr ⟨Nat.le_add_left 1 n, hheight⟩⟩
      | sequence inner =>
        have hinner : ∀ j ∈ inner, rank j < n ∧ ∃ a, p.actions.get? j = some a := fun j hj =>
          ⟨Nat.lt_of_lt_of_le (hp i inner ha j hj).1 (Nat.le_of_lt_succ hrank),
            (hp i inner ha j hj).2⟩
        obtain ⟨under, hunder, hlow⟩ := ihn inner hinner hs
        obtain ⟨rest, htakes, hheight⟩ :=
          hothers (inOrder leaf under.leaves s)
            (inOrder_keeps (I := fun s => plan s = p) hleaf _ hs)
        exact ⟨.sequence under rest, .sequence (hs ▸ ha) hunder htakes,
          Nat.max_le.mpr ⟨Nat.succ_le_succ hlow, hheight⟩⟩

end Plan

end Testbench
