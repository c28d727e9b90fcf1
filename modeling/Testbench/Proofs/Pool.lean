import Mathlib.Tactic.Lemma
import Testbench.Pool

/-!
# Looking up what was changed

A pool is known by what it answers, name by name.  Adding a thing leaves the answers about all
others alone, and so does changing one.
-/

namespace Testbench.Pool

variable {α β : Type} {p : Pool α} {i j : Nat} {a b : α}

lemma ext_get? {p q : Pool α} (h : ∀ i, p.get? i = q.get? i) : p = q := by
  obtain ⟨xs⟩ := p
  obtain ⟨ys⟩ := q
  exact congrArg Pool.mk (Array.ext_getElem? h)

lemma get?_add_self (p : Pool α) (a : α) : (p.add a).2.get? (p.add a).1 = some a :=
  Array.getElem?_push_size

lemma get?_add_of_some (h : p.get? i = some b) (a : α) : (p.add a).2.get? i = some b := by
  have hlt := (Array.getElem?_eq_some_iff.mp h).1
  rw [get?, add, Array.getElem?_push, if_neg (Nat.ne_of_lt hlt)]
  exact h

lemma get?_add_of_ne (p : Pool α) (a : α) (h : i ≠ (p.add a).1) :
    (p.add a).2.get? i = p.get? i := by
  have hne : i ≠ p.items.size := h
  rw [get?, add, Array.getElem?_push, if_neg hne, get?]

lemma get?_add (p : Pool α) (a : α) (i : Nat) :
    (p.add a).2.get? i = if i = p.items.size then some a else p.get? i := by
  split
  · next h => exact h ▸ get?_add_self p a
  · next h => exact get?_add_of_ne p a h

/-- A name that is given out was not in use. -/
lemma ne_add_of_some (h : p.get? i = some b) (a : α) : i ≠ (p.add a).1 :=
  Nat.ne_of_lt (Array.getElem?_eq_some_iff.mp h).1

/-- What is found after a change was there before it, and was changed or not. -/
lemma get?_modify_eq_some {f : α → α} (h : (p.modify i f).get? j = some b) :
    ∃ a, p.get? j = some a ∧ b = if i = j then f a else a := by
  rw [get?, modify, Array.getElem?_modify] at h
  split at h
  · rename_i hij
    obtain ⟨a, ha, rfl⟩ := Option.map_eq_some_iff.mp h
    exact ⟨a, ha, (if_pos hij).symm⟩
  · rename_i hij
    exact ⟨b, h, (if_neg hij).symm⟩

lemma get?_modify_same (p : Pool α) (i : Nat) (f : α → α) :
    (p.modify i f).get? i = (p.get? i).map f := by
  rw [get?, modify, Array.getElem?_modify, if_pos rfl, get?]

lemma get?_modify_self (f : α → α) (h : p.get? i = some a) :
    (p.modify i f).get? i = some (f a) := by
  rw [get?, modify, Array.getElem?_modify, if_pos rfl]
  exact congrArg (Option.map f) h

lemma get?_modify_of_ne (h : i ≠ j) (f : α → α) : (p.modify i f).get? j = p.get? j := by
  rw [get?, modify, Array.getElem?_modify, if_neg h, get?]

lemma modify_congr {f g : α → α} (h : ∀ a, p.get? i = some a → f a = g a) :
    p.modify i f = p.modify i g := by
  refine ext_get? fun j => ?_
  by_cases hij : i = j
  · subst hij
    cases ha : p.get? i with
    | none =>
      rw [get?, modify, get?, modify, Array.getElem?_modify, Array.getElem?_modify, if_pos rfl,
        if_pos rfl, ← get?, ha]
      rfl
    | some a => rw [get?_modify_self f ha, get?_modify_self g ha, h a ha]
  · rw [get?_modify_of_ne hij, get?_modify_of_ne hij]

lemma modify_eq_self {f : α → α} (h : ∀ a, p.get? i = some a → f a = a) : p.modify i f = p := by
  have hid : p.modify i (fun a => a) = p := by
    refine ext_get? fun j => ?_
    by_cases hij : i = j
    · rw [get?, modify, Array.getElem?_modify, if_pos hij, get?]
      exact Option.map_id_apply
    · rw [get?_modify_of_ne hij]
  rw [modify_congr h, hid]

lemma modify_congr_of_some {f g : α → α} (h : p.get? i = some a) (hfg : f a = g a) :
    p.modify i f = p.modify i g := by
  refine modify_congr fun b hb => ?_
  obtain rfl : a = b := Option.some.inj (h.symm.trans hb)
  exact hfg

/-- A change that leaves the thing of a name as it is changes nothing. -/
lemma modify_eq_self_of_some {f : α → α} (h : p.get? i = some a) (hf : f a = a) :
    p.modify i f = p := by
  refine modify_eq_self fun b hb => ?_
  obtain rfl : a = b := Option.some.inj (h.symm.trans hb)
  exact hf

lemma modify_modify (p : Pool α) (i : Nat) (f g : α → α) :
    (p.modify i f).modify i g = p.modify i fun a => g (f a) := by
  refine ext_get? fun j => ?_
  by_cases hij : i = j
  · simp only [get?, modify, Array.getElem?_modify, if_pos hij, Option.map_map, Function.comp_def]
  · rw [get?_modify_of_ne hij, get?_modify_of_ne hij, get?_modify_of_ne hij]

/-- What is changed right after it was added could have been added so. -/
lemma modify_add_self (p : Pool α) (a : α) (f : α → α) :
    (p.add a).2.modify (p.add a).1 f = (p.add (f a)).2 := by
  refine ext_get? fun j => ?_
  by_cases hj : (p.add a).1 = j
  · subst hj
    exact (get?_modify_self f (get?_add_self p a)).trans (get?_add_self p (f a)).symm
  · rw [get?_modify_of_ne hj]
    have hne : j ≠ p.items.size := fun h => hj h.symm
    simp only [get?, add, Array.getElem?_push, if_neg hne]

/-- Changing the thing of a name and answering about it, told apart. -/
lemma update_eq (fallback : β) (f : α → β × α) (h : p.get? i = some a) :
    p.update i fallback f = ((f a).1, p.modify i fun _ => (f a).2) := by
  have hlt := (Array.getElem?_eq_some_iff.mp h).1
  rw [update]
  rw [get?] at h
  rw [h]
  refine Prod.ext rfl (ext_get? fun j => ?_)
  rw [get?, get?, modify, Array.getElem?_modify, Array.getElem?_setIfInBounds]
  by_cases hij : i = j
  · subst hij
    rw [if_pos rfl, if_pos hlt, if_pos rfl, h]
    rfl
  · rw [if_neg hij, if_neg hij]

/-- Where there is nothing to change, the answer is the other one. -/
lemma update_of_none (fallback : β) (f : α → β × α) (h : p.get? i = none) :
    p.update i fallback f = (fallback, p) := by
  rw [update, ← get?, h]

lemma update_fst (p : Pool α) (i : Nat) (fallback : β) (f : α → β × α) :
    (p.update i fallback f).1 = (p.get? i).elim fallback fun a => (f a).1 := by
  cases h : p.get? i with
  | none => rw [update_of_none fallback f h, Option.elim_none]
  | some a => rw [update_eq fallback f h, Option.elim_some]

/-- Apart from the answer, it is a change like others. -/
lemma update_snd (p : Pool α) (i : Nat) (fallback : β) (f : α → β × α) :
    (p.update i fallback f).2 = p.modify i fun a => (f a).2 := by
  cases h : p.get? i with
  | none =>
    rw [update_of_none fallback f h]
    exact (modify_eq_self fun a ha => nomatch h.symm.trans ha).symm
  | some a =>
    rw [update_eq fallback f h]
    exact modify_congr_of_some h rfl

lemma get?_update (p : Pool α) (i : Nat) (fallback : β) (f : α → β × α) (j : Nat) :
    (p.update i fallback f).2.get? j
      = if i = j then (p.get? j).map fun a => (f a).2 else p.get? j := by
  cases h : p.get? i with
  | none =>
    rw [update_of_none fallback f h]
    split
    · next hij => rw [← hij, h, Option.map_none]
    · rfl
  | some a =>
    rw [update_eq fallback f h]
    split
    · next hij => rw [← hij, get?_modify_self _ h, h, Option.map_some]
    · next hij => rw [get?_modify_of_ne hij]

end Testbench.Pool
