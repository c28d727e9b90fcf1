import Mathlib.Tactic.Lemma

/-!
# One place changes

The threads that a step is about stand in a list, each in a place of its own.  A step changes what is
in one place, and leaves all other places as they are.
-/

namespace Testbench.Places

variable {α : Type} {l : List α} {i j : Nat} {a b c : α}

/-- What stands in a place after a change was put there or stood there before. -/
lemma getElem?_set_eq_some (h : (l.set i b)[j]? = some c) :
    (i = j ∧ c = b) ∨ (i ≠ j ∧ l[j]? = some c) := by
  rw [List.getElem?_set] at h
  split at h
  · rename_i hij
    split at h
    · exact .inl ⟨hij, (Option.some.inj h).symm⟩
    · cases h
  · rename_i hij
    exact .inr ⟨hij, h⟩

lemma getElem?_set_self (h : l[i]? = some a) (b : α) : (l.set i b)[i]? = some b := by
  rw [List.getElem?_set, if_pos rfl, if_pos (List.getElem?_eq_some_iff.mp h).1]

lemma getElem?_set_of_ne (h : i ≠ j) (b : α) : (l.set i b)[j]? = l[j]? := by
  rw [List.getElem?_set, if_neg h]

/-- Counting takes the place that changes apart from the others. -/
lemma countP_set_eq (h : l[i]? = some a) (p : α → Bool) (b : α) :
    ∃ n, l.countP p = n + (if p a then 1 else 0) ∧
      (l.set i b).countP p = n + if p b then 1 else 0 := by
  obtain ⟨hlt, hget⟩ := List.getElem?_eq_some_iff.mp h
  refine ⟨l.countP p - if p a then 1 else 0, ?_, ?_⟩
  · split
    · rename_i ha
      have hpos : 0 < l.countP p := List.countP_pos_iff.mpr ⟨a, List.mem_of_getElem? h, ha⟩
      omega
    · rfl
  · rw [List.countP_set hlt, hget]

/-- Whoever stood there before stands there still, or stood in the place that changed. -/
lemma mem_set_of_mem (h : l[i]? = some a) (hc : c ∈ l) (b : α) : c = a ∨ c ∈ l.set i b := by
  obtain ⟨j, hj⟩ := List.getElem?_of_mem hc
  by_cases hij : i = j
  · subst hij
    exact .inl (Option.some.inj (hj.symm.trans h))
  · exact .inr (List.mem_of_getElem? ((getElem?_set_of_ne hij b).trans hj))

lemma mem_set_self (h : l[i]? = some a) (b : α) : b ∈ l.set i b :=
  List.mem_of_getElem? (getElem?_set_self h b)

/-- A change that a function does not see. -/
lemma map_set_eq {β : Type} (h : l[i]? = some a) {f : α → β} (hf : f b = f a) :
    (l.set i b).map f = l.map f := by
  refine List.ext_getElem? fun j => ?_
  rw [List.getElem?_map, List.getElem?_map]
  by_cases hij : i = j
  · subst hij
    rw [getElem?_set_self h, h, Option.map_some, Option.map_some, hf]
  · rw [getElem?_set_of_ne hij]

/-- What stands in a place after something was put at the end. -/
lemma getElem?_append_singleton (h : (l ++ [b])[i]? = some c) : l[i]? = some c ∨ c = b := by
  by_cases hi : i < l.length
  · exact .inl ((List.getElem?_append_left hi).symm.trans h)
  · rw [List.getElem?_append_right (Nat.le_of_not_lt hi)] at h
    exact .inr (List.mem_singleton.mp (List.mem_of_getElem? h))

end Testbench.Places
