import Mathlib.Data.List.Induction
import Testbench.Irql.Guards

/-!
# Levels under guards

A thread takes guards and drops them, in any order, and does nothing else to its level.  Then the
level is never below the one it started from, and it is that level again when no guard is alive.
What carries this is one guard: as long as the level is not the one at the start, some guard is
alive that found the level of the start.

There is no such rule for locks.  A guard that is dropped gives back what it found, and whoever took
a lock in the meantime holds it there.  A lock is held at `synch` or above just if no guard that
found less is dropped while it is held, and this is so if no guard is dropped while a younger lock
is held.
-/

namespace Testbench.Irql

variable {k l m : Irql}

instance : LE Irql := ⟨fun a b => a.height ≤ b.height⟩

instance (a b : Irql) : Decidable (a ≤ b) := inferInstanceAs (Decidable (a.height ≤ b.height))

protected lemma le_refl (l : Irql) : l ≤ l := UInt8.le_refl _

protected lemma le_trans (hkl : k ≤ l) (hlm : l ≤ m) : k ≤ m := UInt8.le_trans hkl hlm

protected lemma le_of_lt (h : l < m) : l ≤ m := UInt8.le_of_lt h

protected lemma le_of_not_lt (h : ¬ l < m) : m ≤ l := UInt8.not_lt.mp h

lemma le_raised_left (l m : Irql) : l ≤ raised l m := by
  rw [raised]
  split
  · exact Irql.le_refl l
  · exact Irql.le_of_not_lt ‹_›

lemma le_raised_right (l m : Irql) : m ≤ raised l m := by
  rw [raised]
  split
  · exact Irql.le_of_lt ‹_›
  · exact Irql.le_refl m

lemma le_lowered_iff : k ≤ lowered l m ↔ k ≤ l ∧ k ≤ m := by
  rw [lowered]
  split
  · exact ⟨fun hkl => ⟨hkl, Irql.le_trans hkl (Irql.le_of_lt ‹_›)⟩, And.left⟩
  · exact ⟨fun hkm => ⟨Irql.le_trans hkm (Irql.le_of_not_lt ‹_›), hkm⟩, And.right⟩

lemma lowered_of_le (h : m ≤ l) : lowered l m = m := if_neg (UInt8.not_lt.mpr h)

lemma lowered_of_ge (h : l ≤ m) : lowered l m = l := by
  rw [lowered]
  split
  · rfl
  · exact congrArg Irql.mk (UInt8.le_antisymm (Irql.le_of_not_lt ‹_›) h)

namespace Guards

variable {g g' : Guards} {start : Irql} {s : Step} {p q : Guard} {i : Nat}

/-- The guard is alive. -/
def Alive (g : Guards) (p : Guard) : Prop := some p ∈ g.guards

instance (g : Guards) (p : Guard) : Decidable (g.Alive p) :=
  inferInstanceAs (Decidable (some p ∈ g.guards))

/-- The guard of some lock is alive. -/
def Holding (g : Guards) : Prop := ∃ p, g.Alive p ∧ p.lock ≠ none

/-- All but to ask for another level. -/
def Step.Scoped : Step → Prop
  | .scope _ | .acquire .. | .drop _ => True
  | .raise _ | .lower _ => False

/-- What there is after some steps. -/
def after (g : Guards) (steps : List Step) : Guards := steps.foldl (fun g s => (g.step s).2) g

lemma after_concat (g : Guards) (steps : List Step) (s : Step) :
    g.after (steps ++ [s]) = ((g.after steps).step s).2 := by
  rw [after, List.foldl_append]
  rfl

/-! ### What a step does -/

/-- A guard was taken; that of a lock asks for `synch`. -/
structure Takes (g : Guards) (level : Irql) (p : Guard) (g' : Guards) : Prop where
  level_eq : g'.level = raised g.level level
  guards_eq : g'.guards = g.guards ++ [some p]
  previous_eq : p.previous = g.level
  synch_of_lock : p.lock ≠ none → level = synch

/-- The guard in this place was dropped. -/
structure Drops (g : Guards) (i : Nat) (p : Guard) (g' : Guards) : Prop where
  there : g.guards[i]? = some (some p)
  level_eq : g'.level = lowered g.level p.previous
  guards_eq : g'.guards = g.guards.set i none

lemma unlock_level (g : Guards) (lock : Option Nat) : (g.unlock lock).level = g.level := by
  cases lock <;> rfl

lemma unlock_guards (g : Guards) (lock : Option Nat) : (g.unlock lock).guards = g.guards := by
  cases lock <;> rfl

lemma drop_cases (g : Guards) (i : Nat) : g.drop i = g ∨ ∃ p, g.Drops i p (g.drop i) := by
  rw [drop]
  split
  · rename_i p hp
    refine .inr ⟨p, hp, ?_, ?_⟩
    · dsimp only
      rw [unlock_level]
    · dsimp only
      rw [unlock_guards]
  · exact .inl rfl

/-- Scoped steps leave the level and the guards alone, take one guard or drop one. -/
lemma step_cases (hs : s.Scoped) :
    ((g.step s).2.level = g.level ∧ (g.step s).2.guards = g.guards) ∨
      (∃ level p, g.Takes level p (g.step s).2) ∨
      (∃ i p, s = .drop i ∧ g.Drops i p (g.step s).2) := by
  cases s with
  | raise | lower => exact hs.elim
  | scope level =>
    exact .inr (.inl ⟨level, ⟨g.level, none⟩, rfl, rfl, rfl, fun h => absurd rfl h⟩)
  | acquire i amount =>
    rw [step]
    split
    · exact .inl ⟨rfl, rfl⟩
    · split
      · exact .inl ⟨rfl, rfl⟩
      · exact .inr (.inl ⟨synch, ⟨g.level, some i⟩, rfl, rfl, rfl, fun _ => rfl⟩)
  | drop i =>
    rcases g.drop_cases i with hsame | ⟨p, hp⟩
    · rw [step, hsame]
      exact .inl ⟨rfl, rfl⟩
    · exact .inr (.inr ⟨i, p, rfl, hp⟩)

lemma Takes.alive_iff {level : Irql} (h : g.Takes level p g') : g'.Alive q ↔ g.Alive q ∨ q = p := by
  rw [Alive, Alive, h.guards_eq, List.mem_append, List.mem_singleton, Option.some_inj]

lemma Drops.getElem?_eq (h : g.Drops i p g') {j : Nat} :
    g'.guards[j]? = some (some q) ↔ j ≠ i ∧ g.guards[j]? = some (some q) := by
  rw [h.guards_eq]
  by_cases hij : i = j
  · subst hij
    rw [List.getElem?_set_self']
    simp [h.there]
  · rw [List.getElem?_set_ne hij]
    simp [Ne.symm hij]

lemma Drops.alive (h : g.Drops i p g') (hq : g'.Alive q) : g.Alive q := by
  obtain ⟨j, hj⟩ := List.mem_iff_getElem?.mp hq
  exact List.mem_iff_getElem?.mpr ⟨j, (h.getElem?_eq.mp hj).2⟩

lemma Drops.alive_of_ne (h : g.Drops i p g') (hq : g.Alive q) (hne : q ≠ p) : g'.Alive q := by
  obtain ⟨j, hj⟩ := List.mem_iff_getElem?.mp hq
  refine List.mem_iff_getElem?.mpr ⟨j, h.getElem?_eq.mpr ⟨?_, hj⟩⟩
  rintro rfl
  rw [h.there] at hj
  exact hne (Option.some.inj (Option.some.inj hj)).symm

lemma Drops.alive_self (h : g.Drops i p g') : g.Alive p := List.mem_iff_getElem?.mpr ⟨i, h.there⟩

/-! ### Back to the start -/

/-- The level is not below the start, and some guard will bring it back. -/
structure Rises (start : Irql) (g : Guards) : Prop where
  level_ge : start ≤ g.level
  previous_ge : ∀ p, g.Alive p → start ≤ p.previous
  /-- The guard that left the start has found it. -/
  back : g.level = start ∨ ∃ p, g.Alive p ∧ p.previous = start

lemma Rises.step (h : g.Rises start) (hs : s.Scoped) : (g.step s).2.Rises start := by
  rcases step_cases (g := g) hs with ⟨hlevel, hguards⟩ | ⟨level, p, htakes⟩ | ⟨i, p, -, hdrops⟩
  · have halive (q : Guard) : (g.step s).2.Alive q ↔ g.Alive q := by rw [Alive, Alive, hguards]
    constructor
    · exact hlevel ▸ h.level_ge
    · exact fun q hq => h.previous_ge q ((halive q).mp hq)
    · simpa only [hlevel, halive] using h.back
  · constructor
    · rw [htakes.level_eq]
      exact Irql.le_trans h.level_ge (le_raised_left ..)
    · intro q hq
      rcases htakes.alive_iff.mp hq with hq | rfl
      · exact h.previous_ge q hq
      · exact htakes.previous_eq ▸ h.level_ge
    · rcases h.back with hback | ⟨q, hq, hback⟩
      · exact .inr ⟨p, htakes.alive_iff.mpr (.inr rfl), htakes.previous_eq.trans hback⟩
      · exact .inr ⟨q, htakes.alive_iff.mpr (.inl hq), hback⟩
  · have hp : start ≤ p.previous := h.previous_ge p hdrops.alive_self
    constructor
    · rw [hdrops.level_eq, le_lowered_iff]
      exact ⟨h.level_ge, hp⟩
    · exact fun q hq => h.previous_ge q (hdrops.alive hq)
    · rw [hdrops.level_eq]
      rcases h.back with hback | ⟨q, hq, hback⟩
      · exact .inl (by rw [hback, lowered_of_ge hp])
      · -- either the guard that found the start is dropped or it is still there
        by_cases hqp : q = p
        · rw [← hqp, hback]
          exact .inl (lowered_of_le h.level_ge)
        · exact .inr ⟨q, hdrops.alive_of_ne hq hqp, hback⟩

lemma rises_after (start : Irql) (locks : List Lock) {steps : List Step}
    (hscoped : ∀ s ∈ steps, s.Scoped) : (after ⟨start, locks, []⟩ steps).Rises start := by
  induction steps using List.reverseRecOn with
  | nil => exact ⟨Irql.le_refl _, fun p hp => absurd hp List.not_mem_nil, .inl rfl⟩
  | append_singleton steps s ih =>
    obtain ⟨hsteps, hs⟩ := List.forall_mem_append.mp hscoped
    rw [after_concat]
    exact (ih hsteps).step (hs s List.mem_cons_self)

/-- Whatever guards are taken and dropped, in any order, the level is not below the start, and it is
the level of the start when no guard is alive. -/
theorem guards_unwind (start : Irql) (locks : List Lock) (steps : List Step)
    (hscoped : ∀ s ∈ steps, s.Scoped) :
    start ≤ (after ⟨start, locks, []⟩ steps).level ∧
      ((∀ p, ¬ (after ⟨start, locks, []⟩ steps).Alive p) →
        (after ⟨start, locks, []⟩ steps).level = start) := by
  have h := rises_after start locks hscoped
  refine ⟨h.level_ge, fun hnone => ?_⟩
  rcases h.back with hback | ⟨p, hp, -⟩
  · exact hback
  · exact absurd hp (hnone p)

theorem guards_unwind_crossed :
    (∀ s ∈ [.scope synch, .acquire 0 1, .scope dispatch, .drop 0, .drop 2, .drop 1],
        Step.Scoped s) ∧
      (after ⟨apc, [⟨0, false⟩], []⟩
        [.scope synch, .acquire 0 1, .scope dispatch, .drop 0, .drop 2, .drop 1]).level = apc := by
  have hscoped : ∀ s ∈ [.scope synch, .acquire 0 1, .scope dispatch, .drop 0, .drop 2, .drop 1],
      Step.Scoped s := by simp [Step.Scoped]
  exact ⟨hscoped, (guards_unwind apc [⟨0, false⟩] _ hscoped).2 fun p => by
    simp [Alive, after, step, take, drop, unlock]⟩

/-! ### Locks -/

/-- While a lock is held the level is `synch` at least. -/
def Sheltered (g : Guards) : Prop := g.Holding → synch ≤ g.level

lemma Drops.holding (h : g.Drops i p g') (hg : g'.Holding) : g.Holding := by
  obtain ⟨q, hq, hlock⟩ := hg
  exact ⟨q, h.alive hq, hlock⟩

lemma Takes.sheltered {level : Irql} (h : g.Takes level p g') (hg : g.Sheltered) :
    g'.Sheltered := by
  rintro ⟨q, hq, hlock⟩
  rw [h.level_eq]
  rcases h.alive_iff.mp hq with hq | rfl
  · exact Irql.le_trans (hg ⟨q, hq, hlock⟩) (le_raised_left ..)
  · exact h.synch_of_lock hlock ▸ le_raised_right ..

/-- To drop a guard while a lock is held leaves the lock where it is just if the guard has found
`synch` at least. -/
lemma Drops.sheltered_iff (h : g.Drops i p g') (hg : g.Sheltered) :
    g'.Sheltered ↔ (g'.Holding → synch ≤ p.previous) := by
  refine forall_congr' fun hholding => ?_
  rw [h.level_eq, le_lowered_iff, and_iff_right (hg (h.holding hholding))]

/-- Every guard that is dropped while a lock is held has found `synch` at least. -/
def DropsAbove (g : Guards) (steps : List Step) : Prop :=
  ∀ earlier i p, earlier ++ [.drop i] <+: steps →
    (g.after earlier).Drops i p (g.after (earlier ++ [.drop i])) →
    (g.after (earlier ++ [.drop i])).Holding → synch ≤ p.previous

/-- No guard is dropped while a lock is held that was taken after it. -/
def Nested (g : Guards) (steps : List Step) : Prop :=
  ∀ earlier i p, earlier ++ [.drop i] <+: steps →
    (g.after earlier).Drops i p (g.after (earlier ++ [.drop i])) →
    ∀ j q, (g.after (earlier ++ [.drop i])).guards[j]? = some (some q) → q.lock ≠ none → j < i

/-- The guards that are younger than a lock have found `synch` at least. -/
def Stacked (g : Guards) : Prop :=
  ∀ (i j : Nat) (p q : Guard), j < i → g.guards[i]? = some (some p) → g.guards[j]? = some (some q) →
    q.lock ≠ none → synch ≤ p.previous

lemma Takes.stacked {level : Irql} (h : g.Takes level p g') (hg : g.Sheltered)
    (hstacked : g.Stacked) : g'.Stacked := by
  intro i j q q' hji hq hq' hlock
  rw [h.guards_eq] at hq hq'
  -- the guard that was taken is younger than all others
  have hbound := (List.getElem?_eq_some_iff.mp hq).1
  rw [List.length_append, List.length_singleton] at hbound
  rw [List.getElem?_append_left (by omega)] at hq'
  by_cases hi : i < g.guards.length
  · rw [List.getElem?_append_left hi] at hq
    exact hstacked i j q q' hji hq hq' hlock
  · obtain rfl : i = g.guards.length := by omega
    rw [List.getElem?_concat_length] at hq
    obtain rfl : p = q := by simpa using hq
    exact h.previous_eq ▸ hg ⟨q', List.mem_iff_getElem?.mpr ⟨j, hq'⟩, hlock⟩

lemma Drops.stacked (h : g.Drops i p g') (hstacked : g.Stacked) : g'.Stacked :=
  fun j k q q' hkj hq hq' hlock =>
    hstacked j k q q' hkj (h.getElem?_eq.mp hq).2 (h.getElem?_eq.mp hq').2 hlock

lemma Sheltered.step (hg : g.Sheltered) (hs : s.Scoped)
    (hdrop : ∀ i p, s = .drop i → g.Drops i p (g.step s).2 → (g.step s).2.Holding →
      synch ≤ p.previous) : (g.step s).2.Sheltered := by
  rcases step_cases (g := g) hs with ⟨hlevel, hguards⟩ | ⟨level, p, htakes⟩ | ⟨i, p, hsi, hdrops⟩
  · rintro ⟨q, hq, hlock⟩
    rw [Alive, hguards] at hq
    exact hlevel ▸ hg ⟨q, hq, hlock⟩
  · exact htakes.sheltered hg
  · exact (hdrops.sheltered_iff hg).mpr (hdrop i p hsi hdrops)

lemma Stacked.step (hstacked : g.Stacked) (hg : g.Sheltered) (hs : s.Scoped) :
    (g.step s).2.Stacked := by
  rcases step_cases (g := g) hs with ⟨-, hguards⟩ | ⟨level, p, htakes⟩ | ⟨i, p, -, hdrops⟩
  · rw [Stacked, hguards]
    exact hstacked
  · exact htakes.stacked hg hstacked
  · exact hdrops.stacked hstacked

section

variable {steps earlier : List Step}

lemma sheltered_after (hg : g.Sheltered) (hscoped : ∀ s ∈ steps, s.Scoped)
    (habove : g.DropsAbove steps) (hearlier : earlier <+: steps) :
    (g.after earlier).Sheltered := by
  induction earlier using List.reverseRecOn with
  | nil => exact hg
  | append_singleton earlier s ih =>
    have hs := hscoped s (hearlier.mem (by simp))
    rw [after_concat]
    refine (ih ((List.prefix_append ..).trans hearlier)).step hs fun i p hsi hdrops hholding => ?_
    subst hsi
    rw [← after_concat] at hdrops hholding
    exact habove earlier i p hearlier hdrops hholding

lemma nested_after (hg : g.Sheltered) (hstacked : g.Stacked) (hscoped : ∀ s ∈ steps, s.Scoped)
    (hnested : g.Nested steps) (hearlier : earlier <+: steps) :
    (g.after earlier).Sheltered ∧ (g.after earlier).Stacked := by
  induction earlier using List.reverseRecOn with
  | nil => exact ⟨hg, hstacked⟩
  | append_singleton earlier s ih =>
    have hs := hscoped s (hearlier.mem (by simp))
    obtain ⟨hsheltered, hstacked⟩ := ih ((List.prefix_append ..).trans hearlier)
    rw [after_concat]
    refine ⟨hsheltered.step hs fun i p hsi hdrops hholding => ?_, hstacked.step hsheltered hs⟩
    subst hsi
    obtain ⟨q, hq, hlock⟩ := hholding
    obtain ⟨j, hj⟩ := List.mem_iff_getElem?.mp hq
    rw [← after_concat] at hdrops hj
    have hji : j < i := hnested earlier i p hearlier hdrops j q hj hlock
    exact hstacked i j p q hji hdrops.there (hdrops.getElem?_eq.mp hj).2 hlock

end

lemma sheltered_fresh (start : Irql) (locks : List Lock) : Sheltered ⟨start, locks, []⟩ :=
  fun ⟨_, hp, _⟩ => absurd hp List.not_mem_nil

lemma stacked_fresh (start : Irql) (locks : List Lock) : Stacked ⟨start, locks, []⟩ :=
  fun _ _ _ _ _ hp => by cases hp

/-- Whatever guards are taken and dropped: all locks are held at `synch` or above all the time just
if no guard that has found less is dropped while one is held.  So it is if no guard is dropped while
a younger lock is held. -/
theorem locks_held_at_synch (start : Irql) (locks : List Lock) (steps : List Step)
    (hscoped : ∀ s ∈ steps, s.Scoped) :
    ((∀ earlier, earlier <+: steps → (after ⟨start, locks, []⟩ earlier).Sheltered) ↔
        DropsAbove ⟨start, locks, []⟩ steps) ∧
      (Nested ⟨start, locks, []⟩ steps →
        ∀ earlier, earlier <+: steps → (after ⟨start, locks, []⟩ earlier).Sheltered) := by
  have hfresh := sheltered_fresh start locks
  refine ⟨⟨fun hall earlier i p hearlier hdrops => ?_, fun habove earlier hearlier => ?_⟩,
    fun hnested earlier hearlier => ?_⟩
  · have hbefore := hall earlier ((List.prefix_append ..).trans hearlier)
    exact (hdrops.sheltered_iff hbefore).mp (hall _ hearlier)
  · exact sheltered_after hfresh hscoped habove hearlier
  · exact (nested_after hfresh (stacked_fresh start locks) hscoped hnested hearlier).1

theorem locks_held_at_synch_nested :
    (∀ s ∈ [.acquire 0 0, .acquire 1 0, .drop 1], Step.Scoped s) ∧
      Nested ⟨passive, [⟨0, false⟩, ⟨1, false⟩], []⟩ [.acquire 0 0, .acquire 1 0, .drop 1] ∧
      synch ≤ (after ⟨passive, [⟨0, false⟩, ⟨1, false⟩], []⟩
        [.acquire 0 0, .acquire 1 0, .drop 1]).level := by
  have hscoped : ∀ s ∈ [.acquire 0 0, .acquire 1 0, .drop 1], Step.Scoped s := by simp [Step.Scoped]
  have hnested : Nested ⟨passive, [⟨0, false⟩, ⟨1, false⟩], []⟩
      [.acquire 0 0, .acquire 1 0, .drop 1] := by
    rintro earlier i p hearlier - j q hq -
    -- the one step that drops anything is the last one
    obtain ⟨rfl, rfl⟩ : earlier = [.acquire 0 0, .acquire 1 0] ∧ i = 1 := by
      match earlier with
      | [] | [_] => simp at hearlier
      | [_, _] => simpa [and_assoc] using hearlier
      | _ :: _ :: _ :: _ => simp at hearlier
    match j with
    | 0 => exact Nat.zero_lt_one
    | 1 | _ + 2 => cases hq
  refine ⟨hscoped, hnested, ?_⟩
  exact (locks_held_at_synch passive [⟨0, false⟩, ⟨1, false⟩] _ hscoped).2 hnested _
    List.prefix_rfl ⟨⟨passive, some 0⟩, by decide, by decide⟩

/-- A lock that is held while the guard of an older one is dropped is held at passive level. -/
theorem lock_left_at_passive : ¬ ∀ (start : Irql) (locks : List Lock) (steps : List Step),
    (∀ s ∈ steps, s.Scoped) → (after ⟨start, locks, []⟩ steps).Sheltered := by
  intro h
  have hscoped : ∀ s ∈ [.acquire 0 0, .acquire 1 0, .drop 0], Step.Scoped s := by simp [Step.Scoped]
  have hheld := h passive [⟨0, false⟩, ⟨1, false⟩] _ hscoped
  have hlevel := hheld ⟨⟨synch, some 1⟩, by decide, by decide⟩
  revert hlevel
  decide

end Guards

end Testbench.Irql
