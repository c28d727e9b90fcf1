import Testbench.Proofs.Remote.Call
import Testbench.Proofs.Run.Match
import Testbench.Proofs.Sway.Observers

/-!
# Worlds that are alike

Worlds are alike if they have the same in them but for observers, and if their observers are similar,
name by name: nothing tells them apart but the events that observers were told of.  Everything lawful
does the same in them and leaves them alike.

One exception has to be watched.  Who makes a request has a look at the events in a channel, and
these may differ.  So there is a set of observers in which two worlds may differ at all, and a request
that a routine makes by itself has a channel that is not in it: the channel is new, and both worlds
have told it the same.
-/

namespace Testbench

open Testbench.Flow

namespace World

variable {ρ ε α β γ : Type} {S : ObserverId → Prop} {x y : World ρ ε} {o : ObserverId}

/-- Worlds that differ in observers at most, which are similar. -/
structure Alike (x y : World ρ ε) : Prop where
  rest : y = { x with observers := y.observers }
  similar : ∀ o, Option.Rel Observer.Similar (x.observers.get? o) (y.observers.get? o)

/-- Worlds that are alike, and that differ in those observers of `S` at most. -/
structure AlikeIn (S : ObserverId → Prop) (x y : World ρ ε) : Prop extends Alike x y where
  old : ∀ o, S o → x.observers.get? o ≠ none
  same : ∀ o, ¬ S o → x.observers.get? o = y.observers.get? o

/-- What does the same in worlds that are alike, and leaves them alike where they are. -/
def Blind (m : Act ρ ε α) : Prop := ∀ S, Tracks (AlikeIn S) m m

/-! ### Observers of alike worlds -/

lemma rel_similar_symm {a b : Option Observer} (h : Option.Rel Observer.Similar a b) :
    Option.Rel Observer.Similar b a := by
  cases h with
  | none => exact .none
  | some h => exact .some h.symm

namespace Alike

lemma symm (h : Alike x y) : Alike y x where
  rest := by rw [h.rest]
  similar o := rel_similar_symm (h.similar o)

/-- A world is alike itself if events do not sway its observers. -/
lemma refl {w : World ρ ε} (hw : ∀ o z, w.observers.get? o = some z → z.Unswayed) : Alike w w where
  rest := rfl
  similar o := by
    cases hz : w.observers.get? o with
    | none => exact .none
    | some z => exact .some (Observer.similar_self_iff.mpr (hw o z hz))

lemma size_le (h : Alike x y) : y.observers.items.size ≤ x.observers.items.size := by
  have hrel := h.similar x.observers.items.size
  rw [Pool.get?, Pool.get?, Array.getElem?_eq_none (Nat.le_refl _)] at hrel
  generalize hy : y.observers.items[x.observers.items.size]? = z at hrel
  cases hrel
  exact Array.getElem?_eq_none_iff.mp hy

lemma size_eq (h : Alike x y) : y.observers.items.size = x.observers.items.size :=
  Nat.le_antisymm h.size_le h.symm.size_le

/-- Worlds that are alike may differ in all observers that there are. -/
lemma alikeIn (h : Alike x y) : AlikeIn (fun o => x.observers.get? o ≠ none) x y where
  toAlike := h
  old _ ho := ho
  same o ho := by
    have hrel := h.similar o
    rw [not_not.mp ho] at hrel ⊢
    generalize y.observers.get? o = b at hrel
    cases hrel
    rfl

end Alike

/-- What matches wherever worlds differ matches in worlds that are alike. -/
lemma matches_alike {V : α → β → Prop} {m : Act ρ ε α} {n : Act ρ ε β}
    (h : ∀ S, Matches (AlikeIn S) V m n) : Matches Alike V m n := by
  intro x y hxy
  obtain ⟨hend, hxy'⟩ := h _ x y hxy.alikeIn
  exact ⟨hend, hxy'.toAlike⟩

lemma Blind.tracks {m : Act ρ ε α} (h : Blind m) : Tracks Alike m m := matches_alike h

/-! ### Telling observers -/

/-- What is told to observers so that similar ones answer in `V`. -/
lemma matches_tell {V : α → β → Prop} {fallback : α} {fallback' : β} {f : Observer → α × Observer}
    {g : Observer → β × Observer} (hfallback : V fallback fallback')
    (hfg : ∀ a b, a.Similar b → (¬ S o → a = b) →
      V (f a).1 (g b).1 ∧ (f a).2.Similar (g b).2 ∧ (¬ S o → (f a).2 = (g b).2)) :
    Matches (AlikeIn S) V (tell o fallback f : Act ρ ε α) (tell o fallback' g) := by
  intro x y hxy
  have hanswer : V ((x.observers.get? o).elim fallback fun a => (f a).1)
      ((y.observers.get? o).elim fallback' fun b => (g b).1) ∧
      Option.Rel Observer.Similar ((x.observers.get? o).map fun a => (f a).2)
        ((y.observers.get? o).map fun b => (g b).2) ∧
      (¬ S o → ((x.observers.get? o).map fun a => (f a).2)
        = (y.observers.get? o).map fun b => (g b).2) := by
    have hsimilar := hxy.similar o
    have hsame := hxy.same o
    generalize x.observers.get? o = a, y.observers.get? o = b at hsimilar hsame
    cases hsimilar with
    | none => exact ⟨hfallback, .none, fun _ => rfl⟩
    | @some a b hab =>
      obtain ⟨hV, hsimilar', hsame'⟩ := hfg a b hab fun ho => Option.some.inj (hsame ho)
      exact ⟨hV, .some hsimilar', fun ho => congrArg some (hsame' ho)⟩
  obtain ⟨hV, hsimilar, hsame⟩ := hanswer
  rw [tell, tell, step_apply, step_apply]
  simp only [Pool.update_fst]
  refine ⟨.ok hV, ⟨?_, fun i => ?_⟩, fun i hi => ?_, fun i hi => ?_⟩
  · rw [hxy.rest]
  · simp only [Pool.get?_update]
    split
    · next hoi => exact hoi ▸ hsimilar
    · exact hxy.similar i
  · have hold := hxy.old i hi
    simp only [Pool.get?_update]
    split
    · rwa [ne_eq, Option.map_eq_none_iff]
    · exact hold
  · simp only [Pool.get?_update]
    split
    · next hoi => exact hoi ▸ hsame (hoi ▸ hi)
    · exact hxy.same i hi

/-- What similar observers answer alike is asked with the same result. -/
lemma blind_tell {fallback : α} {f : Observer → α × Observer}
    (hf : ∀ a b, a.Similar b → (f a).1 = (f b).1 ∧ (f a).2.Similar (f b).2) (o : ObserverId) :
    Blind (tell o fallback f : Act ρ ε α) :=
  fun _ => matches_tell rfl fun a b hab hsame =>
    ⟨(hf a b hab).1, (hf a b hab).2, fun ho => by rw [hsame ho]⟩

lemma blind_apart {m : Act ρ ε α} (hm : Apart m) : Blind m := by
  intro S x y hxy
  have hy : m y = ((m x).1, { (m x).2 with observers := y.observers }) := by
    rw [← hm x y.observers, ← hxy.rest]
  rw [hy]
  refine ⟨endsAlike_eq_iff.mpr rfl, ⟨rfl, ?_⟩, ?_, ?_⟩ <;> rw [hm.observers_eq]
  · exact hxy.similar
  · exact hxy.old
  · exact hxy.same

/-- What is made of things that do the same in alike worlds does the same. -/
theorem Blind.closed : Closed (ρ := ρ) (ε := ε) Blind where
  apart := blind_apart
  tell hf := blind_tell fun _ _ hab => hab.asked hf
  bind hm hk S := (hm S).bind fun a => hk a S
  attempt hm S := (hm S).attempt

/-! ### Requests -/

/-- Whatever two worlds have told a channel, its events are given out, and they are the same if the
worlds do not differ in it. -/
lemma matches_takeEvents (o : ObserverId) :
    Matches (AlikeIn S) (fun events events' => ¬ S o → events = events')
      (Driver.takeEvents o : Act ρ ε EventBuffer) (Driver.takeEvents o) := by
  refine matches_tell (fun _ => rfl) fun a b hab hsame => ?_
  refine ⟨fun ho => by rw [hsame ho], ?_, fun ho => ?_⟩
  · cases hab with
    | recorder h => exact .recorder h
    | channel h => exact .channel h
    | console h => exact .console h
  · rw [hsame ho]

lemma Alike.opening (h : Alike x y) {z z' : Observer} (hz : z.Similar z') :
    Alike (Driver.opening x z) (Driver.opening y z') where
  rest := by
    rw [h.rest]
    rfl
  similar o := by
    simp only [Driver.opening, Pool.get?_add, h.size_eq]
    split
    · exact .some hz
    · exact h.similar o

lemma tracks_newObserver {z z' : Observer} (hz : z.Similar z') :
    Tracks Alike (newObserver z : Act ρ ε ObserverId) (newObserver z') := by
  intro x y hxy
  rw [Driver.newObserver_eq, Driver.newObserver_eq, hxy.size_eq]
  exact ⟨.ok rfl, hxy.opening hz⟩

/-- What makes an observer and goes on with it does the same, if it does so with an observer in which
the worlds do not differ: there is none yet of the name that it gets. -/
lemma blind_newObserver {z : Observer} (hz : z.Similar z) {k : ObserverId → Act ρ ε α}
    (hk : ∀ S o, ¬ S o → Tracks (AlikeIn S) (k o) (k o)) : Blind (newObserver z >>= k) := by
  intro S x y hxy
  have hfresh : x.observers.get? x.observers.items.size = none := by
    rw [Pool.get?, Array.getElem?_eq_none (Nat.le_refl _)]
  have hnew : ¬ S x.observers.items.size := fun h => hxy.old _ h hfresh
  have hopening : AlikeIn S (Driver.opening x z) (Driver.opening y z) := by
    refine ⟨hxy.toAlike.opening hz, fun o ho => ?_, fun o ho => ?_⟩
    · simp only [Driver.opening, Pool.get?_add]
      split
      · exact Option.some_ne_none z
      · exact hxy.old o ho
    · simp only [Driver.opening, Pool.get?_add, hxy.size_eq]
      rw [hxy.same o ho]
  rw [bind_ok (Driver.newObserver_eq x z), bind_ok (Driver.newObserver_eq y z), hxy.size_eq]
  exact hk S _ hnew _ _ hopening

variable {exec : Routines ρ ε}

/-- A request that is made by the way has all its events alike. -/
lemma blind_callRoutine (hexec : ∀ routine, Blind (exec routine)) (hothers : Blind exec.others)
    (input output : List UInt8) : Blind (Driver.callRoutine exec input output) := by
  have hclosed : Closed (ρ := ρ) (ε := ε) Blind := Blind.closed
  rw [Driver.callRoutine]
  split
  · exact hclosed.pure _
  split
  · exact hclosed.pure _
  split
  · exact hclosed.pure _
  split
  · exact hclosed.pure _
  refine blind_newObserver (.channel rfl) fun S channel hchannel => ?_
  refine Tracks.bind (hclosed.callAt hexec hothers _ channel S) fun result => ?_
  cases result with
  | error why => exact tracks_pure _
  | ok result =>
    exact (matches_takeEvents channel).bind fun events events' h => by
      rw [h hchannel]
      exact tracks_pure _

/-- Everything lawful does the same in alike worlds. -/
theorem Lawful.blind {m : Act ρ ε α} (hm : Lawful m) : Blind m :=
  hm.induct Blind.closed fun _ input output hexec hothers =>
    blind_callRoutine hexec hothers input output

end World

end Testbench
