import Testbench.Proofs.Run.Agree
import Testbench.Proofs.Run.Watched

/-!
# Runs that match

Two computations match if, from related states, they end in the same way: both return, with related
values, or both stop for the same reason, be it that they unwind or that they run out of room.  If
hosts match in what they do, so do the runs of fixtures that are alike, and whoever watches the two
runs has the same to note about each.
-/

namespace Testbench

variable {σ τ ρ υ ε α β γ δ ν μ : Type}

/-- Both came out, with values in `V`, or both failed with the same error. -/
inductive EndsAlike (V : α → β → Prop) : Except ε α → Except ε β → Prop
  | ok {a : α} {b : β} (h : V a b) : EndsAlike V (.ok a) (.ok b)
  | error (e : ε) : EndsAlike V (.error e) (.error e)

lemma EndsAlike.mono {V W : α → β → Prop} {r : Except ε α} {s : Except ε β} (h : EndsAlike V r s)
    (hVW : ∀ a b, V a b → W a b) : EndsAlike W r s := by
  cases h with
  | ok h => exact .ok (hVW _ _ h)
  | error e => exact .error e

lemma endsAlike_eq_iff {r s : Except ε α} : EndsAlike Eq r s ↔ r = s := by
  constructor
  · rintro (h | e)
    · exact congrArg _ h
    · rfl
  · rintro rfl
    cases r with
    | ok a => exact .ok rfl
    | error e => exact .error e

namespace Flow

/-- From states in `P` two computations end alike, with values in `V`, and the states go on to be in
`P`. -/
def Matches (P : σ → τ → Prop) (V : α → β → Prop) (m : Flow σ α) (n : Flow τ β) : Prop :=
  ∀ s t, P s t → EndsAlike V (m s).1 (n t).1 ∧ P (m s).2 (n t).2

/-- Two computations end with the same value or for the same reason. -/
abbrev Tracks (P : σ → τ → Prop) (m : Flow σ α) (n : Flow τ α) : Prop := Matches P Eq m n

variable {P : σ → τ → Prop} {V : α → β → Prop} {W : γ → δ → Prop} {m : Flow σ α} {n : Flow τ β}

lemma Matches.mono {V' : α → β → Prop} (hm : Matches P V m n) (hV : ∀ a b, V a b → V' a b) :
    Matches P V' m n :=
  fun s t hst => ⟨(hm s t hst).1.mono hV, (hm s t hst).2⟩

lemma matches_pure {a : α} {b : β} (h : V a b) : Matches P V (pure a) (pure b) :=
  fun _ _ hst => ⟨.ok h, hst⟩

lemma tracks_pure (a : α) : Tracks P (pure a) (pure a) := matches_pure rfl

lemma tracks_unwind (payload : Payload) :
    Tracks P (unwind payload : Flow σ α) (unwind payload : Flow τ α) :=
  fun _ _ hst => ⟨.error _, hst⟩

lemma Matches.bind {k : α → Flow σ γ} {l : β → Flow τ δ} (hm : Matches P V m n)
    (hk : ∀ a b, V a b → Matches P W (k a) (l b)) : Matches P W (m >>= k) (n >>= l) := by
  intro s t hst
  obtain ⟨hend, hst'⟩ := hm s t hst
  rcases hms : m s with ⟨r, s'⟩
  rcases hnt : n t with ⟨r', t'⟩
  simp only [hms, hnt] at hend hst'
  cases hend with
  | ok h =>
    rw [bind_ok hms, bind_ok hnt]
    exact hk _ _ h s' t' hst'
  | error e =>
    rw [bind_error hms, bind_error hnt]
    exact ⟨.error e, hst'⟩

/-- Where the same was returned, the same comes next. -/
lemma Tracks.bind {n : Flow τ α} {k : α → Flow σ γ} {l : α → Flow τ δ} (hm : Tracks P m n)
    (hk : ∀ a, Matches P W (k a) (l a)) : Matches P W (m >>= k) (n >>= l) :=
  Matches.bind hm fun a _ h => h ▸ hk a

lemma tracks_congruent : Congruent (σ := σ) (τ := τ) (Tracks P) := ⟨tracks_pure, Tracks.bind⟩

lemma Tracks.attempt {n : Flow τ α} (hm : Tracks P m n) : Tracks P m.attempt n.attempt := by
  intro s t hst
  obtain ⟨hend, hst'⟩ := hm s t hst
  rw [endsAlike_eq_iff] at hend
  rw [attempt_snd, attempt_snd, endsAlike_eq_iff]
  refine ⟨?_, hst'⟩
  rcases hms : m s with ⟨(payload | -) | a, s'⟩ <;> rcases hnt : n t with ⟨r, t'⟩ <;>
    simp only [hms, hnt] at hend <;> subst hend <;> simp only [Flow.attempt, hms, hnt]

/-- States that match and notes that match, one by one. -/
def Noted (P : σ → τ → Prop) (N : ν → μ → Prop) (s : σ × List ν) (t : τ × List μ) : Prop :=
  P s.1 t.1 ∧ List.Forall₂ N s.2 t.2

lemma Tracks.noting {n : Flow τ α} {N : ν → μ → Prop} {before : List ν} {before' : List μ}
    {after : α → List ν} {after' : α → List μ} {stopped : Stop → List ν} {stopped' : Stop → List μ}
    (hm : Tracks P m n) (hbefore : List.Forall₂ N before before')
    (hafter : ∀ a, List.Forall₂ N (after a) (after' a))
    (hstopped : ∀ why, List.Forall₂ N (stopped why) (stopped' why)) :
    Tracks (Noted P N) (noting before after m stopped) (noting before' after' n stopped') := by
  rintro ⟨s, notes⟩ ⟨t, notes'⟩ ⟨hst, hnotes⟩
  obtain ⟨hend, hst'⟩ := hm s t hst
  rcases hms : m s with ⟨r, s'⟩
  rcases hnt : n t with ⟨r', t'⟩
  simp only [hms, hnt] at hend hst'
  cases hend with
  | @ok a b h =>
    subst h
    simp only [Flow.noting, hms, hnt]
    exact ⟨.ok rfl, hst', List.rel_append (List.rel_append hnotes hbefore) (hafter a)⟩
  | error e =>
    simp only [Flow.noting, hms, hnt]
    exact ⟨.error e, hst', List.rel_append (List.rel_append hnotes hbefore) (hstopped e)⟩

end Flow

open Testbench.Flow

/-! ### Notes -/

/-- Notes that say the same of fixtures that are alike. -/
inductive Note.Alike (S : ρ → υ → Prop) : Note ρ → Note υ → Prop
  | fixtureStarts {f : Fixture ρ} {f' : Fixture υ} (hf : f.Alike S f') :
      Note.Alike S (.fixtureStarts f) (.fixtureStarts f')
  | caseStarts {f : Fixture ρ} {f' : Fixture υ} {c : TestCase ρ} {c' : TestCase υ}
      (hf : f.Alike S f') (hc : c.Alike S c') : Note.Alike S (.caseStarts f c) (.caseStarts f' c')
  | refused : Note.Alike S .refused .refused
  | calls {r : ρ} {r' : υ} (hr : S r r') (answer : Except FilamentError Outcome) :
      Note.Alike S (.calls r answer) (.calls r' answer)
  | breaksOff {r : ρ} {r' : υ} (hr : S r r') (why : Stop) :
      Note.Alike S (.breaksOff r why) (.breaksOff r' why)
  | caseFinished {f : Fixture ρ} {f' : Fixture υ} {c : TestCase ρ} {c' : TestCase υ}
      (hf : f.Alike S f') (hc : c.Alike S c') (completed : Bool) :
      Note.Alike S (.caseFinished f c completed) (.caseFinished f' c' completed)
  | fixtureFinished {f : Fixture ρ} {f' : Fixture υ} (hf : f.Alike S f') (completed : Bool) :
      Note.Alike S (.fixtureFinished f completed) (.fixtureFinished f' completed)

variable {S : ρ → υ → Prop} {P : σ → τ → Prop} {h : Host σ ρ} {h' : Host τ υ}

lemma Note.alike_ofAnswer (S : ρ → υ → Prop) (answer : Except ObserverError Unit) :
    List.Forall₂ (Note.Alike S) (Note.ofAnswer answer) (Note.ofAnswer answer) := by
  cases answer with
  | ok u => exact .nil
  | error e => exact .cons .refused .nil

/-- Hosts that match do so before those who watch. -/
theorem Host.Related.watched (related : h.Related S (Tracks P) h') :
    h.watched.Related S (Tracks (Noted P (Note.Alike S))) h'.watched where
  validate := related.validate.noting .nil (fun _ => .nil) fun _ => .nil
  fixtureStarts hf :=
    (related.fixtureStarts hf).noting (.cons (.fixtureStarts hf) .nil) (Note.alike_ofAnswer S)
      fun _ => .nil
  fixtureFinished hf completed :=
    (related.fixtureFinished hf completed).noting (.cons (.fixtureFinished hf completed) .nil)
      (fun _ => .nil) fun _ => .nil
  caseStarts hf hc :=
    (related.caseStarts hf hc).noting (.cons (.caseStarts hf hc) .nil) (Note.alike_ofAnswer S)
      fun _ => .nil
  caseFinished hf hc completed :=
    (related.caseFinished hf hc completed).noting (.cons (.caseFinished hf hc completed) .nil)
      (fun _ => .nil) fun _ => .nil
  call hr := (related.call hr).noting .nil (fun answer => .cons (.calls hr answer) .nil)
    fun why => .cons (.breaksOff hr why) .nil

end Testbench
