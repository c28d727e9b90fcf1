import Testbench.Proofs.Crew.Sound

/-!
# What a call takes in

A call settles once, and then takes in the worst outcome that its filament knows of.  So whatever a
child noted by then makes the call come out at least as bad, whether the call waited for that child
or gave up waiting; what a child notes later does not count any more.
-/

namespace Testbench.Crew

variable {ρ ε : Type} {reg : RegistryId} {f : FilamentId} {limit : Duration} {main : ThreadId}
  {before q o : Outcome} {s₀ s s' : State ρ ε} {i : Nat} {p : Worker} {φ : Phase} {w w' : World ρ ε}
  {x : Filament}

/-- If the call is settled, it is as bad as this at least. -/
def AtLeast (q : Outcome) (φ : Phase) : Prop :=
  ∀ e late o, φ.verdict? = some (e, late, o) → q ≤ o

/-- Nobody takes back what was noted. -/
lemma Goes.note?_eq (h : Goes reg f limit i p w φ w') (hp : p.phase.note? = some q) :
    φ.note? = some q := by
  cases h with
  | unbinds hending h =>
    rw [Phase.note?_of_ending hending]
    exact hp
  | @unbindsNothing i p w r e hending h =>
    rw [Phase.note?_done ⟨p.thread, f, true⟩, Phase.note?_of_ending hending]
    exact hp
  | @releases i t w b e =>
    rw [Phase.note?_done b]
    exact hp
  | _ => cases hp

/-- Whoever settles takes in what the filament knows. -/
lemma Goes.atLeast (h : Goes reg f limit 0 p w φ w') (hx : w.roster.filaments.get? f = some x)
    (hworst : q ≤ x.childOutcome) (hp : AtLeast q p.phase) : AtLeast q φ := by
  cases h with
  | settles hx' | settlesLate hx' =>
    obtain rfl := Option.some.inj (hx.symm.trans hx')
    intro e late o hverdict
    cases hverdict
    rw [worst_eq_max]
    exact hworst.trans (le_max_right _ _)
  | unbinds hending h | unbindsNothing hending h =>
    cases hφ : p.phase <;> rw [hφ] at hending hp <;> cases hending
    · exact hp
    · exact fun e late o hverdict => nomatch hverdict
  | releases =>
    rename_i ending
    cases ending with
    | child => exact fun e late o hverdict => nomatch hverdict
    | call => exact hp
  | _ => exact fun e late o hverdict => nomatch hverdict

/-- A child has noted an outcome, and the call comes out as bad as that at least. -/
structure Settling (q : Outcome) (s : State ρ ε) : Prop where
  noted : Noted s.workers q
  caller : ∀ p, s.workers[0]? = some p → AtLeast q p.phase

/-- A worker changes, and neither takes back a note nor settles on less. -/
lemma Settling.set (h : Settling q s) (hi : s.workers[i]? = some p) {t : ThreadId}
    (hworkers : s'.workers = s.workers.set i ⟨t, φ⟩)
    (hnote : p.phase.note? = some q → φ.note? = some q) (hφ : i = 0 → AtLeast q φ) :
    Settling q s' := by
  constructor
  · obtain ⟨r, hr, hrnote⟩ := h.noted
    rw [hworkers]
    rcases Places.mem_set_of_mem hi hr ⟨t, φ⟩ with rfl | hr
    · exact ⟨_, Places.mem_set_self hi _, hnote hrnote⟩
    · exact ⟨r, hr, hrnote⟩
  · intro p' hp'
    rw [hworkers] at hp'
    rcases Places.getElem?_set_eq_some hp' with ⟨rfl, rfl⟩ | ⟨-, hp'⟩
    · exact hφ rfl
    · exact h.caller p' hp'

lemma Settling.step (h : Settling q s) (hs : Sound reg f limit main before s)
    (hstep : Step reg f limit s s') : Settling q s' := by
  cases hstep with
  | goes hi hgoes =>
    refine h.set hi rfl hgoes.note?_eq ?_
    rintro rfl
    obtain ⟨x, hx, hfilament⟩ := hs.filament
    exact hgoes.atLeast hx (hfilament.worst.2 (.inr h.noted)) (h.caller _ hi)
  | reports hi hx => exact h.set hi rfl (fun h => nomatch h) fun _ _ _ _ h => nomatch h
  | starts hi hnew =>
    rename_i i t u w
    have hset : Settling q { s with workers := s.workers.set i ⟨t, .awaits u⟩ } :=
      h.set hi rfl (fun h => nomatch h) fun _ _ _ _ h => nomatch h
    obtain ⟨r, hr, hnote⟩ := hset.noted
    refine ⟨⟨r, List.mem_append_left _ hr, hnote⟩, fun p hp => ?_⟩
    rcases Places.getElem?_append_singleton hp with hp | rfl
    · exact hset.caller p hp
    · exact fun _ _ _ h => nomatch h
  | hears hi hj harrived => exact h.set hi rfl (fun h => nomatch h) fun _ _ _ _ h => nomatch h
  | elsewhere helse => exact ⟨h.noted, h.caller⟩

/-- A call comes out at least as bad as whatever a child noted before the call was settled. -/
theorem noted_le (h₀ : Opening f before s₀) (h : Runs reg f limit s₀ s)
    (hnoted : Noted s.workers q)
    (hunsettled : ∀ p, s.workers[0]? = some p → p.phase.verdict? = none)
    (h' : Runs reg f limit s s') {t : ThreadId} {e : Exit} {late : Bool}
    (hcaller : s'.workers[0]? = some ⟨t, .done (.call e late o)⟩) : q ≤ o := by
  obtain ⟨main, hopening⟩ := Sound.opening h₀
  have hs : Sound reg f limit main before s := hopening.runs h
  have hsettling : Settling q s := by
    refine ⟨hnoted, fun p hp e late o hverdict => ?_⟩
    rw [hunsettled p hp] at hverdict
    cases hverdict
  have hend : Settling q s' := by
    clear hcaller
    induction h' with
    | refl => exact hsettling
    | tail hruns hstep ih => exact ih.step (hs.runs hruns) hstep
  exact hend.caller _ hcaller e late o rfl

end Testbench.Crew
