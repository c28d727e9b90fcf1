import Mathlib.Order.Bounds.Basic
import Testbench.Proofs.Crew.State

/-!
# What a move does

A worker that moves changes no more of what the threads share than is its own: the filament counts
one more or one less as the worker comes or goes, the worst outcome becomes worse by what the worker
notes, and all seats but its own stay taken.
-/

namespace Testbench.Crew

variable {ρ ε : Type} {reg : RegistryId} {f : FilamentId} {limit : Duration} {i : Nat}
  {p q : Worker} {φ : Phase} {w w' : World ρ ε} {x : Filament}

/-- A thread has the seat that its phase is about, and leaves with its own binding. -/
structure Fits (reg : RegistryId) (f : FilamentId) (w : World ρ ε) (t : ThreadId) (φ : Phase) :
    Prop where
  seat : φ.sits = true → w.roster.Seated reg f t
  binding : ∀ b e, φ = .unbound b e → b = ⟨t, f, true⟩

/-- Seats are a matter of the roster. -/
lemma Fits.of_roster {t : ThreadId} (hroster : w'.roster = w.roster) (h : Fits reg f w t φ) :
    Fits reg f w' t φ :=
  ⟨fun hsits => hroster ▸ h.seat hsits, h.binding⟩

lemma Phase.sits_of_ending {e : Ending} (h : φ.ending? = some e) : φ.sits = true := by
  cases φ <;> first | rfl | cases h

lemma Phase.counts_of_ending {e : Ending} (h : φ.ending? = some e) : φ.counts = true := by
  cases φ <;> first | rfl | cases h

/-- A child that leaves takes along what it noted. -/
lemma Phase.note?_of_ending {e : Ending} (h : φ.ending? = some e) (b : Binding) :
    (Phase.unbound b e).note? = φ.note? := by
  cases φ <;> cases h <;> rfl

lemma Phase.note?_done (b : Binding) (e : Ending) :
    (Phase.done e).note? = (Phase.unbound b e).note? := by
  cases e <;> rfl

/-! ### Outcomes by how bad they are -/

lemma severity_injective : Function.Injective Outcome.severity := by
  intro a b h
  cases a <;> cases b <;> first | rfl | cases h

instance : LinearOrder Outcome := LinearOrder.lift' Outcome.severity severity_injective

lemma worst_eq_max (a b : Outcome) : a.worst b = max a b := by
  cases a <;> cases b <;> rfl

namespace Goes

/-- No worker leaves the table without a binding of its own. -/
lemma unbind_eq (hfits : Fits reg f w p.thread p.phase) {e : Ending} (hp : p.phase.ending? = some e)
    {b? : Option Binding} {r : Roster}
    (h : w.roster.onTable reg none (·.unbind p.thread) = (b?, r)) :
    b? = some ⟨p.thread, f, true⟩ ∧ r.filaments = w.roster.filaments ∧
      ∀ u, u ≠ p.thread → w.roster.Seated reg f u → r.Seated reg f u :=
  Roster.seated_unbind (hfits.seat (Phase.sits_of_ending hp)) h

/-- Nobody but a worker that starts another makes threads. -/
lemma threads_eq (h : Goes reg f limit i p w φ w') : w'.threads = w.threads := by
  cases h <;> rfl

/-- A worker that moves takes or leaves its own seat, -/
lemma fits (h : Goes reg f limit i p w φ w') (hfits : Fits reg f w p.thread p.phase) :
    Fits reg f w' p.thread φ := by
  cases h with
  | sits h => exact ⟨fun _ => (Roster.seated_bind h).2.1, fun _ _ h => (nomatch h)⟩
  | begins | ends | catches | joins | givesUpWaiting | strands | settles | settlesLate | notes
  | passesOn =>
    exact ⟨fun _ => hfits.seat rfl, fun _ _ h => (nomatch h)⟩
  | unbinds hp h =>
    obtain ⟨hb, -, -⟩ := unbind_eq hfits hp h
    refine ⟨fun h => (nomatch h), fun b e hbinding => ?_⟩
    cases hbinding
    exact Option.some.inj hb
  | unbindsNothing hp h =>
    obtain ⟨hb, -, -⟩ := unbind_eq hfits hp h
    cases hb
  | counts | full | conflicts | givesUp | declines | drops | releases =>
    exact ⟨fun h => (nomatch h), fun _ _ h => (nomatch h)⟩

/-- and leaves all others theirs. -/
lemma seats (h : Goes reg f limit i p w φ w') (hx : w.roster.filaments.get? f = some x)
    (hfits : Fits reg f w p.thread p.phase) {u : ThreadId} (hu : u ≠ p.thread)
    (hseat : w.roster.Seated reg f u) : w'.roster.Seated reg f u := by
  cases h with
  | counts h => exact hseat.of_registries (Roster.prepare_ok hx h).1
  | full h =>
    obtain rfl := Roster.prepare_error hx h
    exact hseat
  | sits h => exact (Roster.seated_bind h).2.2 u hseat
  | conflicts h =>
    obtain rfl := Roster.bind_error_eq h
    exact hseat
  | givesUp => exact hseat.of_registries (Roster.release_eq hx).1
  | unbinds hp h => exact (unbind_eq hfits hp h).2.2 u hu hseat
  | unbindsNothing hp h =>
    obtain ⟨hb, -, -⟩ := unbind_eq hfits hp h
    cases hb
  | releases =>
    rename_i t b e
    obtain rfl : b = ⟨t, f, true⟩ := hfits.binding _ _ rfl
    exact hseat.of_registries (Roster.release_eq hx).1
  | notes => exact hseat
  | declines | drops | begins | ends | catches | joins | givesUpWaiting | strands | settles
  | settlesLate | passesOn => exact hseat

/-- The main thread of a filament does not count. -/
lemma weight_eq (main t : ThreadId) :
    Roster.weight main t = if (true && main != t) = true then 1 else 0 := by
  rw [Roster.weight]
  by_cases h : main = t <;> simp [h]

/-- The filament counts the worker as long as its phase says so, and takes note of what the worker
takes note of. -/
lemma filament (h : Goes reg f limit i p w φ w') (hx : w.roster.filaments.get? f = some x)
    (hfits : Fits reg f w p.thread p.phase) {n : Nat}
    (hn : x.running = n + if p.counted x.mainThread then 1 else 0) :
    ∃ x', w'.roster.filaments.get? f = some x' ∧ x'.mainThread = x.mainThread ∧
      (x'.running = n + if (⟨p.thread, φ⟩ : Worker).counted x.mainThread then 1 else 0) ∧
      ((φ.note? = p.phase.note? ∧ x'.childOutcome = x.childOutcome) ∨
        ∃ o, p.phase.note? = none ∧ φ.note? = some o ∧
          x'.childOutcome = x.childOutcome.worst o) := by
  cases h with
  | counts h =>
    obtain ⟨-, hx'⟩ := Roster.prepare_ok hx h
    refine ⟨_, hx', rfl, ?_, .inl ⟨rfl, rfl⟩⟩
    rw [weight_eq]
    exact congrArg (· + _) hn
  | full h =>
    obtain rfl := Roster.prepare_error hx h
    exact ⟨x, hx, rfl, hn, .inl ⟨rfl, rfl⟩⟩
  | sits h => exact ⟨x, (Roster.seated_bind h).1 ▸ hx, rfl, hn, .inl ⟨rfl, rfl⟩⟩
  | conflicts h =>
    obtain rfl := Roster.bind_error_eq h
    exact ⟨x, hx, rfl, hn, .inl ⟨rfl, rfl⟩⟩
  | givesUp =>
    obtain ⟨-, hx'⟩ := Roster.release_eq hx
    refine ⟨_, hx', rfl, ?_, .inl ⟨rfl, rfl⟩⟩
    rw [weight_eq]
    exact Nat.sub_eq_of_eq_add hn
  | unbinds hp h =>
    obtain ⟨-, hfilaments, -⟩ := unbind_eq hfits hp h
    rw [Worker.counted, Phase.counts_of_ending hp] at hn
    exact ⟨x, hfilaments ▸ hx, rfl, hn, .inl ⟨Phase.note?_of_ending hp _, rfl⟩⟩
  | unbindsNothing hp h =>
    obtain ⟨hb, -, -⟩ := unbind_eq hfits hp h
    cases hb
  | releases =>
    rename_i t b e
    obtain rfl : b = ⟨t, f, true⟩ := hfits.binding _ _ rfl
    obtain ⟨-, hx'⟩ := Roster.release_eq hx
    refine ⟨_, hx', rfl, ?_, .inl ⟨Phase.note?_done _ e, rfl⟩⟩
    rw [weight_eq]
    exact Nat.sub_eq_of_eq_add hn
  | notes he => exact ⟨_, Pool.get?_modify_self _ hx, rfl, hn, .inr ⟨_, rfl, he, rfl⟩⟩
  | passesOn he => exact ⟨x, hx, rfl, hn, .inl ⟨he, rfl⟩⟩
  | declines | drops | begins | ends | catches | joins | givesUpWaiting | strands | settles
  | settlesLate =>
    exact ⟨x, hx, rfl, hn, .inl ⟨rfl, rfl⟩⟩

/-! ### What a move leaves behind -/

/-- Nothing comes of those who are finished, or who wait for a thread that they started. -/
lemma not_finished (h : Goes reg f limit i p w φ w') : p.phase.finished = false := by
  cases h with
  | unbinds hp | unbindsNothing hp =>
    cases hφ : p.phase <;> first | rfl | (rw [hφ] at hp; cases hp)
  | _ => rfl

/-- Nothing comes of a call that unwound from its wait. -/
lemma not_stranded (h : Goes reg f limit i p w φ w') : p.phase.isStranded = false := by
  cases h with
  | unbinds hp | unbindsNothing hp =>
    cases hφ : p.phase <;> first | rfl | (rw [hφ] at hp; cases hp)
  | _ => rfl

lemma ne_awaits (h : Goes reg f limit i p w φ w') (u : ThreadId) : p.phase ≠ .awaits u := by
  cases h with
  | unbinds hp | unbindsNothing hp =>
    intro hφ
    rw [hφ] at hp
    cases hp
  | _ => exact fun hφ => nomatch hφ

/-- Who has told what became of it does not go back on that. -/
lemma arrived (h : Goes reg f limit i p w φ w') (hφ : φ.arrived = false) :
    p.phase.arrived = false := by
  cases h <;> first | rfl | cases hφ

/-- A child does not become the calling thread. -/
lemma ofCaller (h : Goes reg f limit (i + 1) p w φ w') (hp : p.phase.ofCaller = false) :
    φ.ofCaller = false := by
  cases h with
  | unbinds hending | unbindsNothing hending =>
    cases hφ : p.phase <;> rw [hφ] at hending hp <;> cases hending <;> first | rfl | cases hp
  | releases =>
    rename_i e
    cases e <;> first | rfl | cases hp
  | _ => rfl

/-- The call ends its wait with nobody left only if the filament counts nobody. -/
lemma joinedAll (h : Goes reg f limit 0 p w φ w') (hx : w.roster.filaments.get? f = some x)
    (hφ : φ.joinedAll = true) :
    p.phase.joinedAll = true ∨ x.running = 0 ∧ ∃ e, p.phase = .caught e := by
  cases h with
  | joins _ hx' hjoin =>
    obtain rfl := Option.some.inj (hx.symm.trans hx')
    refine .inr ⟨?_, _, rfl⟩
    rw [Filament.join] at hjoin
    split at hjoin
    · assumption
    · cases hjoin
  | unbinds hending | unbindsNothing hending =>
    refine .inl ?_
    cases hp : p.phase <;> rw [hp] at hending <;> cases hending
    · rename_i late _
      cases late <;> first | rfl | cases hφ
    · cases hφ
  | releases =>
    rename_i e
    cases e with
    | child => cases hφ
    | call e late o => cases late <;> first | exact .inl rfl | cases hφ
  | settles => exact .inl rfl
  | _ => cases hφ

/-- Only a call whose wait cannot be timed unwinds from it. -/
lemma stranded (h : Goes reg f limit i p w φ w') (hφ : φ.isStranded = true) : ¬ limit.Timed := by
  cases h <;> first | assumption | cases hφ

/-- The calling thread takes no note of its own outcome, and settles on the worst one that it knows
of. -/
lemma verdict (h : Goes reg f limit 0 p w φ w') (hx : w.roster.filaments.get? f = some x)
    (hp : p.phase.exit? = none) :
    φ.exit? = none ∧ φ.hasReported = p.phase.hasReported ∧
      ∀ e late o, φ.verdict? = some (e, late, o) → p.phase.verdict? = some (e, late, o) ∨
        (late = false ∧ o = e.caught.toOutcome.worst x.childOutcome) ∨
        (late = true ∧ Outcome.failed ≤ o) := by
  cases h with
  | settles hx' =>
    obtain rfl := Option.some.inj (hx.symm.trans hx')
    refine ⟨rfl, rfl, fun e late o hverdict => .inr (.inl ?_)⟩
    cases hverdict
    exact ⟨rfl, rfl⟩
  | settlesLate hx' =>
    refine ⟨rfl, rfl, fun e late o hverdict => .inr (.inr ?_)⟩
    cases hverdict
    rw [worst_eq_max, worst_eq_max]
    exact ⟨rfl, (le_max_right _ Outcome.failed).trans (le_max_left _ _)⟩
  | unbinds hending | unbindsNothing hending =>
    cases hφ : p.phase <;> rw [hφ] at hending hp <;> cases hending
    · exact ⟨rfl, by rename_i late _; cases late <;> rfl, fun _ _ _ h => .inl h⟩
    · cases hp
  | releases =>
    rename_i e
    cases e with
    | child => cases hp
    | call e late o => exact ⟨rfl, by cases late <;> rfl, fun _ _ _ h => .inl h⟩
  | _ => exact ⟨rfl, rfl, fun _ _ _ h => nomatch h⟩

end Goes

end Testbench.Crew
