import Testbench.Proofs.Accounts
import Testbench.Proofs.Crew.Program
import Testbench.Proofs.Guests.Reports
import Testbench.Proofs.Guests.State

/-!
# What guests do

Test code that reports, and that starts threads and sees them end, moves guests and nothing else:
this is so for each of the things that test code does, and for what is made of such things.
-/

namespace Testbench.Guests

open World

variable {ρ ε α β : Type} {reg : RegistryId} {base : List Binding} {d : Option FilamentId}
  {s s₀ : State ρ ε} {t : ThreadId} {φ : Stage} {w w' : World ρ ε}

/-! ### Steps in a row -/

lemma Untouched.of_roster (hroster : w'.roster = w.roster)
    (hthreads : w'.threads.items.size = w.threads.items.size) : Untouched reg w w' where
  threads := Nat.le_of_eq hthreads.symm
  registry := by rw [hroster]
  adoptions a ha _ _ := hroster ▸ ha

/-- A change of filaments is nothing to the registries. -/
lemma Untouched.of_registries {r : Roster} (hregistries : r.registries = w.roster.registries)
    (hadoptions : r.adoptions = w.roster.adoptions) :
    Untouched reg w { w with roster := r } where
  threads := Nat.le_refl _
  registry := by rw [hregistries]
  adoptions a ha _ _ := hadoptions ▸ ha

/-- Making a binding counts a child at most. -/
lemma Untouched.of_prepare {b : Binding} {r : Roster}
    (h : w.roster.prepare b = (.ok (), r)) : Untouched reg w { w with roster := r } :=
  .of_registries ((congrArg (·.2.registries) h).symm.trans (Roster.prepare_registries ..))
    ((congrArg (·.2.adoptions) h).symm.trans (Roster.prepare_adoptions ..))

lemma Runs.elsewhere (h : Runs reg s₀ s) (hw : Untouched reg s.world w) :
    Runs reg s₀ ⟨w, s.stage⟩ := h.tail (.elsewhere hw)

lemma Runs.quiet (h : Runs reg s₀ s) (hw : Quiet s.world w) : Runs reg s₀ ⟨w, s.stage⟩ :=
  h.elsewhere (.of_roster hw.roster hw.threads)

lemma State.move_same (h : s.stage t = φ) (w : World ρ ε) : s.move t φ w = ⟨w, s.stage⟩ := by
  rw [State.move, ← h, Function.update_eq_self]

lemma State.move_move (s : State ρ ε) (t : ThreadId) (φ ψ : Stage) (w w' : World ρ ε) :
    (s.move t φ w).move t ψ w' = s.move t ψ w' := by
  rw [State.move, State.move, Function.update_idem]
  rfl

/-- The running thread is a guest, or bound without being one. -/
def Placed (base : List Binding) (s : State ρ ε) : Prop :=
  s.stage s.world.current ≠ .away ∨ s.world.current ∈ base.map Binding.thread

/-! ### Conduct -/

/-- Whatever is done on a thread that is in its place and stays there, unless it runs out of room,
moves guests only, and takes them from the stages `p` to `q`. -/
def Settles (reg : RegistryId) (m : Act ρ ε α) (p q : ThreadId → Stage) : Prop :=
  ∀ base d w, Keeps reg base d ⟨w, p⟩ → Placed base ⟨w, p⟩ → Placed base ⟨w, q⟩ →
    (m w).1 ≠ .error .exhausted → Runs reg ⟨w, p⟩ ⟨(m w).2, q⟩ ∧ (m w).2.current = w.current

/-- Whatever is done moves guests only, and all that it brings, and nobody else, have ended in the
end. -/
def Conducts (reg : RegistryId) (m : Act ρ ε α) : Prop := ∀ p, Settles reg m p p

/-- What is caught is done all the same. -/
lemma Settles.attempt {m : Act ρ ε α} {p q : ThreadId → Stage} (hm : Settles reg m p q) :
    Settles reg m.attempt p q := by
  intro base d w hs hplaced hstays hroom
  rw [Flow.attempt_snd]
  refine hm base d w hs hplaced hstays fun h => hroom ?_
  rw [Flow.attempt]
  rcases hms : m w with ⟨r, w'⟩
  rw [hms] at h
  cases h
  rfl

lemma Settles.of_attempt {m : Act ρ ε α} {p q : ThreadId → Stage} (hm : Settles reg m p q)
    (hs : Keeps reg base d ⟨w, p⟩) (hplaced : Placed base ⟨w, p⟩) (hstays : Placed base ⟨w, q⟩)
    {result : Except Payload α} (h : m.attempt w = (.ok result, w')) :
    Runs reg ⟨w, p⟩ ⟨w', q⟩ ∧ w'.current = w.current := by
  have hsettles := hm.attempt base d w hs hplaced hstays
  rw [h] at hsettles
  exact hsettles nofun

namespace Conducts

lemma of_quietly {m : Act ρ ε α} (hm : Quietly m) : Conducts reg m := by
  intro p base d w _ _ _ _
  obtain ⟨a, w', h, hquiet⟩ := hm w
  rw [h]
  exact ⟨Runs.quiet .refl hquiet, hquiet.current⟩

lemma pure (a : α) : Conducts reg (Pure.pure a : Act ρ ε α) := of_quietly (.pure a)

lemma unwind (payload : Payload) : Conducts reg (Flow.unwind payload : Act ρ ε α) :=
  fun _ _ _ _ _ _ _ _ => ⟨.refl, rfl⟩

lemma bind {m : Act ρ ε α} {k : α → Act ρ ε β} (hm : Conducts reg m)
    (hk : ∀ a, Conducts reg (k a)) : Conducts reg (m >>= k) := by
  intro p base d w hs hplaced _ hroom
  rcases h : m w with ⟨e | a, w₁⟩
  · rw [Flow.bind_error h] at hroom ⊢
    have := hm p base d w hs hplaced hplaced
    rw [h] at this
    exact this fun heq => hroom (congrArg _ (Except.error.inj heq))
  · rw [Flow.bind_ok h] at hroom ⊢
    obtain ⟨hruns, hcurrent⟩ := hm p base d w hs hplaced hplaced (by rw [h]; nofun)
    rw [h] at hruns hcurrent
    have hplaced' : Placed base ⟨w₁, p⟩ := by
      rw [Placed, hcurrent]
      exact hplaced
    obtain ⟨hruns', hcurrent'⟩ := hk a p base d w₁ (hs.runs hruns) hplaced' hplaced' hroom
    exact ⟨hruns.trans hruns', hcurrent'.trans hcurrent⟩

/-- A change of filaments, of observers or of what the routines keep. -/
lemma step {g : World ρ ε → α × World ρ ε}
    (hregistries : ∀ w, (g w).2.roster.registries = w.roster.registries)
    (hadoptions : ∀ w, (g w).2.roster.adoptions = w.roster.adoptions)
    (hcurrent : ∀ w, (g w).2.current = w.current)
    (hthreads : ∀ w, (g w).2.threads.items.size = w.threads.items.size) :
    Conducts reg (Flow.step g) := by
  intro p base d w _ _ _ _
  refine ⟨Runs.elsewhere .refl ⟨?_, ?_, ?_⟩, hcurrent _⟩
  · exact Nat.le_of_eq (hthreads w).symm
  · rw [Flow.step_apply, hregistries]
  · intro a ha _ _
    rw [Flow.step_apply, hadoptions]
    exact ha

lemma changeFilament (f : FilamentId) (g : Filament → Filament) :
    Conducts reg (World.changeFilament f g : Act ρ ε Unit) :=
  step (fun _ => rfl) (fun _ => rfl) (fun _ => rfl) fun _ => rfl

end Conducts

/-! ### Reporting -/

/-- A thread in its place that asks for it is known by its binding, or else a guest that its first
report may bind. -/
lemma Keeps.placed (h : Keeps reg base d s) (hplaced : Placed base s) :
    s.stage s.world.current = .present ∨
      ∃ b, (s.world.roster.table reg).lookup? s.world.current = some b := by
  have hfound (b : Binding) (hb : b ∈ (s.world.roster.table reg).bindings)
      (heq : b.thread = s.world.current) :
      ∃ b, (s.world.roster.table reg).lookup? s.world.current = some b :=
    ⟨b, (ThreadTable.lookup?_eq_some_iff h.fits).mpr ⟨hb, heq⟩⟩
  cases hstage : s.stage s.world.current with
  | present => exact .inl rfl
  | seated =>
    obtain ⟨b, hb, heq⟩ := h.seated _ hstage
    exact .inr (hfound b hb heq)
  | away =>
    rcases hplaced with hguest | hbase
    · exact absurd hstage hguest
    · obtain ⟨b, hb, heq⟩ := List.mem_map.mp hbase
      exact .inr (hfound b (List.mem_of_mem_filter (h.others.mem_iff.mpr hb)) heq)

/-- Of being adopted, nothing is left but the binding; who is turned away leaves nothing. -/
lemma adopt_runs (ht : s.stage t = .present) :
    Runs reg s ⟨{ s.world with roster := (s.world.roster.adopt reg t).2 }, s.stage⟩ := by
  rw [Roster.adopt]
  cases hf : s.world.roster.default? reg with
  | none => exact .refl
  | some f =>
    rcases s.world.roster.attach_cases reg ⟨t, f, false⟩ with ⟨why, r₁, hprepare, hattach⟩ |
      ⟨r₁, hprepare, ⟨r₂, hbind, hattach⟩ | ⟨why, r₂, hbind, hattach⟩⟩
    · have hsame := Accounts.attach_error_eq hattach
      dsimp only
      rw [hattach, hsame]
      exact .refl
    · have hmade : Untouched reg s.world { s.world with roster := r₁ } := .of_prepare hprepare
      have hdefault : r₁.default? reg = some f :=
        (table_of_get? hmade.registry).2.trans hf
      have hstep := (Runs.elsewhere .refl hmade).tail (.adopts ht hdefault hbind)
      rw [State.move_same (s := ⟨{ s.world with roster := r₁ }, s.stage⟩) ht] at hstep
      dsimp only
      rw [hattach]
      exact hstep
    · have hsame := Accounts.attach_error_eq hattach
      dsimp only
      rw [hattach, hsame]
      exact .refl

lemma membership_eq (w : World ρ ε) (reg : RegistryId) (derive : Bool) :
    membership reg derive w = (.ok (w.roster.current reg w.current derive).1,
      { w with roster := (w.roster.current reg w.current derive).2 }) :=
  withRegistry_eq w reg (·.current reg w.current derive)

/-- Nobody is bound who only asks. -/
lemma current_false (r : Roster) (reg : RegistryId) (t : ThreadId) :
    (r.current reg t false).2 = r := by
  rw [Roster.current]
  cases r.member? reg t <;> rfl

namespace Conducts

lemma membership (derive : Bool) :
    Conducts reg (World.membership reg derive : Act ρ ε (Except FilamentError Member)) := by
  intro p base d w hs hplaced _ _
  let s : State ρ ε := ⟨w, p⟩
  rw [membership_eq]
  refine ⟨?_, rfl⟩
  have hsame (h : (s.world.roster.current reg s.world.current derive).2 = s.world.roster) :
      Runs reg s ⟨{ s.world with
        roster := (s.world.roster.current reg s.world.current derive).2 }, s.stage⟩ := by
    rw [h]
    exact .refl
  rcases hs.placed hplaced with hpresent | ⟨b, hb⟩
  · cases derive with
    | false => exact hsame (current_false ..)
    | true =>
      rw [Roster.current]
      cases s.world.roster.member? reg s.world.current with
      | some m => exact .refl
      | none => exact adopt_runs hpresent
  · refine hsame ?_
    rw [Roster.current, Roster.member?, hb]
    rfl

/-- To report moves guests, and nothing else. -/
theorem closed : Reports.Closed (ρ := ρ) (ε := ε) reg (Conducts reg) where
  quiet := of_quietly
  unwind := unwind
  membership := membership
  setValue f tag v := changeFilament f (·.setValue tag v)
  bind := bind

end Conducts

end Testbench.Guests
