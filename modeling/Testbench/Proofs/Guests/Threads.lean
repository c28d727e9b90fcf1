import Testbench.Proofs.Guests.Program

/-!
# Guests from their coming to their end

A child comes, binds itself, does what it is to do, notes how it came out, unbinds itself and ends;
an anonymous thread comes, does what it is to do, and ends.  Each half of a child's life is a run of
its own: between the two others may take any steps, and what it does may bring others to their end.
-/

namespace Testbench.Guests

open World

variable {ρ ε α β : Type} {reg : RegistryId} {base : List Binding} {d : Option FilamentId}
  {s s₀ s₁ : State ρ ε} {t : ThreadId} {f : FilamentId} {φ : Stage} {w w' : World ρ ε}

/-! ### Coming -/

/-- A guest that attaches itself has a seat, or leaves nothing behind. -/
lemma attach_runs (reg : RegistryId) (f : FilamentId) (hcurrent : s.world.current = t)
    (ht : s.stage t = .present) :
    ∃ answer w, World.attach reg f s.world = (.ok answer, w) ∧ w.current = t ∧
      Runs reg s (s.move t (if answer = .ok () then .seated else .present) w) := by
  subst hcurrent
  have hattach := withRegistry_eq s.world reg (·.attach reg ⟨s.world.current, f, true⟩)
  refine ⟨_, _, hattach, rfl, ?_⟩
  rcases s.world.roster.attach_cases reg ⟨s.world.current, f, true⟩ with
    ⟨why, r₁, hprepare, heq⟩ | ⟨r₁, hprepare, ⟨r₂, hbind, heq⟩ | ⟨why, r₂, hbind, heq⟩⟩
  · have hsame := Accounts.attach_error_eq heq
    rw [heq, hsame, if_neg nofun, State.move_same ht]
    exact .refl
  · rw [heq, if_pos rfl]
    exact (Runs.elsewhere .refl (.of_prepare hprepare)).tail (.sits ht hbind)
  · have hsame := Accounts.attach_error_eq heq
    rw [heq, hsame, if_neg nofun, State.move_same ht]
    exact .refl

/-- A guest that detaches itself gives its seat back. -/
lemma detach_runs (reg : RegistryId) (hcurrent : s.world.current = t)
    (ht : s.stage t = .seated) :
    ∃ w, World.detach reg s.world = (.ok (), w) ∧ w.current = t ∧
      Runs reg s (s.move t .present w) := by
  subst hcurrent
  have hdetach := withRegistry_eq s.world reg (fun r => ((), r.detach reg s.world.current))
  refine ⟨_, hdetach, rfl, ?_⟩
  rw [Roster.detach]
  rcases hunbind : s.world.roster.onTable reg none (·.unbind s.world.current) with ⟨- | b, r⟩
  · exact .single (.rises ht hunbind)
  · have hrises : Runs reg s _ := .single (.rises ht hunbind)
    refine hrises.elsewhere (.of_registries ?_ ?_)
    · exact Roster.release_registries r b
    · exact Roster.release_adoptions r b

lemma enrol_runs (reg : RegistryId) (f : FilamentId) (hcurrent : s.world.current = t)
    (ht : s.stage t = .present) :
    ∃ answer w, Child.enrol reg f s.world = (.ok answer, w) ∧
      Runs reg s (s.move t (if answer = .ok () then .seated else .present) w) := by
  obtain ⟨answer, w, hattach, -, hruns⟩ := attach_runs reg f hcurrent ht
  rw [Child.enrol, Flow.bind_ok hattach]
  rcases answer with why | ⟨⟩
  · exact ⟨_, w, rfl, hruns⟩
  · exact ⟨.ok (), _, rfl, hruns.elsewhere (.of_roster rfl rfl)⟩

/-- What a guest that ends leaves behind. -/
lemma Runs.ends (h : Runs reg s₀ (s.move t .present w)) :
    Runs reg s₀ (s.move t .away (World.endThread t w).2) := by
  have hstep := h.tail (.ends (s.move_stage_self t .present w))
  rwa [State.move_move] at hstep

/-- A child is started, or nothing is left of it. -/
theorem start_runs (hs : Keeps reg base d s) :
    ∃ answer w, Child.start reg s.world = (.ok answer, w) ∧ w.current = s.world.current ∧
      ((∃ why, answer = .error why ∧ Runs reg s ⟨w, s.stage⟩) ∨
        ∃ t f, answer = .ok ⟨t, reg, f⟩ ∧ s.stage t = .away ∧
          Runs reg s (s.move t .seated w)) := by
  have hmember := membership_eq s.world reg false
  rw [current_false] at hmember
  rw [Child.start, Flow.bind_ok hmember]
  cases (s.world.roster.current reg s.world.current false).1 with
  | error why => exact ⟨_, _, rfl, rfl, .inl ⟨_, rfl, .refl⟩⟩
  | ok m =>
    obtain ⟨o, ho⟩ : ∃ o, observerOf m.filament s.world = (.ok o, s.world) := ⟨_, rfl⟩
    obtain ⟨answer, w₁, htell, hquiet⟩ := Quietly.tell o ThreadStart.started
      (fun x => (x.threadStart, x)) s.world
    have htold : Runs reg s ⟨w₁, s.stage⟩ := Runs.quiet .refl hquiet
    obtain ⟨t, w₂, hnew⟩ : ∃ t w₂, newThread w₁ = (.ok t, w₂) := ⟨_, _, rfl⟩
    have haway : s.stage t = .away := (hs.runs htold).away_of_newThread hnew
    have hcame : Runs reg s (s.move t .present w₂) := htold.tail (.comes hnew)
    have hcurrent₂ : w₂.current = s.world.current := by
      refine .trans ?_ hquiet.current
      cases hnew
      rfl
    dsimp only
    rw [Flow.bind_ok ho, Flow.bind_ok htell]
    cases answer with
    | refused why => exact ⟨_, _, rfl, hquiet.current, .inl ⟨_, rfl, htold⟩⟩
    | dropped =>
      dsimp only
      rw [Flow.bind_ok hnew]
      refine ⟨_, _, rfl, hcurrent₂, .inl ⟨_, rfl, ?_⟩⟩
      have hended := hcame.ends
      rwa [State.move_same haway] at hended
    | started =>
      dsimp only
      rw [Flow.bind_ok hnew]
      have henters : Runs reg s (s.move t .present { w₂ with current := t }) :=
        hcame.elsewhere (.of_roster rfl rfl)
      obtain ⟨answer, w₃, henrol, hruns⟩ := enrol_runs reg m.filament (t := t)
        (s := s.move t .present { w₂ with current := t }) rfl (s.move_stage_self ..)
      rw [State.move_move] at hruns
      have hback := Runs.elsewhere (w := { w₃ with current := w₂.current }) (henters.trans hruns)
        (.of_roster rfl rfl)
      rw [Flow.bind_ok (asThread_ok henrol)]
      rcases answer with why | ⟨⟩
      · refine ⟨_, _, rfl, hcurrent₂, .inl ⟨_, rfl, ?_⟩⟩
        have hended := Runs.ends hback
        rwa [State.move_same haway] at hended
      · exact ⟨_, _, rfl, hcurrent₂, .inr ⟨t, m.filament, rfl, haway, hback⟩⟩

/-! ### Ending -/

/-- A thread that runs out of room has its caller run out of it. -/
lemma asThread_exhausted {m : Act ρ ε α} (h : m { w with current := t } = (.error .exhausted, w')) :
    asThread t m w = (.error .exhausted, w') := by
  have hself : self w = (.ok w.current, w) := rfl
  rw [asThread, Flow.bind_ok hself, Flow.bind_ok (Flow.change_apply _ w), Flow.ensuring]
  refine Flow.bind_error ?_
  rw [Flow.attempt, h]

/-- What a child does last, whatever its observer says. -/
lemma conclude_runs (reg : RegistryId) (f : FilamentId) (hcurrent : s.world.current = t)
    (ht : s.stage t = .seated) (before : Bool) (result : Except Payload Unit) :
    ∃ payload w, Child.conclude ⟨t, reg, f⟩ before result s.world = (.ok payload, w) ∧
      Runs reg s (s.move t .present w) := by
  obtain ⟨i, hidentity⟩ : ∃ i, identityIn f s.world = (.ok i, s.world) := ⟨_, rfl⟩
  obtain ⟨caught, w₁, hleave, -, hquiet⟩ := Crew.leave_stands f i before result s.world
  obtain ⟨o, ho⟩ : ∃ o, observerOf f w₁ = (.ok o, w₁) := ⟨_, rfl⟩
  obtain ⟨w₂, hinform, hquiet₂⟩ : ∃ w₂, inform o (·.childFinished i) w₁ = (.ok (), w₂) ∧
      Quiet w₁ w₂ := ⟨_, rfl, rfl, rfl, rfl⟩
  have htold : Runs reg s ⟨w₂, s.stage⟩ := Runs.quiet .refl (hquiet.trans hquiet₂)
  have hcurrent₂ : w₂.current = t := (hquiet₂.current.trans hquiet.current).trans hcurrent
  -- noting the outcome changes the filament and nothing else
  have hlast {w₃ : World ρ ε} (huntouched : Untouched reg w₂ w₃)
      (hcurrent₃ : w₃.current = w₂.current) :
      ∃ w₄, World.detach reg w₃ = (.ok (), w₄) ∧ Runs reg s (s.move t .present w₄) := by
    obtain ⟨w₄, hdetach, -, hrises⟩ := detach_runs reg (s := ⟨w₃, s.stage⟩)
      (hcurrent₃.trans hcurrent₂) ht
    exact ⟨w₄, hdetach, (htold.elsewhere huntouched).trans hrises⟩
  rw [Child.conclude, Flow.bind_ok hidentity, Flow.bind_ok hleave, Flow.bind_ok ho,
    Flow.bind_ok hinform]
  cases caught with
  | outcome o =>
    obtain ⟨w₃, hnote, huntouched, hcurrent₃⟩ : ∃ w₃, changeFilament f (·.note o) w₂
        = (.ok (), w₃) ∧ Untouched reg w₂ w₃ ∧ w₃.current = w₂.current :=
      ⟨_, rfl, .of_registries rfl rfl, rfl⟩
    obtain ⟨w₄, hdetach, hruns⟩ := hlast huntouched hcurrent₃
    exact ⟨none, w₄, (Flow.bind_ok hnote).trans (Flow.bind_ok hdetach), hruns⟩
  | reraise payload =>
    obtain ⟨w₄, hdetach, hruns⟩ := hlast (.of_roster rfl rfl) rfl
    exact ⟨some payload, w₄, Flow.bind_ok hdetach, hruns⟩

/-- A child runs to its end, and with it whoever ends meanwhile. -/
theorem finish_runs {body : Act ρ ε Unit} {q : ThreadId → Stage}
    (hbody : Settles reg body s.stage q) (hs : Keeps reg base d s) (ht : s.stage t = .seated)
    (hq : q t = .seated)
    (hroom : (Child.finish ⟨t, reg, f⟩ body s.world).1 ≠ .error .exhausted) :
    ∃ payload w, Child.finish ⟨t, reg, f⟩ body s.world = (.ok payload, w) ∧
      w.current = s.world.current ∧ Runs reg s ⟨w, Function.update q t .away⟩ := by
  obtain ⟨before, w₁, henter, hquiet⟩ := Crew.enter_quietly f { s.world with current := t }
  have hentered : Runs reg s ⟨w₁, s.stage⟩ :=
    Runs.elsewhere .refl (.of_roster hquiet.roster hquiet.threads)
  have hcurrent₁ : w₁.current = t := hquiet.current
  have hguest {p : ThreadId → Stage} (hp : p t = .seated) : Placed base ⟨w₁, p⟩ :=
    .inl (by simp [hcurrent₁, hp])
  rcases hattempt : body.attempt w₁ with ⟨e | result, w₂⟩
  · obtain rfl := Flow.attempt_error hattempt
    have hlife := asThread_exhausted (w := s.world) (t := t) (m := do
      let before ← Boundary.enter f
      let result ← body.attempt
      Child.conclude ⟨t, reg, f⟩ before result)
      ((Flow.bind_ok henter).trans (Flow.bind_error hattempt))
    rw [Child.finish, Flow.bind_error hlife] at hroom
    exact absurd rfl hroom
  · obtain ⟨hplayed, hcurrent⟩ :=
      hbody.of_attempt (hs.runs hentered) (hguest ht) (hguest hq) hattempt
    obtain ⟨payload, w₃, hconclude, hconcluded⟩ := conclude_runs reg f (t := t)
      (s := ⟨w₂, q⟩) (hcurrent.trans hcurrent₁) hq before result
    have hlife : asThread t (do
        let before ← Boundary.enter f
        let result ← body.attempt
        Child.conclude ⟨t, reg, f⟩ before result) s.world = (.ok payload, _) :=
      asThread_ok ((Flow.bind_ok henter).trans ((Flow.bind_ok hattempt).trans hconclude))
    have hback := Runs.elsewhere (w := { w₃ with current := s.world.current })
      ((hentered.trans hplayed).trans hconcluded) (.of_roster rfl rfl)
    refine ⟨payload, _, ?_, ?_, Runs.ends (s := ⟨w₂, q⟩) hback⟩
    · rw [Child.finish, Flow.bind_ok hlife]
      rfl
    · rfl

/-- An anonymous thread runs to its end, and with it whoever ends meanwhile. -/
theorem anonymous_runs {body : Act ρ ε Unit} {q : ThreadId → Stage}
    (hbody : Settles reg body s.stage q) (hs : Keeps reg base d s) (ht : s.stage t = .present)
    (hq : q t = .present)
    (hroom : (Child.anonymous t body s.world).1 ≠ .error .exhausted) :
    ∃ payload w, Child.anonymous t body s.world = (.ok payload, w) ∧
      w.current = s.world.current ∧ Runs reg s ⟨w, Function.update q t .away⟩ := by
  let w₁ : World ρ ε := { s.world with current := t }
  have hentered : Runs reg s ⟨w₁, s.stage⟩ := Runs.elsewhere .refl (.of_roster rfl rfl)
  have hguest {p : ThreadId → Stage} (hp : p t = .present) : Placed base ⟨w₁, p⟩ :=
    .inl (by simp [w₁, hp])
  rcases hattempt : body.attempt w₁ with ⟨e | result, w₂⟩
  · obtain rfl := Flow.attempt_error hattempt
    rw [Child.anonymous, Flow.bind_error (asThread_exhausted hattempt)] at hroom
    exact absurd rfl hroom
  · obtain ⟨hplayed, -⟩ :=
      hbody.of_attempt (hs.runs hentered) (hguest ht) (hguest hq) hattempt
    have hback := Runs.elsewhere (w := { w₂ with current := s.world.current })
      (hentered.trans hplayed) (.of_roster rfl rfl)
    rw [← State.move_same (s := ⟨w₂, q⟩) hq] at hback
    have hended := Runs.ends hback
    rw [Child.anonymous, Flow.bind_ok (asThread_ok hattempt)]
    cases result with
    | ok u => exact ⟨none, _, rfl, rfl, hended⟩
    | error payload => exact ⟨some payload, _, rfl, rfl, hended⟩

end Testbench.Guests
