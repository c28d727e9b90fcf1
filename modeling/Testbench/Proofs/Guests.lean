import Testbench.Proofs.Guests.Fixture
import Testbench.Proofs.Guests.Schedule

/-!
# Registries are given back

A call gives its registry back as it found it: either it was refused and did nothing, or the thread
that called is not bound, and all others are as they were.  The run of a fixture does so too, and in
any case there is the default filament that was there before, or none if there was none.

This is so of every registry that can come about, and of all routines whose threads are guests, as
soon as the last of them has ended.  It takes a limit that the clock can time: with any other one a
call that was not refused unwinds from its wait, and the thread that called stays bound.
-/

namespace Testbench.Guests

open World

variable {ρ ε α β : Type} {reg : RegistryId} {guests : ε → ThreadId → Stage} {w w' : World ρ ε}

/-- A registry binds the same threads to the same filaments as before, and has the default filament
that it had. -/
structure Restored (reg : RegistryId) (w w' : World ρ ε) : Prop where
  lookup?_eq : ∀ t, (w'.roster.table reg).lookup? t = (w.roster.table reg).lookup? t
  default?_eq : w'.roster.default? reg = w.roster.default? reg

/-- How a call gives a registry back. One that was refused has touched no registry at all. -/
def GivenBack (reg : RegistryId) (w : World ρ ε) (result : Except Payload (Except α β))
    (w' : World ρ ε) : Prop :=
  match result with
  | .ok (.error _) => w'.roster.registries = w.roster.registries
  | .ok (.ok _) | .error _ =>
    (w'.roster.table reg).lookup? w.current = none ∧ Restored reg w w'

/-- The thread that runs is bound in addition, and it was not before. -/
structure LeftBound (reg : RegistryId) (w w' : World ρ ε) : Prop where
  free : (w.roster.table reg).lookup? w.current = none
  bound : ∃ f, (w'.roster.table reg).lookup? w.current = some ⟨w.current, f, true⟩
  lookup?_eq : ∀ t, t ≠ w.current → (w'.roster.table reg).lookup? t = (w.roster.table reg).lookup? t
  default?_eq : w'.roster.default? reg = w.roster.default? reg

/-- How a call leaves a registry whose wait the clock cannot time. -/
def Stranded (reg : RegistryId) (w : World ρ ε) (result : Except Payload (Except α β))
    (w' : World ρ ε) : Prop :=
  match result with
  | .ok (.error _) => w'.roster.registries = w.roster.registries
  | .ok (.ok _) => False
  | .error payload => payload = untimed ∧ LeftBound reg w w'

/-- Test code that reports and starts threads, which end in any order, hosts its guests. -/
theorem Schedules.hosts {m : Act ρ ε Unit} (h : Schedules reg [] m) :
    Hosts reg (fun _ _ => .away) m := h.conducts.hosts

/-- Before anything is called, nobody is a guest. -/
lemma Orderly.stands (h : Orderly w) (reg : RegistryId) (haway : ∀ t, guests w.store t = .away) :
    Stands reg guests (w.roster.table reg).bindings (w.roster.default? reg) w.current w where
  keeps := by
    rw [funext haway]
    exact h.keeps reg
  current_eq := rfl
  away := haway w.current
  lt := h.current_lt

lemma Orderly.restored (h : Orderly w)
    (hperm : (w'.roster.table reg).bindings.Perm (w.roster.table reg).bindings)
    (hdefault : w'.roster.default? reg = w.roster.default? reg) : Restored reg w w' where
  lookup?_eq := ThreadTable.lookup?_of_perm (h.fits reg) hperm.symm
  default?_eq := hdefault

lemma Orderly.leftBound {f : FilamentId} (h : Orderly w) (hfits : (w'.roster.table reg).Fits)
    (hperm : (w'.roster.table reg).bindings.Perm
      (⟨w.current, f, true⟩ :: (w.roster.table reg).bindings))
    (hdefault : w'.roster.default? reg = w.roster.default? reg) : LeftBound reg w w' where
  free := by
    have hnodup := (hperm.map Binding.thread).nodup_iff.mp hfits.distinct
    exact ThreadTable.lookup?_eq_none_iff.mpr fun b hb heq =>
      (List.nodup_cons.mp hnodup).1 (List.mem_map.mpr ⟨b, hb, heq⟩)
  bound := ⟨f, (ThreadTable.lookup?_eq_some_iff hfits).mpr
    ⟨hperm.mem_iff.mpr List.mem_cons_self, rfl⟩⟩
  lookup?_eq t ht := by
    refine Option.ext fun b => ?_
    rw [ThreadTable.lookup?_eq_some_iff hfits, ThreadTable.lookup?_eq_some_iff (h.fits reg),
      hperm.mem_iff, List.mem_cons]
    constructor
    · rintro ⟨rfl | hb, hthread⟩
      · exact absurd hthread.symm ht
      · exact ⟨hb, hthread⟩
    · exact fun ⟨hb, hthread⟩ => ⟨.inr hb, hthread⟩
  default?_eq := hdefault

section

variable {limit : Duration} {result : Except Payload (Except α β)}

/-- Once all guests have ended, a call has given its registry back, -/
lemma Called.givenBack (h : Orderly w) (hlimit : limit.Timed)
    (hcalled : Called reg guests (w.roster.table reg).bindings (w.roster.default? reg) limit w
      result w') (haway : ∀ t, guests w'.store t = .away) : GivenBack reg w result w' := by
  have hrestored (hstands : Stands reg guests (w.roster.table reg).bindings
      (w.roster.default? reg) w.current w') : Restored reg w w' :=
    h.restored (hstands.keeps.perm haway) hstands.keeps.default_eq
  cases hcalled with
  | refused why _ hsame => exact hsame
  | returned b _ h hfree => exact ⟨ThreadTable.lookup?_eq_none_iff.mpr hfree, hrestored h⟩
  | unwound payload _ h hfree => exact ⟨ThreadTable.lookup?_eq_none_iff.mpr hfree, hrestored h⟩
  | stranded f huntimed => exact absurd hlimit huntimed

/-- unless the clock cannot time its wait. -/
lemma Called.stranding (h : Orderly w) (hlimit : ¬ limit.Timed)
    (hcalled : Called reg guests (w.roster.table reg).bindings (w.roster.default? reg) limit w
      result w') (haway : ∀ t, guests w'.store t = .away) : Stranded reg w result w' := by
  cases hcalled with
  | refused why _ hsame => exact hsame
  | returned b htimed => exact absurd htimed hlimit
  | unwound payload htimed => exact absurd htimed hlimit
  | stranded f _ hstands =>
    exact ⟨rfl, h.leftBound hstands.keeps.fits (hstands.keeps.perm haway)
      hstands.keeps.default_eq⟩

end

/-- Whatever routines do with their guests: a call of a routine gives the registry back, and so does
a call of a driver's routine, as soon as all guests have ended; and the run of a fixture, however it
ends, leaves the registry as it was.  With a limit that the clock cannot time, no call returns that
was not refused: it unwinds and leaves the thread bound, and a run may do so too. -/
theorem registry_given_back (hw : Reachable w) (reg : RegistryId) (guests : ε → ThreadId → Stage)
    (hstart : ∀ t, guests w.store t = .away) :
    (∀ (f : FilamentId) (limit : Duration) (routine : Act ρ ε Unit), Hosts reg guests routine →
      ∀ result w', (Boundary.call reg f limit routine).attempt w = (.ok result, w') →
        (∀ t, guests w'.store t = .away) →
        (limit.Timed → GivenBack reg w result w') ∧
        (¬ limit.Timed → Stranded reg w result w')) ∧
    (∀ (exec : Routines ρ ε) (c : ConnectionId) (limit : Duration) (fixture routine : UInt16)
      (channel : ObserverId) (value : UInt64),
      (∀ x, w.device.get? c = some x → x.registry = reg ∧ x.joinLimit = limit ∧
        ∀ r, x.routines.routine? fixture routine = some r → Hosts reg guests (exec r)) →
      Hosts reg guests exec.others →
      ∀ result w', (Driver.call exec c fixture routine channel value).attempt w
          = (.ok result, w') →
        (∀ t, guests w'.store t = .away) →
        (limit.Timed → GivenBack reg w result w') ∧
        (¬ limit.Timed → Stranded reg w result w')) ∧
    ∀ (exec : ρ → Act ρ ε Unit) (o : ObserverId) (j : Job ρ), j.registry = reg →
      (∀ routine ∈ j.run.fixture.routines, Hosts reg guests (exec routine)) →
      ∀ result w', (j.perform exec o).attempt w = (.ok result, w') →
        (∀ t, guests w'.store t = .away) →
        Restored reg w w' ∨ ¬ j.run.options.joinLimit.Timed ∧ LeftBound reg w w' := by
  have horderly := hw.orderly
  have hstands := horderly.stands reg hstart
  refine ⟨?_, ?_, ?_⟩
  · intro f limit routine hroutine result w' hcall haway
    have hcalled := hstands.call hroutine f limit hcall
    exact ⟨fun hlimit => hcalled.givenBack horderly hlimit haway,
      fun hlimit => hcalled.stranding horderly hlimit haway⟩
  · intro exec c limit fixture routine channel value hconnection hothers result w' hcall haway
    have hcalled := hstands.callDriver hconnection hothers channel value hcall
    exact ⟨fun hlimit => hcalled.givenBack horderly hlimit haway,
      fun hlimit => hcalled.stranding horderly hlimit haway⟩
  · intro exec o j hj hroutines result w' hrun haway
    have hbefore : Before reg guests (w.roster.table reg).bindings (w.roster.default? reg)
        w.current w := ⟨hstands, horderly.filament_lt reg⟩
    obtain ⟨⟨left, hleft, hfits, hperm⟩, hdefault⟩ :=
      FixtureRun.leads_run (leads_host hj rfl hroutines) w result w' hbefore hrun haway
    cases hleft with
    | nobody => exact .inl (horderly.restored hperm hdefault)
    | caller hlimit f => exact .inr ⟨hlimit, horderly.leftBound hfits hperm hdefault⟩

/-! ### A house with guests -/

/-- A thread reports. -/
def greet (reg : RegistryId) : Act Unit Unit Unit := do
  let verdict ← Report.log reg "Hello"
  let _ ← verdict.apply
  return ()

/-- A routine with a child and an anonymous thread that are there at the same time. -/
def visit (reg : RegistryId) : Act Unit Unit Unit := do
  match ← Child.start reg with
  | .error _ => return ()
  | .ok child =>
    let t ← newThread
    let _ ← (greet reg).attempt
    let _ ← Child.finish child (greet reg)
    let _ ← Child.anonymous t (greet reg)
    return ()

lemma hosts_visit (reg : RegistryId) : Hosts reg (fun _ _ => .away) (visit reg) := by
  have hgreet : Conducts reg (greet reg) := (Conducts.closed.reports (.log "Hello")).bind
    fun verdict => (Conducts.closed.reports (.apply verdict)).bind fun _ => .pure ()
  have hvisit : Schedules reg [] (visit reg) := by
    refine .starts (fun _ => .plain (.pure ())) fun child f => .comes fun t => ?_
    have hfirst : [(t, Stage.present), (child, .seated)].Perm
        ([] ++ [(t, .present), (child, .seated)]) := .refl _
    have hchild : [(t, Stage.present), (child, .seated)].Perm
        ((child, .seated) :: [] ++ [(t, .present)]) := .swap ..
    have hthread : [(t, Stage.present)].Perm ((t, .present) :: [] ++ []) := .refl _
    exact .first hfirst (.plain hgreet) fun _ => .finishes hchild (.plain hgreet) fun _ =>
      .goes hthread (.plain hgreet) fun _ => .plain (.pure ())
  exact hvisit.hosts

/-- The routines of a driver whose guests are all gone when one of them is over. -/
def visiting : Routines Unit Unit where
  run _ := visit 1

lemma hosts_turn : Hosts 1 (fun _ _ => .away) visiting.others :=
  Conducts.hosts (.pure ())

/-- The connection of a driver whose only routine has guests. -/
def lodge : Connection Unit where
  address := 8
  routines := ⟨#[⟨"Lodge", #[⟨.testCase, "Visit", ()⟩]⟩]⟩
  registry := 1
  sinkVersion := Sink.version₃
  joinLimit := ⟨0⟩

/-- There are two filaments, and a thread that does not run is bound to one of them. -/
def house : World Unit Unit where
  threads := ⟨#[{}, {}]⟩
  roster :=
    { filaments := ⟨#[{ observer := 0, mainThread := 1, flags := {} },
        { observer := 0, mainThread := 0, flags := {} }]⟩
      registries := ⟨#[{ kind := .program, table := ⟨[⟨1, 0, true⟩]⟩ }, { kind := .driver }]⟩ }
  observers := ⟨#[.channel (.make ⟨.proceed, .proceed⟩ 100)]⟩
  device := { connections := ⟨#[lodge]⟩ }
  store := ()

/-- A fixture whose threads may be anonymous. -/
def visits : Job Unit where
  run := { fixture := { Fixture.blank "Visits" with
    cases := [⟨"Visit", ()⟩]
    flags := ({} : FixtureFlags).withAnonymousThreads true } }
  registry := 0

lemma reachable_house : Reachable house := by
  have hvacant : Reachable { house with
      roster := { registries := ⟨#[{ kind := .program }, { kind := .driver }]⟩ } } := by
    refine .start (Nat.zero_lt_succ _) fun reg => ?_
    match reg with
    | 0 => exact ⟨rfl, rfl⟩
    | 1 => exact ⟨rfl, rfl⟩
    | n + 2 => exact ⟨rfl, rfl⟩
  have hfilaments := (hvacant.filament 0 {} 1).filament 0 {} 0
  exact hfilaments.attach 0 ⟨1, 0, true⟩ (Nat.le_refl 2) (Nat.zero_lt_succ 1)

/-- The routine is called in a program, by a driver and in a fixture, once more by the thread that is
bound, which is refused, and once with a limit that no clock can time. -/
theorem registry_given_back_house :
    (∃ w', (Boundary.call 0 1 ⟨0⟩ (visit 0)).attempt house = (.ok (.ok (.ok .completed)), w') ∧
      (w'.roster.table 0).lookup? 0 = none ∧ Restored 0 house w') ∧
    (∃ w', (Driver.call visiting 0 0 0 0 0).attempt house
        = (.ok (.ok (.ok ⟨true, false, 0⟩)), w') ∧
      (w'.roster.table 1).lookup? 0 = none ∧ Restored 1 house w') ∧
    (∃ w', (visits.perform (fun _ => visit 0) 0).attempt house = (.ok (.ok (.ok ())), w') ∧
      Restored 0 house w') ∧
    (∃ w', (Boundary.call 0 0 ⟨0⟩ (visit 0)).attempt { house with current := 1 }
        = (.ok (.ok (.error .conflict)), w') ∧
      w'.roster.registries = house.roster.registries) ∧
    ∃ w', (Boundary.call 0 1 eternity (visit 0)).attempt house = (.ok (.error untimed), w') ∧
      LeftBound 0 house w' := by
  have hconnection (x : Connection Unit) (hx : house.device.get? 0 = some x) : x.registry = 1 ∧
      x.joinLimit = ⟨0⟩ ∧
      ∀ r, x.routines.routine? 0 0 = some r → Hosts 1 (fun _ _ => .away) (visit 1) := by
    cases hx
    exact ⟨rfl, rfl, fun _ _ => hosts_visit 1⟩
  have hbound : Reachable { house with current := 1 } :=
    reachable_house.besides (Nat.le_refl 2) (Nat.le_refl 2) (Nat.le_refl 2) rfl
  have htimed : (⟨0⟩ : Duration).Timed := by decide
  obtain ⟨hcalls, -, hruns⟩ := registry_given_back reachable_house 0 (fun _ _ => .away) fun _ => rfl
  obtain ⟨-, hdrivers, -⟩ := registry_given_back reachable_house 1 (fun _ _ => .away) fun _ => rfl
  obtain ⟨hrefused, -, -⟩ := registry_given_back hbound 0 (fun _ _ => .away) fun _ => rfl
  refine ⟨?_, ?_, ?_, ?_, ?_⟩
  · obtain ⟨w', hcall⟩ : ∃ w', (Boundary.call 0 1 ⟨0⟩ (visit 0)).attempt house
        = (.ok (.ok (.ok .completed)), w') := ends_so (by decide +kernel)
    obtain ⟨hgiven, -⟩ := hcalls 1 ⟨0⟩ (visit 0) (hosts_visit 0) _ w' hcall fun _ => rfl
    exact ⟨w', hcall, hgiven htimed⟩
  · obtain ⟨w', hcall⟩ : ∃ w', (Driver.call visiting 0 0 0 0 0).attempt house
        = (.ok (.ok (.ok ⟨true, false, 0⟩)), w') := ends_so (by decide +kernel)
    obtain ⟨hgiven, -⟩ := hdrivers visiting 0 ⟨0⟩ 0 0 0 0 hconnection hosts_turn _ w' hcall
      fun _ => rfl
    exact ⟨w', hcall, hgiven htimed⟩
  · obtain ⟨w', hrun⟩ : ∃ w', (visits.perform (fun _ => visit 0) 0).attempt house
        = (.ok (.ok (.ok ())), w') := ends_so (by decide +kernel)
    rcases hruns (fun _ => visit 0) 0 visits rfl (fun _ _ => hosts_visit 0) _ w' hrun
      (fun _ => rfl) with hrestored | ⟨huntimed, -⟩
    · exact ⟨w', hrun, hrestored⟩
    · exact absurd (by decide) huntimed
  · obtain ⟨w', hcall⟩ : ∃ w', (Boundary.call 0 0 ⟨0⟩ (visit 0)).attempt { house with current := 1 }
        = (.ok (.ok (.error .conflict)), w') := ends_so (by decide +kernel)
    obtain ⟨hgiven, -⟩ := hrefused 0 ⟨0⟩ (visit 0) (hosts_visit 0) _ w' hcall fun _ => rfl
    exact ⟨w', hcall, hgiven htimed⟩
  · obtain ⟨w', hcall⟩ : ∃ w', (Boundary.call 0 1 eternity (visit 0)).attempt house
        = (.ok (.error untimed), w') := ends_so (by decide +kernel)
    obtain ⟨-, hstranded⟩ := hcalls 1 eternity (visit 0) (hosts_visit 0) _ w' hcall fun _ => rfl
    exact ⟨w', hcall, (hstranded (by decide)).2⟩

/-- A call with a limit that no clock can time unwinds, though the routine returned and all its
threads ended, and leaves the thread bound that was not bound before; and so does a run. -/
theorem untimed_leaves_bound :
    ∃ w₁ w₂, (Boundary.call 0 1 eternity (visit 0)).attempt house = (.ok (.error untimed), w₁) ∧
      (({ visits with run := { visits.run with options.joinLimit := eternity } } : Job Unit).perform
        (fun _ => visit 0) 0).attempt house = (.ok (.error untimed), w₂) ∧
      (house.roster.table 0).lookup? 0 = none ∧
      (w₁.roster.table 0).lookup? 0 = some ⟨0, 1, true⟩ ∧
      ((w₂.roster.table 0).lookup? 0).isSome ∧
      ¬ Restored 0 house w₁ ∧ ¬ Restored 0 house w₂ := by
  let call := (Boundary.call 0 1 eternity (visit 0)).attempt house
  let run := (({ visits with run := { visits.run with options.joinLimit := eternity } }
    : Job Unit).perform (fun _ => visit 0) 0).attempt house
  have hcall : call.1 = .ok (.error untimed) := by decide +kernel
  have hrun : run.1 = .ok (.error untimed) := by decide +kernel
  have hfree : (house.roster.table 0).lookup? 0 = none := by decide +kernel
  have hcalled : (call.2.roster.table 0).lookup? 0 = some ⟨0, 1, true⟩ := by decide +kernel
  have hran : ((run.2.roster.table 0).lookup? 0).isSome = true := by decide +kernel
  refine ⟨call.2, run.2, ends_at hcall, ends_at hrun, hfree, hcalled, hran, fun h => ?_, fun h => ?_⟩
  · have heq := (h.lookup?_eq 0).symm.trans hcalled
    rw [hfree] at heq
    cases heq
  · rw [h.lookup?_eq 0, hfree] at hran
    cases hran

end Testbench.Guests
