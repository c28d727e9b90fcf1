import Testbench.Driver.Call
import Testbench.Proofs.Guests.Threads
import Testbench.Proofs.Waits

/-!
# Calls and their guests

A thread that calls a routine is bound for as long as the call takes, and is no guest. When it comes
back, whoever was there before it is there as before; guests may have come and gone meanwhile, and
some may stay on for the routines that come after.

A call whose wait the clock cannot time unwinds before it lets its thread go. That thread is then
bound in addition to whoever was there before.

Who is a guest is what the routines say: they keep an account of it among themselves, and boundaries
leave what the routines keep alone.
-/

namespace Testbench.Guests

open World

variable {ρ ε α β : Type}

/-! ### What is nothing to guests -/

/-- Something that returns and touches neither the roster nor what the routines keep. -/
def Aside (m : Act ρ ε α) : Prop :=
  ∀ w, ∃ a w', m w = (.ok a, w') ∧ Quiet w w' ∧ w'.store = w.store

namespace Aside

lemma pure (a : α) : Aside (Pure.pure a : Act ρ ε α) := fun w => ⟨a, w, rfl, .refl w, rfl⟩

lemma see (g : World ρ ε → α) : Aside (Flow.see g) := fun w => ⟨g w, w, rfl, .refl w, rfl⟩

lemma changeThread (g : Thread → Thread) : Aside (World.changeThread g : Act ρ ε Unit) :=
  fun _ => ⟨(), _, rfl, ⟨rfl, rfl, Array.size_modify⟩, rfl⟩

lemma tell (o : ObserverId) (fallback : α) (g : Observer → α × Observer) :
    Aside (World.tell o fallback g : Act ρ ε α) := fun _ => ⟨_, _, rfl, ⟨rfl, rfl, rfl⟩, rfl⟩

lemma bind {m : Act ρ ε α} {k : α → Act ρ ε β} (hm : Aside m) (hk : ∀ a, Aside (k a)) :
    Aside (m >>= k) := by
  intro w
  obtain ⟨a, w₁, h₁, hquiet₁, hstore₁⟩ := hm w
  obtain ⟨b, w₂, h₂, hquiet₂, hstore₂⟩ := hk a w₁
  exact ⟨b, w₂, (Flow.bind_ok h₁).trans h₂, hquiet₁.trans hquiet₂, hstore₂.trans hstore₁⟩

lemma stackFor (f : FilamentId) : Aside (World.stackFor f : Act ρ ε (Option StackTrace)) := by
  refine (see _).bind fun captures => ?_
  cases captures
  · exact pure none
  · exact (see _).bind fun _ => pure _

lemma enter (f : FilamentId) : Aside (Boundary.enter f : Act ρ ε Bool) :=
  (see _).bind fun _ => (see _).bind fun _ => (changeThread _).bind fun _ => pure _

lemma reportPanic (f : FilamentId) (i : Identity) (text : Option String)
    (left : Option StackTrace) :
    Aside (Boundary.reportPanic f i text left : Act ρ ε Disposition) := by
  have htell (stack : Option StackTrace) : Aside (do
      let o ← observerOf f
      inform o (·.unhandledException (panicMessage text))
      report o i ⟨.uncaughtException (panicMessage text), stack⟩ : Act ρ ε Disposition) :=
    (see _).bind fun _ => (tell _ _ _).bind fun _ => tell _ _ _
  cases left with
  | none => exact (stackFor f).bind htell
  | some stack => exact htell (some stack)

lemma leave (f : FilamentId) (i : Identity) (before : Bool) (result : Except Payload Unit) :
    Aside (Boundary.leave f i before result : Act ρ ε Boundary.Caught) := by
  refine (see _).bind fun left => (changeThread _).bind fun _ => ?_
  rcases result with (s | text) | u
  · exact pure _
  · exact (reportPanic f i text left).bind fun _ => pure _
  · exact pure _

lemma settle {limit : Duration} (hlimit : limit.Timed) (f : FilamentId) (i : Identity)
    (o : Outcome) : Aside (Boundary.settle f i limit o : Act ρ ε Outcome) := by
  rw [Boundary.settle, joinChildren_timed hlimit]
  refine (see _).bind fun joined => ?_
  cases joined with
  | ok u => exact (pure _).bind fun _ => (see _).bind fun _ => pure _
  | error why =>
    exact (see _).bind fun _ => (tell _ _ _).bind fun _ => (pure _).bind fun _ =>
      (see _).bind fun _ => pure _

lemma restoreLevel (channel : ObserverId) (entry : Irql) :
    Aside (Driver.restoreLevel channel entry : Act ρ ε Unit) := by
  refine (see _).bind fun exit => ?_
  split
  · exact (tell _ _ _).bind fun _ => changeThread _
  · exact pure _

end Aside

/-! ### Between calls -/

section

variable (reg : RegistryId) (guests : ε → ThreadId → Stage)

/-- A routine that can be called: called on a thread that is bound, unless it runs out of room, it
moves guests only, and keeps account of them. -/
def Hosts (m : Act ρ ε Unit) : Prop :=
  ∀ base d w, Keeps reg base d ⟨w, guests w.store⟩ → w.current ∈ base.map Binding.thread →
    ∀ result w', m.attempt w = (.ok result, w') →
      Runs reg ⟨w, guests w.store⟩ ⟨w', guests w'.store⟩ ∧ w'.current = w.current

/-- The thread that calls routines runs, and is no guest. -/
structure Stands (base : List Binding) (d : Option FilamentId) (t : ThreadId) (w : World ρ ε) :
    Prop where
  keeps : Keeps reg base d ⟨w, guests w.store⟩
  current_eq : w.current = t
  away : guests w.store t = .away
  lt : t < w.threads.items.size

end

variable {reg : RegistryId} {guests : ε → ThreadId → Stage} {base : List Binding}
  {d : Option FilamentId} {t : ThreadId} {f : FilamentId} {w w' w₁ : World ρ ε} {s : State ρ ε}

/-- A routine whose guests have all ended when it is over needs to keep no account. -/
theorem Conducts.hosts {m : Act ρ ε Unit} (hm : Conducts reg m) :
    Hosts reg (fun _ _ => .away) m :=
  fun _ _ _ hs hbound _ _ h => (hm _).of_attempt hs (.inr hbound) (.inr hbound) h

lemma Stands.of_registries (h : Stands reg guests base d t w)
    (hregistries : w'.roster.registries = w.roster.registries)
    (hadoptions : w'.roster.adoptions = w.roster.adoptions) (hcurrent : w'.current = w.current)
    (hthreads : w'.threads.items.size = w.threads.items.size) (hstore : w'.store = w.store) :
    Stands reg guests base d t w' := by
  have hkeeps := h.keeps.elsewhere (w := w')
    ⟨Nat.le_of_eq hthreads.symm, by rw [hregistries], fun a ha _ _ => hadoptions ▸ ha⟩
  constructor
  · rw [hstore]
    exact hkeeps
  · exact hcurrent.trans h.current_eq
  · exact hstore ▸ h.away
  · exact hthreads ▸ h.lt

lemma Stands.quiet (h : Stands reg guests base d t w) (hquiet : Quiet w w')
    (hstore : w'.store = w.store) : Stands reg guests base d t w' :=
  h.of_registries (congrArg Roster.registries hquiet.roster)
    (congrArg Roster.adoptions hquiet.roster) hquiet.current hquiet.threads hstore

lemma Stands.aside (h : Stands reg guests base d t w) {m : Act ρ ε α} (hm : Aside m) :
    ∃ a w', m w = (.ok a, w') ∧ Stands reg guests base d t w' := by
  obtain ⟨a, w', heq, hquiet, hstore⟩ := hm w
  exact ⟨a, w', heq, h.quiet hquiet hstore⟩

/-- A thread that attaches itself was not bound, and is then bound with all others. -/
lemma Stands.attach (h : Stands reg guests base d t w)
    (hattach : World.attach reg f w = (.ok (.ok ()), w₁)) :
    Stands reg guests (⟨t, f, true⟩ :: base) d t w₁ ∧
      ∀ b ∈ (w.roster.table reg).bindings, b.thread ≠ t := by
  have hcurrent := h.current_eq
  subst hcurrent
  have heq := withRegistry_eq w reg (·.attach reg ⟨w.current, f, true⟩)
  obtain ⟨hok, rfl⟩ := Prod.mk.inj (heq.symm.trans hattach)
  rcases w.roster.attach_cases reg ⟨w.current, f, true⟩ with ⟨why, r₁, -, hcase⟩ |
    ⟨r₁, hprepare, ⟨r₂, hbind, hcase⟩ | ⟨why, r₂, -, hcase⟩⟩ <;> rw [hcase] at hok <;> cases hok
  have hsame : Untouched reg w { w with roster := r₁ } := .of_prepare hprepare
  have hkeeps := h.keeps.elsewhere hsame
  obtain ⟨hfree, htable, hfits, hadoptions⟩ := table_bind hbind
  have hbefore := (table_of_get? hsame.registry).1
  have hdefault := r₁.default?_onTable reg (.error .unknownThread)
    (·.bind ⟨w.current, f, true⟩) reg
  rw [hbind] at hdefault
  rw [hcase]
  refine ⟨⟨⟨hfits hkeeps.fits, fun b hb => ?_, hkeeps.guest_lt, ?_, fun b hb hstage => ?_,
    fun u hu => ?_, hdefault.trans hkeeps.default_eq⟩, rfl, h.away, h.lt⟩, fun b hb hthread => ?_⟩
  · rw [htable, List.mem_append, List.mem_singleton] at hb
    rcases hb with hb | rfl
    · exact hkeeps.bound_lt b hb
    · exact h.lt
  · have hnew : State.others (⟨{ w with roster := r₂ }, guests w.store⟩ : State ρ ε) reg
        = State.others ⟨{ w with roster := r₁ }, guests w.store⟩ reg ++ [⟨w.current, f, true⟩] := by
      rw [State.others, State.others, htable, List.filter_append]
      simp [h.away]
    exact hnew ▸ (List.perm_append_singleton _ _).trans (hkeeps.others.cons _)
  · rw [htable, List.mem_append, List.mem_singleton] at hb
    rcases hb with hb | rfl
    · exact hadoptions ▸ hkeeps.adopted b hb hstage
    · cases h.away.symm.trans hstage
  · obtain ⟨b, hb, rfl⟩ := hkeeps.seated u hu
    exact ⟨b, htable ▸ List.mem_append_left _ hb, rfl⟩
  · exact hfree (List.mem_map.mpr ⟨b, hbefore ▸ hb, hthread⟩)

/-- Who is refused has changed nothing. -/
lemma attach_refused {why : FilamentError}
    (h : World.attach reg f w = (.ok (.error why), w₁)) : w₁ = w := by
  have heq := withRegistry_eq w reg (·.attach reg ⟨w.current, f, true⟩)
  obtain ⟨herror, rfl⟩ := Prod.mk.inj (heq.symm.trans h)
  have hsame : (w.roster.attach reg ⟨w.current, f, true⟩).2 = w.roster :=
    Accounts.attach_error_eq (Prod.ext (Except.ok.inj herror) rfl)
  rw [hsame]

/-- A thread that detaches itself is no longer bound, and all others are. -/
lemma Stands.detach {b : Binding} (h : Stands reg guests (b :: base) d t w) (hb : b.thread = t) :
    ∃ w', World.detach reg w = (.ok (), w') ∧ Stands reg guests base d t w' ∧
      ∀ c ∈ (w'.roster.table reg).bindings, c.thread ≠ t := by
  have hcurrent := h.current_eq
  subst hcurrent
  have heq := withRegistry_eq w reg (fun r => ((), r.detach reg w.current))
  have htable := w.roster.table_detach reg w.current reg
  rw [if_pos rfl] at htable
  have hperm := h.keeps.fits.unbind_perm_filter w.current
  rw [← htable] at hperm
  have hmem (c : Binding) : c ∈ ((w.roster.detach reg w.current).table reg).bindings ↔
      c ∈ (w.roster.table reg).bindings ∧ c.thread ≠ w.current := by
    simpa using hperm.mem_iff (a := c)
  have hadoptions := w.roster.detach_adoptions reg w.current
  have haway := h.away
  refine ⟨_, heq, ⟨⟨?_, fun c hc => ?_, h.keeps.guest_lt, ?_, fun c hc hstage => ?_, fun u hu => ?_,
    (w.roster.default?_detach reg w.current reg).trans h.keeps.default_eq⟩, rfl, h.away, h.lt⟩,
    fun c hc => ((hmem c).mp hc).2⟩
  · exact h.keeps.fits.of_sublist hperm List.filter_sublist
  · exact h.keeps.bound_lt c ((hmem c).mp hc).1
  · -- of the others, only the binding of the thread is gone
    have hnodup : ((b :: base).map Binding.thread).Nodup :=
      (h.keeps.others.map _).nodup_iff.mp
        ((List.filter_sublist.map _).nodup h.keeps.fits.distinct)
    have hfree : ∀ c ∈ base, c.thread ≠ w.current := fun c hc hthread =>
      (List.nodup_cons.mp hnodup).1 (List.mem_map.mpr ⟨c, hc, hthread.trans hb.symm⟩)
    have hbase : (b :: base).filter (·.thread ≠ w.current) = base := by
      rw [List.filter_cons_of_neg (by simpa using hb)]
      exact List.filter_eq_self.mpr fun c hc => by simpa using hfree c hc
    calc State.others _ reg
      _ = ((w.roster.detach reg w.current).table reg).bindings.filter
            fun c => guests w.store c.thread = .away := rfl
      List.Perm _ (((w.roster.table reg).bindings.filter (·.thread ≠ w.current)).filter
            fun c => guests w.store c.thread = .away) := hperm.filter _
      _ = (State.others ⟨w, guests w.store⟩ reg).filter (·.thread ≠ w.current) :=
        List.filter_comm ..
      List.Perm _ ((b :: base).filter (·.thread ≠ w.current)) := h.keeps.others.filter _
      _ = base := hbase
  · exact hadoptions ▸ h.keeps.adopted c ((hmem c).mp hc).1 hstage
  · obtain ⟨c, hc, rfl⟩ := h.keeps.seated u hu
    refine ⟨c, (hmem c).mpr ⟨hc, fun hthread => ?_⟩, rfl⟩
    have hseated : guests w.store w.current = .seated := by
      rw [← hthread]
      exact hu
    cases haway.symm.trans hseated

/-! ### A call from its start to its end -/

/-- A thread that is bound lets others do their work, or does it itself. -/
lemma Stands.hosts (h : Stands reg guests base d t w) (hbound : t ∈ base.map Binding.thread)
    {m : Act ρ ε Unit} (hm : Hosts reg guests m) {ended : Except Payload Unit}
    (hattempt : m.attempt w = (.ok ended, w')) : Stands reg guests base d t w' := by
  obtain ⟨hruns, hcurrent⟩ := hm base d w h.keeps (h.current_eq.symm ▸ hbound) ended w' hattempt
  obtain ⟨hlt, haway⟩ := hruns.stage_of_away h.lt h.away
  exact ⟨h.keeps.runs hruns, hcurrent.trans h.current_eq, haway, hlt⟩

/-- A thread that is bound runs a routine under its boundary, and nothing gets past that. -/
lemma Stands.guard (h : Stands reg guests base d t w) (hbound : t ∈ base.map Binding.thread)
    {routine : Act ρ ε Unit} (hroutine : Hosts reg guests routine) {f : FilamentId} {i : Identity}
    {result : Except Payload Boundary.Caught}
    (hguard : (Boundary.guard f i routine).attempt w = (.ok result, w')) :
    (∃ caught, result = .ok caught) ∧ Stands reg guests base d t w' := by
  obtain ⟨before, w₁, henter, h₁⟩ := h.aside (.enter f)
  rw [Boundary.guard, Flow.attempt_bind_ok (Flow.attempt_ok henter)] at hguard
  rcases Flow.attempt_bind_cases hguard with ⟨ended, w₂, hattempt, hleave⟩ | ⟨payload, -, hattempt⟩
  · have h₂ := h₁.hosts hbound hroutine (Flow.of_attempt_ok hattempt)
    obtain ⟨caught, w₃, hleft, h₃⟩ := h₂.aside (.leave f i before ended)
    rw [Flow.attempt_ok hleft] at hleave
    cases hleave
    exact ⟨⟨caught, rfl⟩, h₃⟩
  · cases Flow.attempt_error (Flow.of_attempt_unwound hattempt)

/-- Others have a turn. -/
lemma Stands.turn (h : Stands reg guests base d t w) (hbound : t ∈ base.map Binding.thread)
    {exec : Routines ρ ε} (hothers : Hosts reg guests exec.others) {result : Except Payload Unit}
    (hturn : exec.turn.attempt w = (.ok result, w')) :
    (∃ u, result = .ok u) ∧ Stands reg guests base d t w' := by
  rcases Flow.attempt_bind_cases hturn with ⟨ended, w₁, hattempt, hdone⟩ | ⟨payload, -, hattempt⟩
  · cases hdone
    exact ⟨⟨(), rfl⟩, h.hosts hbound hothers (Flow.of_attempt_ok hattempt)⟩
  · cases Flow.attempt_error (Flow.of_attempt_unwound hattempt)

/-- A call goes on after a part of it that lets no unwind past. -/
lemma Stands.goes_on {m : Act ρ ε α} {k : α → Act ρ ε β} {result : Except Payload β}
    (hm : ∀ ended w₁, m.attempt w = (.ok ended, w₁) →
      (∃ a, ended = .ok a) ∧ Stands reg guests base d t w₁)
    (h : (m >>= k).attempt w = (.ok result, w')) :
    ∃ a w₁, (k a).attempt w₁ = (.ok result, w') ∧ Stands reg guests base d t w₁ := by
  rcases Flow.attempt_bind_cases h with ⟨a, w₁, hfirst, hrest⟩ | ⟨payload, -, hfirst⟩
  · exact ⟨a, w₁, hrest, (hm _ w₁ hfirst).2⟩
  · obtain ⟨⟨a, ha⟩, -⟩ := hm _ w' hfirst
    cases ha

/-- What a call comes to: it was refused and did nothing to registries, it is over and its thread is
not bound, or the clock could not time its wait and its thread is still bound. -/
inductive Called (reg : RegistryId) (guests : ε → ThreadId → Stage) (base : List Binding)
    (d : Option FilamentId) (limit : Duration) (w : World ρ ε) :
    Except Payload (Except α β) → World ρ ε → Prop
  | refused {w' : World ρ ε} (why : α) (h : Stands reg guests base d w.current w')
      (hsame : w'.roster.registries = w.roster.registries) :
      Called reg guests base d limit w (.ok (.error why)) w'
  | returned {w' : World ρ ε} (b : β) (hlimit : limit.Timed)
      (h : Stands reg guests base d w.current w')
      (hfree : ∀ b ∈ (w'.roster.table reg).bindings, b.thread ≠ w.current) :
      Called reg guests base d limit w (.ok (.ok b)) w'
  | unwound {w' : World ρ ε} (payload : Payload) (hlimit : limit.Timed)
      (h : Stands reg guests base d w.current w')
      (hfree : ∀ b ∈ (w'.roster.table reg).bindings, b.thread ≠ w.current) :
      Called reg guests base d limit w (.error payload) w'
  | stranded {w' : World ρ ε} (f : FilamentId) (hlimit : ¬ limit.Timed)
      (h : Stands reg guests (⟨w.current, f, true⟩ :: base) d w.current w')
      (hfree : ∀ b ∈ (w.roster.table reg).bindings, b.thread ≠ w.current) :
      Called reg guests base d limit w (.error untimed) w'

/-- The device is nothing to registries. -/
lemma Called.device {limit : Duration} {result : Except Payload (Except α β)}
    (h : Called reg guests base d limit w result w') (device : Device ρ) :
    Called reg guests base d limit w result { w' with device } := by
  have hstands {l : List Binding} (h : Stands reg guests l d w.current w') :
      Stands reg guests l d w.current { w' with device } := h.of_registries rfl rfl rfl rfl rfl
  cases h with
  | refused why h hsame => exact .refused why (hstands h) hsame
  | returned b hlimit h hfree => exact .returned b hlimit (hstands h) hfree
  | unwound payload hlimit h hfree => exact .unwound payload hlimit (hstands h) hfree
  | stranded f hlimit h hfree => exact .stranded f hlimit (hstands h) hfree

/-- The end of a call: the thread is let go, and the unwind goes on, if it is to. -/
lemma Stands.concludes {limit : Duration} (hlimit : limit.Timed) {b : Binding}
    (h : Stands reg guests (b :: base) d w.current w₁) (hb : b.thread = w.current)
    (payload : Option Payload) (a : β) {result : Except Payload (Except α β)}
    (hattempt : Flow.attempt (do
      World.detach reg
      Boundary.goOn payload
      return .ok a) w₁ = (.ok result, w')) : Called reg guests base d limit w result w' := by
  obtain ⟨w₂, hdetach, h₂, hfree⟩ := h.detach hb
  rw [Flow.attempt_bind_ok (Flow.attempt_ok hdetach)] at hattempt
  cases payload with
  | none =>
    cases hattempt
    exact .returned a hlimit h₂ hfree
  | some payload =>
    cases hattempt
    exact .unwound payload hlimit h₂ hfree

/-- The end of a call whose wait the clock cannot time: nothing comes after the wait. -/
lemma Stands.strands {limit : Duration} (hlimit : ¬ limit.Timed)
    (hfree : ∀ b ∈ (w.roster.table reg).bindings, b.thread ≠ w.current)
    (h : Stands reg guests (⟨w.current, f, true⟩ :: base) d w.current w₁) {i : Identity}
    {o : Outcome} {k : Outcome → Act ρ ε (Except α β)} {result : Except Payload (Except α β)}
    (hattempt : (Boundary.settle f i limit o >>= k).attempt w₁ = (.ok result, w')) :
    Called reg guests base d limit w result w' := by
  rw [Boundary.attempt_settle_untimed hlimit] at hattempt
  cases hattempt
  exact .stranded f hlimit (h.quiet (quiet_panicked w₁) (panicked_store w₁)) hfree

/-- Calling a routine. -/
theorem Stands.call (h : Stands reg guests base d w.current w) {routine : Act ρ ε Unit}
    (hroutine : Hosts reg guests routine) (f : FilamentId) (limit : Duration)
    {result : Except Payload (Except FilamentError Outcome)}
    (hcall : (Boundary.call reg f limit routine).attempt w = (.ok result, w')) :
    Called reg guests base d limit w result w' := by
  obtain ⟨answer, w₁, hattach⟩ : ∃ answer w₁, World.attach reg f w = (.ok answer, w₁) :=
    ⟨_, _, withRegistry_eq w reg _⟩
  rw [Boundary.call, Flow.attempt_bind_ok (Flow.attempt_ok hattach)] at hcall
  rcases answer with why | ⟨⟩
  · obtain rfl := attach_refused hattach
    cases hcall
    exact .refused why h rfl
  · obtain ⟨h₁, hfree⟩ := h.attach hattach
    obtain ⟨i, hi⟩ : ∃ i, identityIn f w₁ = (.ok i, w₁) := ⟨_, rfl⟩
    rw [Flow.attempt_bind_ok (Flow.attempt_ok hi)] at hcall
    obtain ⟨caught, w₂, hcall, h₂⟩ :=
      Stands.goes_on (fun _ _ => h₁.guard List.mem_cons_self hroutine) hcall
    by_cases hlimit : limit.Timed
    · obtain ⟨o, w₃, hsettle, h₃⟩ := h₂.aside (.settle hlimit f i caught.toOutcome)
      rw [Flow.attempt_bind_ok (Flow.attempt_ok hsettle)] at hcall
      exact h₃.concludes hlimit rfl _ _ hcall
    · exact h₂.strands hlimit hfree hcall

/-- Calling a routine of a driver that holds its unload lock. -/
theorem Stands.callProtected (h : Stands reg guests base d w.current w)
    {exec : Routines ρ ε} {routine : ρ} (hroutine : Hosts reg guests (exec routine))
    (hothers : Hosts reg guests exec.others) (limit : Duration) (channel : ObserverId)
    (value : UInt64) {result : Except Payload (Except CallError CallResult)}
    (hcall : (Driver.callProtected exec reg limit routine channel value).attempt w
      = (.ok result, w')) : Called reg guests base d limit w result w' := by
  obtain ⟨f, w₁, hmade, hsame⟩ : ∃ f w₁, newFilament channel {} w = (.ok f, w₁) ∧
      Stands reg guests base d w.current w₁ ∧ w₁.roster.registries = w.roster.registries ∧
      w₁.current = w.current :=
    ⟨_, _, rfl, h.of_registries rfl rfl rfl rfl rfl, rfl, rfl⟩
  obtain ⟨w₂, hset, h₂, hregistries, hcurrent⟩ : ∃ w₂,
      changeFilament f (·.setValue .ordinary value) w₁ = (.ok (), w₂) ∧
      Stands reg guests base d w.current w₂ ∧ w₂.roster.registries = w.roster.registries ∧
      w₂.current = w.current :=
    ⟨_, rfl, hsame.1.of_registries rfl rfl rfl rfl rfl, hsame.2.1, hsame.2.2⟩
  obtain ⟨answer, w₃, hattach⟩ : ∃ answer w₃, World.attach reg f w₂ = (.ok answer, w₃) :=
    ⟨_, _, withRegistry_eq w₂ reg _⟩
  rw [Driver.callProtected, Flow.attempt_bind_ok (Flow.attempt_ok hmade),
    Flow.attempt_bind_ok (Flow.attempt_ok hset),
    Flow.attempt_bind_ok (Flow.attempt_ok hattach)] at hcall
  rcases answer with why | ⟨⟩
  · obtain rfl := attach_refused hattach
    cases hcall
    exact .refused _ h₂ hregistries
  · obtain ⟨h₃, hfree⟩ := h₂.attach hattach
    have hfree : ∀ b ∈ (w.roster.table reg).bindings, b.thread ≠ w.current := by
      rw [Roster.table, ← hregistries, ← Roster.table]
      exact hfree
    have hbound : w.current ∈ ((⟨w.current, f, true⟩ : Binding) :: base).map Binding.thread :=
      List.mem_cons_self
    obtain ⟨i, hi⟩ : ∃ i, identityIn f w₃ = (.ok i, w₃) := ⟨_, rfl⟩
    obtain ⟨entry, hentry⟩ : ∃ entry, World.level w₃ = (.ok entry, w₃) := ⟨_, rfl⟩
    rw [Flow.attempt_bind_ok (Flow.attempt_ok hi),
      Flow.attempt_bind_ok (Flow.attempt_ok hentry)] at hcall
    obtain ⟨caught, w₄, hcall, h₄⟩ := Stands.goes_on (fun _ _ => h₃.guard hbound hroutine) hcall
    obtain ⟨u, w₅, hcall, h₅⟩ := Stands.goes_on (fun _ _ => h₄.turn hbound hothers) hcall
    obtain ⟨u, w₆, hrestore, h₆⟩ := h₅.aside (.restoreLevel channel entry)
    rw [Flow.attempt_bind_ok (Flow.attempt_ok hrestore)] at hcall
    obtain ⟨u, w₇, hcall, h₇⟩ := Stands.goes_on (fun _ _ => h₆.turn hbound hothers) hcall
    by_cases hlimit : limit.Timed
    · obtain ⟨o, w₈, hsettle, h₈⟩ := h₇.aside (.settle hlimit f i caught.toOutcome)
      obtain ⟨value, hvalue⟩ : ∃ value, seeFilament f 0 (·.value .ordinary) w₈ = (.ok value, w₈) :=
        ⟨_, rfl⟩
      rw [Flow.attempt_bind_ok (Flow.attempt_ok hsettle),
        Flow.attempt_bind_ok (Flow.attempt_ok hvalue)] at hcall
      exact h₈.concludes hlimit rfl _ _ hcall
    · exact h₇.strands hlimit hfree hcall

/-- Calling a routine of a driver. -/
theorem Stands.callDriver (h : Stands reg guests base d w.current w)
    {exec : Routines ρ ε} {c : ConnectionId} {fixture routine : UInt16} {limit : Duration}
    (hconnection : ∀ x, w.device.get? c = some x → x.registry = reg ∧ x.joinLimit = limit ∧
      ∀ r, x.routines.routine? fixture routine = some r → Hosts reg guests (exec r))
    (hothers : Hosts reg guests exec.others) (channel : ObserverId) (value : UInt64)
    {result : Except Payload (Except CallError CallResult)}
    (hcall : (Driver.call exec c fixture routine channel value).attempt w = (.ok result, w')) :
    Called reg guests base d limit w result w' := by
  let w₁ : World ρ ε := { w with device := w.device.modify c .enter }
  have hentered : Driver.modify c .enter w = (.ok (), w₁) := rfl
  rw [Driver.call, Flow.attempt_bind_ok (Flow.attempt_ok hentered)] at hcall
  obtain ⟨w₂, hprotected, rfl⟩ := Flow.attempt_ensuring (fun _ => rfl) hcall
  have h₁ : Stands reg guests base d w₁.current w₁ := h.of_registries rfl rfl rfl rfl rfl
  have hconnection₁ (x : Connection ρ) (hx : w₁.device.get? c = some x) : x.registry = reg ∧
      x.joinLimit = limit ∧
      ∀ r, x.routines.routine? fixture routine = some r → Hosts reg guests (exec r) := by
    obtain ⟨x₀, hx₀, rfl⟩ := Pool.get?_modify_eq_some hx
    rw [if_pos rfl]
    exact hconnection x₀ hx₀
  have hseen : seeDevice (·.get? c) w₁ = (.ok (w₁.device.get? c), w₁) := rfl
  have hover : Called reg guests base d limit w₁ result w₂ := by
    rw [Flow.attempt_bind_ok (Flow.attempt_ok hseen)] at hprotected
    cases hx : w₁.device.get? c with
    | none =>
      rw [hx] at hprotected
      cases hprotected
      exact .refused _ h₁ rfl
    | some x =>
      rw [hx] at hprotected
      dsimp only at hprotected
      split at hprotected
      · cases hprotected
        exact .refused _ h₁ rfl
      · obtain ⟨rfl, rfl, hroutines⟩ := hconnection₁ x hx
        split at hprotected
        · cases hprotected
          exact .refused _ h₁ rfl
        · rename_i r hr
          exact h₁.callProtected (hroutines r hr) hothers x.joinLimit channel value hprotected
  have hdone : Called reg guests base d limit w result w₂ := by
    cases hover with
    | refused why h hsame => exact .refused why h hsame
    | returned b hlimit h hfree => exact .returned b hlimit h hfree
    | unwound payload hlimit h hfree => exact .unwound payload hlimit h hfree
    | stranded f hlimit h hfree => exact .stranded f hlimit h hfree
  exact hdone.device (w₂.device.modify c .leave)

end Testbench.Guests
