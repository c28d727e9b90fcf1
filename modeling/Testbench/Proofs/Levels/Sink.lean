import Testbench.Proofs.Guards
import Testbench.Proofs.Levels.Body

/-!
# Unwinding out of a sink

A routine that a sink sends unwinding leaves the sink at passive level, whatever its level was.  If
it was raised, the observer of the thread hears of that, right after it heard what the routine had
to report; otherwise it hears no more than that.

Only six methods of a sink can unwind: those that come to a verdict.  The others return.
-/

namespace Testbench

open World

variable {ρ ε α β : Type} {w w' w'' : World ρ ε} {p : Payload}

/-! ### What returns -/

namespace World

/-- Something that returns, wherever it is done. -/
def Returns (m : Act ρ ε α) : Prop := ∀ w, ∃ a w', m w = (.ok a, w')

namespace Returns

variable {m : Act ρ ε α}

lemma pure (a : α) : Returns (Pure.pure a : Act ρ ε α) := fun w => ⟨a, w, rfl⟩

lemma step (f : World ρ ε → α × World ρ ε) : Returns (Flow.step f) := fun _ => ⟨_, _, rfl⟩

lemma see (f : World ρ ε → α) : Returns (Flow.see f) := fun _ => ⟨_, _, rfl⟩

lemma change (f : World ρ ε → World ρ ε) : Returns (Flow.change f) := fun _ => ⟨_, _, rfl⟩

lemma bind {k : α → Act ρ ε β} (hm : Returns m) (hk : ∀ a, Returns (k a)) : Returns (m >>= k) := by
  intro w
  obtain ⟨a, w₁, hfirst⟩ := hm w
  obtain ⟨b, w₂, hsecond⟩ := hk a w₁
  exact ⟨b, w₂, (Flow.bind_ok hfirst).trans hsecond⟩

lemma tell (o : ObserverId) (fallback : α) (f : Observer → α × Observer) :
    Returns (World.tell o fallback f : Act ρ ε α) := step _

lemma withRegistry (reg : RegistryId) (f : Roster → α × Roster) :
    Returns (World.withRegistry reg (onRoster f) : Act ρ ε α) :=
  fun w => ⟨_, _, withRegistry_eq w reg f⟩

lemma changeFilament (f : FilamentId) (g : Filament → Filament) :
    Returns (World.changeFilament f g : Act ρ ε Unit) := fun _ => ⟨_, _, rfl⟩

lemma membership (reg : RegistryId) (derive : Bool) :
    Returns (World.membership reg derive : Act ρ ε (Except FilamentError Member)) :=
  (see _).bind fun _ => withRegistry reg _

lemma asThread (t : ThreadId) (hm : Returns m) : Returns (World.asThread t m) := by
  intro w
  obtain ⟨a, w', h⟩ := hm { w with current := t }
  exact ⟨a, _, asThread_ok h⟩

lemma enrol (reg : RegistryId) (f : FilamentId) :
    Returns (Child.enrol reg f : Act ρ ε (Except FilamentError Unit)) := by
  refine bind ((see _).bind fun _ => withRegistry reg _) fun attached => ?_
  cases attached with
  | error why => exact pure _
  | ok u =>
    exact bind ((see _).bind fun _ => see _) fun _ => (see _).bind fun _ =>
      (tell _ _ _).bind fun _ => pure _

/-- Whether a thread can be started is something that its starter is told. -/
lemma start (reg : RegistryId) :
    Returns (Child.start reg : Act ρ ε (Except Child.SpawnError Child.Ticket)) := by
  refine (membership reg false).bind fun found => ?_
  cases found with
  | error why => exact pure _
  | ok m =>
    refine (see _).bind fun o => (tell _ _ _).bind fun answer => ?_
    cases answer with
    | refused why => exact pure _
    | dropped => exact (step _).bind fun _ => (change _).bind fun _ => pure _
    | started =>
      refine (step _).bind fun t => (asThread t (enrol reg m.filament)).bind fun enrolled => ?_
      cases enrolled with
      | error why => exact (change _).bind fun _ => pure _
      | ok u => exact pure _

lemma not_unwound (hm : Returns m) : m.attempt w ≠ (.ok (.error p), w') := by
  intro h
  obtain ⟨a, w₁, hm⟩ := hm w
  rw [Flow.of_attempt_unwound h] at hm
  cases hm

end Returns

end World

/-- What unwinds before something returns had unwound without that. -/
lemma Flow.of_attempt_bind_returns {m : Act ρ ε α} {k : α → Act ρ ε β} (hk : ∀ a, Returns (k a))
    (h : (m >>= k).attempt w = (.ok (.error p), w')) : m.attempt w = (.ok (.error p), w') := by
  rcases Flow.attempt_bind_cases h with ⟨a, w₁, -, hsecond⟩ | ⟨p', hp, hfirst⟩
  · exact absurd hsecond (hk a).not_unwound
  · cases hp
    exact hfirst

/-! ### Verdicts -/

namespace Sink

/-- The event that a report through the sink consists of. -/
def Call.detail? : Call α → Option Event.Detail
  | .assertion site expression => some (site.detail expression)
  | .comparison expected actual site expression =>
    if expected = actual then none
    else some (site.detail (comparisonText expected actual expression))
  | .inconclusiveness message => some (.inconclusiveness message)
  | .log message => some (.log message)
  | .formattedAssertion site message => some (site.detail message)
  | .failure | .value _ | .setValue .. | .startThread => none

/-- How the sink comes to a verdict about the caller, if it does. -/
def Call.verdict? (call : Call α) (reg : RegistryId) : Option (Act ρ ε Verdict) :=
  match call with
  | .assertion site expression => some (Report.assertion reg site expression)
  | .comparison expected actual site expression =>
    some (Report.comparison reg expected actual site expression)
  | .inconclusiveness message => some (Report.inconclusiveness reg message)
  | .log message => some (Report.log reg message)
  | .formattedAssertion site message => some (Report.assertion reg site message)
  | .failure => some (Report.failure reg)
  | .value _ | .setValue .. | .startThread => none

variable {s : Sink} {call : Call α}

/-- What is not offered is not done, and does not unwind. -/
lemma of_attempt_requiring {method : String} {required : UInt32}
    {m : Act ρ ε (Except SinkError α)}
    (h : (s.requiring method required m).attempt w = (.ok (.error p), w')) :
    m.attempt w = (.ok (.error p), w') := by
  rw [requiring] at h
  split at h
  · exact absurd h (Returns.pure _).not_unwound
  · exact h

/-- What unwinds out of a sink does so by a verdict. -/
lemma perform_unwound (h : (s.perform call : Act ρ ε α).attempt w = (.ok (.error p), w')) :
    ∃ R, call.verdict? s.registry = some R ∧ (R >>= s.apply).attempt w = (.ok (.error p), w') := by
  -- what is done with the answer to a verdict does not unwind
  have hreport {α : Type} {R : Act ρ ε Verdict} {k : Disposition → Act ρ ε α}
      (hk : ∀ d, Returns (k d))
      (h : (R >>= fun v => s.apply v >>= k).attempt w = (.ok (.error p), w')) :
      (R >>= s.apply).attempt w = (.ok (.error p), w') := by
    rw [← bind_assoc] at h
    exact Flow.of_attempt_bind_returns hk h
  have hpure {α : Type} (g : Disposition → α) (d : Disposition) :
      Returns (Pure.pure (g d) : Act ρ ε α) := .pure _
  cases call with
  | assertion site expression => exact ⟨_, rfl, h⟩
  | comparison expected actual site expression => exact ⟨_, rfl, h⟩
  | inconclusiveness message => exact ⟨_, rfl, hreport (hpure _) h⟩
  | log message => exact ⟨_, rfl, hreport (hpure _) h⟩
  | formattedAssertion site message =>
    exact ⟨_, rfl, Flow.of_attempt_bind_returns (hpure _) (of_attempt_requiring h)⟩
  | failure => exact ⟨_, rfl, hreport (hpure _) (of_attempt_requiring h)⟩
  | value tag =>
    refine absurd (of_attempt_requiring h) (Returns.not_unwound (.bind ?_ fun _ => .pure _))
    refine (Returns.membership s.registry false).bind fun found => ?_
    cases found with
    | ok m => exact (Returns.see _).bind fun _ => .pure _
    | error why => exact .pure _
  | setValue tag v =>
    refine absurd (of_attempt_requiring h) (Returns.not_unwound (.bind ?_ fun _ => .pure _))
    refine (Returns.membership s.registry false).bind fun found => ?_
    cases found with
    | ok m => exact (Returns.changeFilament m.filament _).bind fun _ => .pure _
    | error why => exact .pure _
  | startThread =>
    refine absurd (of_attempt_requiring h) (Returns.not_unwound ?_)
    refine (Returns.start s.registry).bind fun started => ?_
    cases started <;> exact .pure _

/-! ### Members and strangers -/

end Sink

namespace World

variable {reg : RegistryId} {m : Member} {es fs : List Event}

/-- The observer of a member hears some events; about levels nothing is said. -/
structure Tells (w : World ρ ε) (m : Member) (es : List Event) (w' : World ρ ε) : Prop where
  roster : w'.roster = w.roster
  current : w'.current = w.current
  observers : ∀ y x, w.roster.filaments.get? m.filament = some y →
    w.observers.get? y.observer = some x →
    w'.observers = (w.observing y.observer (x.hears m.identity es)).observers

namespace Tells

lemma of_observers (hroster : w'.roster = w.roster) (hcurrent : w'.current = w.current)
    (hobservers : w'.observers = w.observers) : Tells w m [] w' :=
  ⟨hroster, hcurrent, fun _ _ _ hx =>
    hobservers.trans (congrArg World.observers (observing_self hx)).symm⟩

lemma trans (h : Tells w m es w') (h' : Tells w' m fs w'') : Tells w m (es ++ fs) w'' where
  roster := h'.roster.trans h.roster
  current := h'.current.trans h.current
  observers y x hy hx := by
    have hfirst := h.observers y x hy hx
    have hx' : w'.observers.get? y.observer = some (x.hears m.identity es) := by
      rw [hfirst]
      exact observing_observer hx _
    rw [h'.observers y _ (h.roster ▸ hy) hx', Observer.hears_append]
    change w'.observers.modify y.observer _ = w.observers.modify y.observer _
    rw [hfirst]
    exact Pool.modify_modify ..

end Tells

lemma membership_driver (hreg : w.roster.ForDriver reg) (derive : Bool) :
    membership reg derive w
      = (.ok (((w.roster.member? reg w.current).map .ok).getD (.error .unknownThread)), w) := by
  obtain ⟨g, hg, -, hdefault⟩ := hreg
  have hnobody : w.roster.default? reg = none := by
    rw [Roster.default?, hg, Option.bind_some, hdefault]
  have hself : self w = (.ok w.current, w) := rfl
  rw [membership, Flow.bind_ok hself, withRegistry_eq, Roster.current]
  cases w.roster.member? reg w.current with
  | some m => rfl
  | none =>
    rw [Roster.adopt, hnobody]
    cases derive <;> rfl

/-- A report is made by a member; a stranger is told to go on. -/
lemma asMember_driver (hreg : w.roster.ForDriver reg) (f : Member → Act ρ ε Verdict) :
    Report.asMember reg f w = (.ok .proceed, w) ∨
      ∃ m, w.roster.member? reg w.current = some m ∧ Report.asMember reg f w = f m w := by
  have hmembership := membership_driver hreg true
  cases hm : w.roster.member? reg w.current with
  | some m =>
    rw [hm] at hmembership
    exact .inr ⟨m, rfl, by rw [Report.asMember, Flow.bind_ok hmembership]; rfl⟩
  | none =>
    rw [hm] at hmembership
    obtain ⟨g, hg, hkind, -⟩ := hreg
    refine .inl ?_
    rw [Report.asMember, Flow.bind_ok hmembership]
    simp only [Option.map_none, Option.getD_none, seeRoster]
    rw [Flow.bind_ok (Flow.see_apply _ w), hg, Option.map_some, Option.getD_some, hkind]
    rfl

/-- An event is reported. -/
lemma report_tells (m : Member) (e : Event) (w : World ρ ε) :
    ∃ o d w', observerOf m.filament w = (.ok o, w) ∧
      World.report o m.identity e w = (.ok d, w') ∧ Tells w m [e] w' ∧ w'.threads = w.threads := by
  obtain ⟨o, ho⟩ : ∃ o, observerOf m.filament w = (.ok o, w) := ⟨_, rfl⟩
  refine ⟨o, _, _, ho, rfl, ⟨rfl, rfl, fun y x hy hx => ?_⟩, rfl⟩
  obtain rfl : y.observer = o := by
    rw [observerOf_eq hy] at ho
    exact Except.ok.inj (congrArg Prod.fst ho)
  exact congrArg (fun r => r.2.observers) (tell_eq hx .proceed (·.report m.identity e))

lemma send_tells (m : Member) (detail : Event.Detail) (w : World ρ ε) :
    ∃ d stack w', Report.send m detail w = (.ok d, w') ∧ Tells w m [⟨detail, stack⟩] w' ∧
      w'.threads = w.threads := by
  obtain ⟨captures, hcaptures⟩ : ∃ captures,
      seeFilament m.filament false (·.flags.capturesStacks) w = (.ok captures, w) := ⟨_, rfl⟩
  obtain ⟨stack, hstack⟩ : ∃ stack, stackFor m.filament w = (.ok stack, w) := by
    rw [stackFor, Flow.bind_ok hcaptures]
    cases captures <;> exact ⟨_, rfl⟩
  obtain ⟨o, d, w', ho, hreport, htells⟩ := report_tells m ⟨detail, stack⟩ w
  exact ⟨d, stack, w', (Flow.bind_ok hstack).trans ((Flow.bind_ok ho).trans hreport), htells⟩

/-! ### Levels -/

lemma running_level_setLevel {t : Thread} (ht : w.threads.get? w.current = some t) (l : Irql) :
    (setLevel l w).2.running.level = l := by
  have hset : (setLevel l w).2.threads.get? w.current = some { t with level := l } :=
    Pool.get?_modify_self _ ht
  rw [running, show (setLevel l w).2.current = w.current from rfl, hset]
  rfl

/-- A thread that is above passive level can be brought down to it. -/
lemma lowerLevel_passive (h : Irql.passive < w.running.level) :
    lowerLevel .passive w = (.ok (), (setLevel .passive w).2) ∧
      (setLevel .passive w).2.running.level = .passive := by
  have hlevel : level w = (.ok w.running.level, w) := rfl
  constructor
  · rw [lowerLevel, Flow.bind_ok hlevel, Irql.lowered_of_le (Irql.le_of_lt h)]
    rfl
  · cases ht : w.threads.get? w.current with
    | some t => exact running_level_setLevel ht _
    | none =>
      rw [running, ht] at h
      cases h

lemma eq_passive_of_not_lt {l : Irql} (h : ¬ Irql.passive < l) : l = .passive :=
  congrArg Irql.mk (UInt8.le_antisymm (Irql.le_of_not_lt h) UInt8.zero_le)

end World

namespace Sink

variable {s : Sink} {call : Call α} {m : Member}

/-- The word about a routine that unwinds from a raised level. -/
def abortText (l : Irql) : String :=
  "Testcase aborted at elevated IRQL " ++ l.text ++ ", lowering to PASSIVE_LEVEL"

/-- What is reported of a routine that unwinds at a level, besides what it reports itself. -/
def abortNote (l : Irql) : List Event :=
  if Irql.passive < l then [.note (abortText l)] else []

/-- A thread that is about to unwind is brought down, and its observer hears if there was a need. -/
lemma settleLevel_tells (hreg : w.roster.ForDriver s.registry)
    (hm : w.roster.member? s.registry w.current = some m) :
    ∃ w', s.settleLevel w = (.ok (), w') ∧ Tells w m (abortNote w.running.level) w' ∧
      w'.running.level = .passive := by
  have hlevel : level w = (.ok w.running.level, w) := rfl
  rw [settleLevel, Flow.bind_ok hlevel, abortNote]
  by_cases h : Irql.passive < w.running.level
  · rw [if_pos h, if_pos h]
    have hmembership := membership_driver hreg false
    rw [hm] at hmembership
    obtain ⟨o, d, w₁, ho, hreport, htells, hthreads⟩ :=
      report_tells m (.note (abortText w.running.level)) w
    have hsame : w₁.running = w.running := by rw [running, running, hthreads, htells.current]
    obtain ⟨hlower, hpassive⟩ := lowerLevel_passive (hsame ▸ h)
    refine ⟨(setLevel .passive w₁).2, ?_, ?_, hpassive⟩
    · refine (Flow.bind_ok hmembership).trans ((Flow.bind_ok ho).trans ?_)
      exact (Flow.bind_ok hreport).trans hlower
    · exact ⟨htells.roster, htells.current, htells.observers⟩
  · rw [if_neg h, if_neg h]
    exact ⟨w, rfl, .of_observers rfl rfl rfl, eq_passive_of_not_lt h⟩

/-- How a verdict comes about: a member reports what there is to report, and a stranger goes on. -/
lemma verdict_cases {R : Act ρ ε Verdict} (hreg : w.roster.ForDriver s.registry)
    (hR : call.verdict? s.registry = some R) :
    R w = (.ok .proceed, w) ∨ ∃ m v stack w₁, w.roster.member? s.registry w.current = some m ∧
      R w = (.ok v, w₁) ∧ w₁.threads = w.threads ∧
      Tells w m (call.detail?.map (Event.mk · stack)).toList w₁ := by
  have hreport (detail : Event.Detail) (k : Member → Disposition → Verdict)
      (hdetail : call.detail? = some detail) :
      Report.asMember s.registry (fun m => do return k m (← Report.send m detail)) w
          = (.ok .proceed, w) ∨
        ∃ m v stack w₁, w.roster.member? s.registry w.current = some m ∧
          Report.asMember s.registry (fun m => do return k m (← Report.send m detail)) w
            = (.ok v, w₁) ∧ w₁.threads = w.threads ∧
          Tells w m (call.detail?.map (Event.mk · stack)).toList w₁ := by
    refine (asMember_driver hreg _).imp_right ?_
    rintro ⟨m, hm, hmember⟩
    obtain ⟨d, stack, w₁, hsend, htells, hthreads⟩ := send_tells m detail w
    rw [hdetail]
    exact ⟨m, k m d, stack, w₁, hm, hmember.trans (Flow.bind_ok hsend), hthreads, htells⟩
  cases call with
  | assertion site expression =>
    cases hR
    exact hreport _ (fun m d => .ofDisposition m d) rfl
  | comparison expected actual site expression =>
    cases hR
    rw [Report.comparison]
    split
    · exact .inl rfl
    · rename_i hne
      exact hreport _ (fun m d => .ofDisposition m d) (if_neg hne)
  | inconclusiveness message =>
    cases hR
    exact hreport _ (fun m _ => .ofFailure m .inconclusive) rfl
  | log message =>
    cases hR
    exact hreport _ (fun _ _ => .proceed) rfl
  | formattedAssertion site message =>
    cases hR
    exact hreport _ (fun m d => .ofDisposition m d) rfl
  | failure =>
    cases hR
    refine (asMember_driver hreg _).imp_right ?_
    rintro ⟨m, hm, hmember⟩
    exact ⟨m, .ofFailure m .failed, none, w, hm, hmember, rfl, .of_observers rfl rfl rfl⟩
  | value | setValue | startThread => cases hR

/-- Whoever unwinds out of a sink is a member of a filament and at passive level, and its observer
has heard what it reported, and of its level if that was another one. -/
theorem unwinds_at_passive (hreg : w.roster.ForDriver s.registry)
    (h : (s.perform call : Act ρ ε α).attempt w = (.ok (.error p), w')) :
    w'.running.level = .passive ∧
      ∃ m stack, w.roster.member? s.registry w.current = some m ∧
        Tells w m ((call.detail?.map (Event.mk · stack)).toList
          ++ abortNote w.running.level) w' := by
  obtain ⟨R, hR, happly⟩ := perform_unwound h
  -- to go on or to break in is no unwind
  have hgoes {v : Verdict} {w₁ : World ρ ε} (hv : (s.apply v).attempt w₁ = (.ok (.error p), w')) :
      ∃ e, v = .raise e := by
    cases v with
    | raise e => exact ⟨e, rfl⟩
    | proceed | breakIn => cases hv
  rcases verdict_cases hreg hR with hproceed | ⟨m, v, stack, w₁, hm, hverdict, hthreads, htells⟩
  · rw [Flow.attempt_bind_ok (Flow.attempt_ok hproceed)] at happly
    obtain ⟨e, he⟩ := hgoes happly
    cases he
  · rw [Flow.attempt_bind_ok (Flow.attempt_ok hverdict)] at happly
    obtain ⟨e, rfl⟩ := hgoes happly
    have hsame : w₁.running = w.running := by rw [running, running, hthreads, htells.current]
    obtain ⟨w₂, hsettle, htold, hpassive⟩ := settleLevel_tells (s := s) (w := w₁)
      (htells.roster ▸ hreg) (by rw [htells.roster, htells.current]; exact hm)
    have hraise : (s.apply (.raise e) : Act ρ ε Disposition) w₁
        = (.error (.unwound (.signal e)), w₂) := Flow.bind_ok hsettle
    rw [Flow.attempt_unwound hraise] at happly
    obtain ⟨-, rfl⟩ := Prod.mk.inj happly
    exact ⟨hpassive, m, stack, hm, htells.trans (hsame ▸ htold)⟩

end Sink

end Testbench
