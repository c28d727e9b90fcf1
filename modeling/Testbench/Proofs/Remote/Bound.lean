import Testbench.Proofs.Remote.Script
import Testbench.Proofs.World

/-!
# Reports of a bound thread

A thread that is bound to a filament, and a boundary waits for it, reports to the observer of the
filament and does what the observer answers.  Nothing else happens: afterwards the world is as
before, up to the value of the filament, the books of the observer and what routines keep.  This is
the same whether the thread reports to the registry itself or through the sink of a driver.
-/

namespace Testbench

open World

/-! ### Steady observers -/

namespace Observer

/-- The observer answers events by their kind alone. -/
def Steady (d : Dispositions) : Observer → Prop
  | .recorder r => r.policy.dispositions = d ∧ r.policy.script = []
  | .channel c => c.dispositions = d
  | .console _ => False

variable {d : Dispositions} {x : Observer}

lemma Steady.report_fst (hx : x.Steady d) (i : Identity) (e : Event) :
    (x.report i e).1 = d.answer e.kind := by
  cases x with
  | recorder r =>
    obtain ⟨rfl, hscript⟩ := hx
    simp only [Observer.report, Recorder.report, Recorder.count, Recorder.remember, hscript]
    rfl
  | channel c =>
    obtain rfl := hx
    rfl
  | console c => exact hx.elim

lemma Steady.report_snd (hx : x.Steady d) (i : Identity) (e : Event) :
    (x.report i e).2.Steady d := by
  cases x with
  | recorder r =>
    obtain ⟨rfl, hscript⟩ := hx
    simp only [Observer.report, Recorder.report, Recorder.count, Recorder.remember, hscript]
    exact ⟨rfl, hscript⟩
  | channel c => exact hx
  | console c => exact hx.elim

lemma Steady.query_eq (hx : x.Steady d) (kind : EventKind) : x.query kind = d.answer kind := by
  cases x with
  | recorder r =>
    obtain ⟨rfl, -⟩ := hx
    rfl
  | channel c =>
    obtain rfl := hx
    rfl
  | console c => exact hx.elim

/-- The observer after some reports. -/
def hears (i : Identity) (x : Observer) (es : List Event) : Observer :=
  es.foldl (fun x e => (x.report i e).2) x

lemma Steady.hears (hx : x.Steady d) (i : Identity) (es : List Event) :
    (x.hears i es).Steady d := by
  induction es generalizing x with
  | nil => exact hx
  | cons e es ih => exact ih (hx.report_snd i e)

lemma hears_append (i : Identity) (x : Observer) (es fs : List Event) :
    x.hears i (es ++ fs) = (x.hears i es).hears i fs := List.foldl_append

end Observer

/-! ### Bound threads -/

namespace World

variable {ρ ε : Type}

/-- The running thread, at passive level and under a boundary, is the main thread of a filament that
reports to an observer, asks for no stacks and has no children. -/
structure Bound (reg : RegistryId) (f : FilamentId) (o : ObserverId) (w : World ρ ε) : Prop where
  thread : ∃ t, w.threads.get? w.current = some t ∧ t.level = .passive ∧
    t.keepsPanicStack = false ∧ t.panicStack = none
  binding : (w.roster.table reg).lookup? w.current = some ⟨w.current, f, true⟩
  filament : ∃ x, w.roster.filaments.get? f = some x ∧ x.observer = o ∧ x.mainThread = w.current ∧
    x.flags.capturesStacks = false ∧ x.running = 0 ∧ x.childOutcome = .completed

lemma Bound.passive {w : World ρ ε} {reg : RegistryId} {f : FilamentId} {o : ObserverId}
    (hw : w.Bound reg f o) : w.Passive := by
  obtain ⟨t, ht, hlevel, -⟩ := hw.thread
  exact ⟨t, ht, hlevel⟩

/-- The world after the observer of a filament, its value and what routines keep have changed. -/
def touched (w : World ρ ε) (f : FilamentId) (o : ObserverId) (v : UInt64) (x : Observer)
    (st : ε) : World ρ ε :=
  { w with
    roster := { w.roster with
      filaments := w.roster.filaments.modify f fun y => y.setValue .ordinary v }
    observers := w.observers.modify o fun _ => x
    store := st }

variable {w : World ρ ε} {reg : RegistryId} {f : FilamentId} {o : ObserverId}

lemma touched_touched (w : World ρ ε) (f : FilamentId) (o : ObserverId) (v v' : UInt64)
    (x x' : Observer) (st st' : ε) :
    (w.touched f o v x st).touched f o v' x' st' = w.touched f o v' x' st' := by
  simp only [touched, Pool.modify_modify]
  rfl

lemma touched_observing (w : World ρ ε) (f : FilamentId) (o : ObserverId) (v : UInt64)
    (x x' : Observer) (st : ε) : (w.touched f o v x st).observing o x' = w.touched f o v x' st := by
  simp only [touched, World.observing, Pool.modify_modify]

lemma touched_observer {x : Observer} (hx : w.observers.get? o = some x) (f : FilamentId)
    (v : UInt64) (x' : Observer) (st : ε) : (w.touched f o v x' st).observers.get? o = some x' :=
  Pool.get?_modify_self _ hx

/-- A change of the observer alone is one of these. -/
lemma Bound.exists_touched (hw : w.Bound reg f o) (x : Observer) :
    ∃ v, w.observing o x = w.touched f o v x w.store := by
  obtain ⟨y, hy, -⟩ := hw.filament
  have hsame : w.roster.filaments.modify f (fun z => z.setValue .ordinary y.ordinary)
      = w.roster.filaments := Pool.modify_eq_self_of_some hy rfl
  refine ⟨y.ordinary, ?_⟩
  simp only [touched, hsame]
  rfl

lemma observing_self {x : Observer} (hx : w.observers.get? o = some x) : w.observing o x = w := by
  rw [observing, Pool.modify_eq_self_of_some hx rfl]

/-- That nothing changes is one of these changes, too. -/
lemma Bound.exists_touched_self (hw : w.Bound reg f o) {x : Observer}
    (hx : w.observers.get? o = some x) : ∃ v, w = w.touched f o v x w.store := by
  obtain ⟨v, hv⟩ := hw.exists_touched x
  rw [observing_self hx] at hv
  exact ⟨v, hv⟩

lemma Bound.touched (hw : w.Bound reg f o) (v : UInt64) (x : Observer) (st : ε) :
    (w.touched f o v x st).Bound reg f o where
  thread := hw.thread
  binding := hw.binding
  filament := by
    obtain ⟨y, hy, h⟩ := hw.filament
    exact ⟨y.setValue .ordinary v, Pool.get?_modify_self _ hy, h⟩

/-- The place of a bound thread. -/
def placeOf (w : World ρ ε) (f : FilamentId) : Member := ⟨f, .ownMain w.current, true⟩

lemma Bound.current_eq (hw : w.Bound reg f o) (derive : Bool) :
    w.roster.current reg w.current derive = (.ok (w.placeOf f), w.roster) := by
  obtain ⟨y, hy, -, hmain, -⟩ := hw.filament
  have hmember : w.roster.member? reg w.current = some (w.placeOf f) := by
    rw [Roster.member?, hw.binding, Option.map_some, Roster.memberOf, Roster.mainThread?, hy,
      Option.map_some, Option.getD_some, hmain]
    rfl
  rw [Roster.current, hmember]

lemma Bound.membership_eq (hw : w.Bound reg f o) (derive : Bool) :
    membership reg derive w = (.ok (.ok (w.placeOf f)), w) := by
  have hself : self w = (.ok w.current, w) := rfl
  rw [membership, Flow.bind_ok hself, withRegistry_eq, hw.current_eq]

lemma Bound.send_eq (hw : w.Bound reg f o) {x : Observer} (hx : w.observers.get? o = some x)
    (detail : Event.Detail) :
    Report.send (w.placeOf f) detail w =
      (.ok (x.report (.ownMain w.current) ⟨detail, none⟩).1,
        w.observing o (x.report (.ownMain w.current) ⟨detail, none⟩).2) := by
  obtain ⟨y, hy, rfl, -, hstacks, -⟩ := hw.filament
  have hstack : stackFor (w.placeOf f).filament w = (.ok none, w) := stackFor_eq hy hstacks
  have hobserver : observerOf (w.placeOf f).filament w = (.ok y.observer, w) := observerOf_eq hy
  rw [Report.send, Flow.bind_ok hstack, Flow.bind_ok hobserver, report, tell_eq hx]
  rfl

lemma Bound.asMember_eq (hw : w.Bound reg f o) (g : Member → Act ρ ε Verdict) :
    Report.asMember reg g w = g (w.placeOf f) w := by
  rw [Report.asMember, Flow.bind_ok (hw.membership_eq true)]

end World

/-! ### Steps -/

namespace Script

variable {w : Scene} {f : FilamentId} {o : ObserverId} {p : Path} {d : Dispositions}
  {x : Observer}

/-- A sink that offers all that report scripts need. -/
def Path.Offers : Path → Prop
  | .own | .shared => True
  | .sink s => ¬ s.version < Sink.version₂

/-- What the answer to a failed assertion makes of a bound thread. -/
lemma apply_ofDisposition (t : ThreadId) (a : Disposition) (w : Scene) :
    ∃ e, (Verdict.ofDisposition ⟨f, .ownMain t, true⟩ a).apply w =
      (match a.ending? with
        | none => .ok e
        | some payload => .error (.unwound payload), w) := by
  cases a with
  | proceed => exact ⟨.proceed, rfl⟩
  | breakIn => exact ⟨.proceed, rfl⟩
  | breakAlways => exact ⟨.breakIn, rfl⟩
  | abort => exact ⟨.proceed, rfl⟩

/-- A thread at passive level has nothing to settle before it unwinds through a sink. -/
lemma sink_apply_eq (s : Sink) (v : Verdict) (hw : w.Passive) : s.apply v w = v.apply w := by
  have hsettle : s.settleLevel w = (.ok (), w) := by
    rw [Sink.settleLevel, Flow.bind_ok (level_eq hw), if_neg (by decide)]
    rfl
  cases v with
  | proceed => rfl
  | breakIn => rfl
  | raise sig => rw [Sink.apply, Flow.bind_ok hsettle]

/-- How a path acts on a verdict. -/
def Path.act : Path → Verdict → Play Disposition
  | .own, v | .shared, v => v.apply
  | .sink s, v => s.apply v

lemma Path.comparison_def (p : Path) (expected actual : UInt32) (site : Site)
    (expression : String) : p.comparison expected actual site expression = (do
      p.act (← Report.comparison p.registry expected actual site expression)) := by
  cases p <;> rfl

/-- Verdicts are acted upon as they are, whatever the path. -/
lemma Path.act_eq (p : Path) (v : Verdict) (hw : w.Passive) : p.act v w = v.apply w := by
  cases p with
  | own => rfl
  | shared => rfl
  | sink s => exact sink_apply_eq s v hw

section

variable (hw : w.Bound p.registry f o) (hx : w.observers.get? o = some x)
include hw hx

lemma report_log_eq (message : String) :
    Report.log p.registry message w =
      (.ok .proceed, w.observing o (x.report (.ownMain w.current) (.note message)).2) := by
  rw [Report.log, hw.asMember_eq, Flow.bind_ok (hw.send_eq hx _)]
  rfl

lemma report_inconclusiveness_eq (message : String) :
    Report.inconclusiveness p.registry message w =
      (.ok (.raise .inconclusive),
        w.observing o (x.report (.ownMain w.current) ⟨.inconclusiveness message, none⟩).2) := by
  rw [Report.inconclusiveness, hw.asMember_eq, Flow.bind_ok (hw.send_eq hx _)]
  rfl

lemma report_assertion_eq (hd : x.Steady d) (site : Site) (expression : String) :
    Report.assertion p.registry site expression w =
      (.ok (.ofDisposition (w.placeOf f) d.failedAssertion),
        w.observing o (x.report (.ownMain w.current) ⟨site.detail expression, none⟩).2) := by
  rw [Report.assertion, hw.asMember_eq, Flow.bind_ok (hw.send_eq hx _), hd.report_fst]
  rfl

omit hx in
lemma report_failure_eq : Report.failure p.registry w = (.ok (.raise .failed), w) := by
  rw [Report.failure, hw.asMember_eq]
  rfl

end

/-! ### Reports along a path -/

section

variable (hw : w.Bound p.registry f o) (hx : w.observers.get? o = some x)
include hw hx

lemma Path.log_eq (message : String) :
    p.log message w = (.ok (), w.observing o (x.report (.ownMain w.current) (.note message)).2) := by
  have hlog : p.log message = (do let _ ← p.act (← Report.log p.registry message)) := by
    cases p <;> rfl
  rw [hlog, Flow.bind_ok (report_log_eq hw hx message),
    Flow.bind_ok (p.act_eq .proceed (hw.passive.observing ..))]
  rfl

lemma Path.inconclusiveness_eq (message : String) :
    p.inconclusiveness message w = (.error (.unwound (.signal .inconclusive)),
      w.observing o (x.report (.ownMain w.current) ⟨.inconclusiveness message, none⟩).2) := by
  have hreport : p.inconclusiveness message =
      (do let _ ← p.act (← Report.inconclusiveness p.registry message)) := by
    cases p <;> rfl
  rw [hreport, Flow.bind_ok (report_inconclusiveness_eq hw hx message),
    Flow.bind_error (p.act_eq (.raise _) (hw.passive.observing ..))]

omit hx in
lemma Path.failure_eq (hp : p.Offers) :
    p.failure w = (.error (.unwound (.signal .failed)), w) := by
  have hfailure : p.failure = (do
      let _ ← p.act (← Report.failure p.registry)
      return .ok ()) := by
    cases p with
    | own => rfl
    | shared => rfl
    | sink s => exact if_neg hp
  rw [hfailure, Flow.bind_ok (report_failure_eq hw),
    Flow.bind_error (p.act_eq (.raise _) hw.passive)]

/-- An assertion along a path: the thread goes on or ends as the answer has it. -/
lemma Path.assertion_eq (hp : p.Offers) (hd : x.Steady d) (formatted : Bool) (site : Site)
    (expression : String) :
    ∃ e, p.assertion formatted site expression w =
      (match d.failedAssertion.ending? with
        | none => .ok (.ok e)
        | some payload => .error (.unwound payload),
        w.observing o (x.report (.ownMain w.current) ⟨site.detail expression, none⟩).2) := by
  have hassertion : p.assertion formatted site expression = (do
      return .ok (← p.act (← Report.assertion p.registry site expression))) := by
    cases p with
    | own => rfl
    | shared => rfl
    | sink s =>
      have hreport : s.formattedAssertion site expression
          = (do return .ok (← s.assertion site expression) : Play _) := if_neg hp
      -- a sink that offers formatted assertions makes no difference between the two
      cases formatted <;> simp only [Path.assertion, hreport, Sink.assertion, bind_assoc, ite_true,
        Bool.false_eq_true, ite_false] <;> rfl
  rw [hassertion, Flow.bind_ok (report_assertion_eq hw hx hd site expression)]
  obtain ⟨e, he⟩ := apply_ofDisposition (f := f) w.current d.failedAssertion
    (w.observing o (x.report (.ownMain w.current) ⟨site.detail expression, none⟩).2)
  rw [← p.act_eq _ (hw.passive.observing ..)] at he
  refine ⟨e, ?_⟩
  cases hending : d.failedAssertion.ending? with
  | none =>
    rw [hending] at he
    exact Flow.bind_ok he
  | some payload =>
    rw [hending] at he
    exact Flow.bind_error he

lemma Path.comparison_eq (hd : x.Steady d) (expected actual : UInt32) (site : Site)
    (expression : String) (hne : expected ≠ actual) :
    ∃ e, p.comparison expected actual site expression w =
      (match d.failedAssertion.ending? with
        | none => .ok e
        | some payload => .error (.unwound payload),
        w.observing o (x.report (.ownMain w.current)
          ⟨site.detail (comparisonText expected actual expression), none⟩).2) := by
  rw [p.comparison_def, Report.comparison, if_neg hne,
    Flow.bind_ok (report_assertion_eq hw hx hd site (comparisonText expected actual expression)),
    p.act_eq _ (hw.passive.observing ..)]
  exact apply_ofDisposition _ _ _

end

/-! ### Values -/

section

variable (hw : w.Bound p.registry f o)
include hw

lemma report_value_eq (derive : Bool) :
    ∃ v, Report.value p.registry derive .ordinary w = (.ok (.ok v), w) := by
  obtain ⟨y, hy, -⟩ := hw.filament
  refine ⟨y.ordinary, ?_⟩
  have hsee : seeFilament (w.placeOf f).filament 0 (·.value .ordinary) w = (.ok y.ordinary, w) :=
    seeFilament_eq hy 0 _
  rw [Report.value, Flow.bind_ok (hw.membership_eq derive)]
  exact Flow.bind_ok hsee

lemma Path.value_eq (hp : p.Offers) : ∃ note, p.value .ordinary w = (.ok note, w) := by
  cases p with
  | sink s =>
    obtain ⟨v, hv⟩ := report_value_eq hw false
    have hvalue : s.value .ordinary w = (.ok (.ok v), w) := by
      rw [Sink.value, Sink.requiring, if_neg hp]
      exact Flow.bind_ok hv
    exact ⟨_, Flow.bind_ok hvalue⟩
  | own =>
    obtain ⟨v, hv⟩ := report_value_eq hw true
    exact ⟨_, Flow.bind_ok hv⟩
  | shared =>
    obtain ⟨v, hv⟩ := report_value_eq hw true
    exact ⟨_, Flow.bind_ok hv⟩

lemma report_setValue_eq (hx : w.observers.get? o = some x) (derive : Bool) (v : UInt64) :
    Report.setValue p.registry derive .ordinary v w =
      (.ok (.ok ()), w.touched f o v x w.store) := by
  have hsame : w.observers.modify o (fun _ => x) = w.observers :=
    Pool.modify_eq_self_of_some hx rfl
  rw [Report.setValue, Flow.bind_ok (hw.membership_eq derive), World.touched, hsame]
  rfl

lemma Path.setValue_eq (hp : p.Offers) (hx : w.observers.get? o = some x) (v : UInt64) :
    ∃ note, p.setValue .ordinary v w = (.ok note, w.touched f o v x w.store) := by
  cases p with
  | sink s =>
    have hset : s.setValue .ordinary v w = (.ok (.ok ()), w.touched f o v x w.store) := by
      rw [Sink.setValue, Sink.requiring, if_neg hp]
      exact Flow.bind_ok (report_setValue_eq hw hx false v)
    exact ⟨_, Flow.bind_ok hset⟩
  | own =>
    obtain ⟨note, hnote⟩ := Path.value_eq (p := .own) (hw.touched v x w.store) hp
    exact ⟨note, (Flow.bind_ok (report_setValue_eq hw hx true v)).trans hnote⟩
  | shared => exact ⟨_, Flow.bind_ok (report_setValue_eq hw hx true v)⟩

end

/-! ### Bodies -/

/-- How a computation ends that has an ending. -/
def resultOf : Option Payload → Except Stop Unit
  | none => .ok ()
  | some payload => .error (.unwound payload)

section

variable (hw : w.Bound p.registry f o) (hx : w.observers.get? o = some x) (hd : x.Steady d)
  (hp : p.Offers)
include hw hx hd hp

/-- An assertion leaves its answer in the trace if the routine goes on. -/
lemma assertion_touches {style : AssertionStyle} (hs : style ≠ .breaking) (expression : String)
    (site : Site) :
    ∃ v st, assertion p style expression site w = (resultOf d.failedAssertion.ending?,
      w.touched f o v (x.report (.ownMain w.current) ⟨site.detail expression, none⟩).2 st) := by
  obtain ⟨e, he⟩ := Path.assertion_eq hw hx hp hd (style == .formatted) site expression
  obtain ⟨v, hv⟩ := hw.exists_touched
    (x.report (.ownMain w.current) ⟨site.detail expression, none⟩).2
  rw [hv] at he
  cases hending : d.failedAssertion.ending? with
  | none =>
    rw [hending] at he
    cases style with
    | breaking => exact absurd rfl hs
    | plain => exact ⟨v, _, (Flow.bind_ok he).trans rfl⟩
    | formatted => exact ⟨v, _, (Flow.bind_ok he).trans rfl⟩
  | some payload =>
    rw [hending] at he
    exact ⟨v, w.store, Flow.bind_error he⟩

omit hp in
/-- A comparison is an assertion, unless the words are equal. -/
lemma comparison_touches (expected actual : UInt32) (expression : String) (site : Site) :
    ∃ v st, comparison p false expected actual expression site w =
      (resultOf (if expected = actual then none else d.failedAssertion.ending?),
        w.touched f o v (if expected = actual then x else (x.report (.ownMain w.current)
          ⟨site.detail (comparisonText expected actual expression), none⟩).2) st) := by
  by_cases heq : expected = actual
  · -- nothing is reported of equal words
    have hreport : Report.comparison p.registry expected actual site expression w
        = (.ok .proceed, w) := by rw [Report.comparison, if_pos heq]; rfl
    obtain ⟨v, hv⟩ := hw.exists_touched_self hx
    have hequal : p.comparison expected actual site expression w
        = (.ok .proceed, w.touched f o v x w.store) := by
      rw [p.comparison_def, Flow.bind_ok hreport, p.act_eq .proceed hw.passive, ← hv]
      rfl
    rw [if_pos heq, if_pos heq]
    exact ⟨v, _, (Flow.bind_ok hequal).trans rfl⟩
  · obtain ⟨e, he⟩ := Path.comparison_eq hw hx hd expected actual site expression heq
    obtain ⟨v, hv⟩ := hw.exists_touched (x.report (.ownMain w.current)
      ⟨site.detail (comparisonText expected actual expression), none⟩).2
    rw [hv] at he
    rw [if_neg heq, if_neg heq]
    cases hending : d.failedAssertion.ending? with
    | none =>
      rw [hending] at he
      exact ⟨v, _, (Flow.bind_ok he).trans rfl⟩
    | some payload =>
      rw [hending] at he
      exact ⟨v, w.store, Flow.bind_error he⟩

/-- A step that reports tells the observer its event, and ends the routine or does not. -/
lemma bodyOf_report (exec : Routine → Play Unit) (call : Nat) {s : Step} (hs : s.isReport)
    (putOff : Array (Play Unit)) :
    ∃ v st, bodyOf exec ⟨p, call⟩ s ⟨w, putOff⟩ = (resultOf (s.ending? d),
      ⟨w.touched f o v (x.hears (.ownMain w.current) s.event?.toList) st, putOff⟩) := by
  have hlift {play : Play Unit} {e : Option Payload} {x' : Observer}
      (h : ∃ v st, play w = (resultOf e, w.touched f o v x' st)) :
      ∃ v st, Body.lift play ⟨w, putOff⟩ = (resultOf e, ⟨w.touched f o v x' st, putOff⟩) := by
    obtain ⟨v, st, h⟩ := h
    exact ⟨v, st, by rw [Body.lift, h]⟩
  -- a step without an event leaves the observer as it is
  obtain ⟨v₀, hw₀⟩ := hw.exists_touched_self hx
  cases s with
  | log message =>
    obtain ⟨v, hv⟩ := hw.exists_touched (x.report (.ownMain w.current) (.note message)).2
    exact hlift (e := none) ⟨v, _, (Path.log_eq hw hx message).trans (by rw [hv]; rfl)⟩
  | failure =>
    have hfailure : failure p w
        = (resultOf (some (.signal .failed)), w.touched f o v₀ x w.store) := by
      rw [← hw₀]
      exact Flow.bind_error (Path.failure_eq hw hp)
    exact hlift ⟨v₀, w.store, hfailure⟩
  | inconclusiveness message =>
    obtain ⟨v, hv⟩ := hw.exists_touched
      (x.report (.ownMain w.current) ⟨.inconclusiveness message, none⟩).2
    have hreport : (do p.inconclusiveness message; leave .inconclusiveness .returned : Play Unit) w
        = (resultOf (some (.signal .inconclusive)), w.touched f o v
          (x.report (.ownMain w.current) ⟨.inconclusiveness message, none⟩).2 w.store) := by
      rw [← hv]
      exact Flow.bind_error (Path.inconclusiveness_eq hw hx message)
    exact hlift ⟨v, w.store, hreport⟩
  | panicking text =>
    obtain ⟨t, ht, -, hkeeps, -⟩ := hw.thread
    have hsee : seeThread Thread.keepsPanicStack w = (.ok false, w) := by
      rw [seeThread, Flow.see_apply, ht, ← hkeeps]
      rfl
    -- the boundary of a filament without stacks keeps none of a panic
    have hpanic : World.panicking text w
        = (resultOf (some (.panic text)), w.touched f o v₀ x w.store) := by
      rw [← hw₀, World.panicking, Flow.bind_ok hsee]
      rfl
    exact hlift ⟨v₀, w.store, hpanic⟩
  | value tag =>
    cases tag with
    | reserved => cases hs
    | ordinary =>
      obtain ⟨note, hnote⟩ := Path.value_eq hw hp
      have hnote' : p.value .ordinary w = (.ok note, w.touched f o v₀ x w.store) := by
        rw [← hw₀]
        exact hnote
      exact hlift (e := none) ⟨v₀, _, (Flow.bind_ok hnote').trans rfl⟩
  | setValue tag v =>
    cases tag with
    | reserved => cases hs
    | ordinary =>
      obtain ⟨note, hnote⟩ := Path.setValue_eq hw hp hx v
      exact hlift (e := none) ⟨v, _, (Flow.bind_ok hnote).trans rfl⟩
  | assertion style expression site =>
    exact hlift (assertion_touches hw hx hd hp (by simpa [Step.isReport] using hs) expression site)
  | comparison breaking expected actual expression site =>
    obtain rfl : breaking = false := by simpa [Step.isReport] using hs
    have h := comparison_touches hw hx hd expected actual expression site
    by_cases heq : expected = actual
    · rw [if_pos heq, if_pos heq] at h
      simp only [Step.ending?, Step.event?, if_pos heq]
      exact hlift h
    · rw [if_neg heq, if_neg heq] at h
      simp only [Step.ending?, Step.event?, if_neg heq]
      exact hlift h
  | _ => cases hs

end

/-- The steps of a routine that reports, up to the one with which it ends. -/
lemma bodyOfAll_reports (hp : p.Offers) (exec : Routine → Play Unit) (call : Nat)
    {steps : List Step} (hs : ∀ s ∈ steps, s.isReport) (putOff : Array (Play Unit))
    (hw : w.Bound p.registry f o) (hx : w.observers.get? o = some x) (hd : x.Steady d) :
    ∃ v st, bodyOfAll exec ⟨p, call⟩ steps ⟨w, putOff⟩ = (resultOf (endingOf d steps),
      ⟨w.touched f o v (x.hears (.ownMain w.current) (eventsOf d steps)) st, putOff⟩) := by
  -- the next step finds the thread bound as this one found it, and the observer as steady
  induction steps generalizing w x with
  | nil =>
    obtain ⟨v, hv⟩ := hw.exists_touched_self hx
    refine ⟨v, w.store, ?_⟩
    rw [eventsOf, Observer.hears, List.foldl_nil, ← hv]
    rfl
  | cons s rest ih =>
    obtain ⟨v, st, hstep⟩ :=
      bodyOf_report hw hx hd hp exec call (hs s List.mem_cons_self) putOff
    rw [bodyOfAll, eventsOf, endingOf, Observer.hears_append]
    cases hending : s.ending? d with
    | some payload =>
      -- the steps behind this one are not reached
      rw [hending] at hstep
      exact ⟨v, st, Flow.bind_error hstep⟩
    | none =>
      rw [hending] at hstep
      obtain ⟨v', st', hrest⟩ := ih (fun s' hs' => hs s' (List.mem_cons_of_mem s hs'))
        (hw.touched v _ st) (touched_observer hx f v _ st) (hd.hears _ _)
      rw [touched_touched] at hrest
      exact ⟨v', st', (Flow.bind_ok hstep).trans hrest⟩

/-- A body that puts nothing off is over with its last step. -/
lemma perform_eq {b : Body Unit} {e : Option Payload} {w' : Scene}
    (hb : b ⟨w, #[]⟩ = (resultOf e, ⟨w', #[]⟩)) : b.perform w = (resultOf e, w') := by
  have hcatch : Body.catchUp ⟨w', #[]⟩ = (.ok (), ⟨w', #[]⟩) := rfl
  have hensured : (b.ensuring Body.catchUp) ⟨w, #[]⟩ = (resultOf e, ⟨w', #[]⟩) := by
    cases e with
    | none => exact Flow.ensuring_ok hb hcatch
    | some payload => exact Flow.ensuring_unwound hb hcatch
  rw [Body.perform, hensured]

/-- A report script does what it says, in whatever way it reports. -/
lemma exec_along (script : ReportScript) (hp : p.Offers) (depth : Nat)
    (hw : w.Bound p.registry f o) (hx : w.observers.get? o = some x) (hd : x.Steady d) :
    ∃ v st, exec (depth + 1) (script.along p) w = (resultOf (endingOf d script.steps),
      w.touched f o v (x.hears (.ownMain w.current) (eventsOf d script.steps)) st) := by
  obtain ⟨v, hv⟩ := hw.exists_touched_self hx
  obtain ⟨n, st, hcount⟩ : ∃ n st, countCall script.id w = (.ok n, { w with store := st }) :=
    ⟨_, _, rfl⟩
  have hstore : { w with store := st } = w.touched f o v x st :=
    congrArg (fun u : Scene => { u with store := st }) hv
  rw [hstore] at hcount
  obtain ⟨v', st', hbody⟩ := bodyOfAll_reports hp (exec depth) n script.reports #[]
    (hw.touched v x st) (touched_observer hx f v x st) hd
  rw [touched_touched] at hbody
  refine ⟨v', st', ?_⟩
  rw [ReportScript.along, exec, Flow.bind_ok hcount]
  exact perform_eq hbody

end Script

end Testbench
