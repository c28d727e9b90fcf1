import Testbench.Child
import Testbench.Driver.Client
import Testbench.Proofs.Waits

/-!
# What routines are made of

Routines work on the world as they like, with one exception: observers they reach by the contract
alone.  They report events, ask for answers, start threads and tell of them, and that is all they can
do to an observer.  A routine may also make requests to the device by itself, and then it has a
channel of its own in between.

What is to be shown of everything that a routine does is shown of the ways in which routines are put
together; `Closed` says which they are.  Whatever is so closed is true of all that drivers report
through, of the boundary of a routine, of a call into a driver and of the remote routine that makes
it, provided that it is true of the routines.
-/

namespace Testbench

/-- What threads ask of observers by contract while a routine runs, and what they take for the answer
if there is no observer. -/
inductive Observer.Asked : {α : Type} → α → (Observer → α × Observer) → Prop
  | report (i : Identity) (e : Event) : Asked Disposition.proceed (·.report i e)
  | query (kind : EventKind) : Asked Disposition.proceed fun x => (x.query kind, x)
  | threadStart : Asked ThreadStart.started fun x => (x.threadStart, x)
  | childStarts (i : Identity) : Asked () fun x => ((), x.childStarts i)
  | childFinished (i : Identity) : Asked () fun x => ((), x.childFinished i)
  | unhandledException (message : String) : Asked () fun x => ((), x.unhandledException message)
  | queue (e : Event) : Asked () fun x => ((), x.queue e)

namespace World

open Observer (Asked)

variable {ρ ε α β : Type}

/-- Something that neither looks at observers nor changes them. -/
def Apart (m : Act ρ ε α) : Prop :=
  ∀ w observers, m { w with observers } = ((m w).1, { (m w).2 with observers })

lemma Apart.observers_eq {m : Act ρ ε α} (h : Apart m) (w : World ρ ε) :
    (m w).2.observers = w.observers := by
  have hsame := congrArg (fun r => r.2.observers) (h w w.observers)
  exact hsame

/-- Something that is made of such, and of what the contract has in store for observers. -/
inductive Lawful : {α : Type} → Act ρ ε α → Prop
  | apart {α : Type} {m : Act ρ ε α} (hm : Apart m) : Lawful m
  | tell {α : Type} {fallback : α} {f : Observer → α × Observer} (hf : Asked fallback f)
      (o : ObserverId) : Lawful (tell o fallback f)
  | bind {α β : Type} {m : Act ρ ε α} {k : α → Act ρ ε β} (hm : Lawful m)
      (hk : ∀ a, Lawful (k a)) : Lawful (m >>= k)
  | attempt {α : Type} {m : Act ρ ε α} (hm : Lawful m) : Lawful m.attempt
  | request {exec : Routines ρ ε} (hexec : ∀ routine, Lawful (exec routine))
      (hothers : Lawful exec.others) (input output : List UInt8) :
      Lawful (Driver.callRoutine exec input output)

/-- A property of computations that goes on to hold where they are put together. -/
structure Closed (P : {α : Type} → Act ρ ε α → Prop) : Prop where
  apart : ∀ {α : Type} {m : Act ρ ε α}, Apart m → P m
  tell : ∀ {α : Type} {fallback : α} {f : Observer → α × Observer}, Asked fallback f →
    ∀ o, P (tell o fallback f)
  bind : ∀ {α β : Type} {m : Act ρ ε α} {k : α → Act ρ ε β}, P m → (∀ a, P (k a)) → P (m >>= k)
  attempt : ∀ {α : Type} {m : Act ρ ε α}, P m → P m.attempt

lemma Lawful.closed : Closed (ρ := ρ) (ε := ε) Lawful := ⟨.apart, .tell, .bind, .attempt⟩

/-- What is closed is true of everything lawful, if it is true of requests. -/
theorem Lawful.induct {P : {α : Type} → Act ρ ε α → Prop} (hP : Closed P)
    (hrequest : ∀ (exec : Routines ρ ε) (input output : List UInt8),
      (∀ routine, P (exec routine)) → P exec.others → P (Driver.callRoutine exec input output))
    {m : Act ρ ε α} (hm : Lawful m) : P m := by
  induction hm with
  | apart hm => exact hP.apart hm
  | tell hf o => exact hP.tell hf o
  | bind _ _ ihm ihk => exact hP.bind ihm ihk
  | attempt _ ih => exact hP.attempt ih
  | request _ _ input output ih ihothers => exact hrequest _ input output ih ihothers

namespace Closed

variable {P : {α : Type} → Act ρ ε α → Prop} (hP : Closed P)
include hP

lemma pure (a : α) : P (Pure.pure a : Act ρ ε α) := hP.apart fun _ _ => rfl

lemma unwind (payload : Payload) : P (Flow.unwind payload : Act ρ ε α) := hP.apart fun _ _ => rfl

lemma see {f : World ρ ε → α} (hf : ∀ w observers, f { w with observers } = f w) :
    P (Flow.see f) := hP.apart fun w observers => by
  rw [Flow.see_apply, hf]
  rfl

lemma ensuring {m : Act ρ ε α} {finish : Act ρ ε Unit} (hm : P m) (hfinish : P finish) :
    P (m.ensuring finish) := by
  refine hP.bind (hP.attempt hm) fun result => hP.bind hfinish fun _ => ?_
  cases result with
  | ok a => exact hP.pure a
  | error payload => exact hP.unwind payload

/-! ### Threads and levels -/

lemma self : P (World.self : Act ρ ε ThreadId) := hP.see fun _ _ => rfl

lemma seeThread (f : Thread → α) : P (World.seeThread f : Act ρ ε α) := hP.see fun _ _ => rfl

lemma changeThread (f : Thread → Thread) : P (World.changeThread f : Act ρ ε Unit) :=
  hP.apart fun _ _ => rfl

lemma endThread (t : ThreadId) : P (World.endThread t : Act ρ ε Unit) := hP.apart fun _ _ => rfl

lemma asThread (t : ThreadId) {m : Act ρ ε α} (hm : P m) : P (World.asThread t m) :=
  hP.bind hP.self fun _ => hP.bind (hP.apart fun _ _ => rfl) fun _ =>
    hP.ensuring hm (hP.apart fun _ _ => rfl)

lemma level : P (World.level : Act ρ ε Irql) := hP.seeThread _

lemma lowerLevel (l : Irql) : P (World.lowerLevel l : Act ρ ε Unit) :=
  hP.bind hP.level fun _ => hP.changeThread _

lemma panicking (text : Option String) : P (World.panicking text : Act ρ ε α) := by
  refine hP.bind (hP.seeThread _) fun keeps => ?_
  split
  · exact hP.bind (hP.see fun _ _ => rfl) fun _ => hP.bind (hP.changeThread _) fun _ =>
      hP.unwind _
  · exact hP.unwind _

/-! ### Rosters and the device -/

lemma onRoster (f : Roster → α × Roster) : P (World.onRoster f : Act ρ ε α) :=
  hP.apart fun _ _ => rfl

lemma seeFilament (f : FilamentId) (fallback : α) (g : Filament → α) :
    P (World.seeFilament f fallback g : Act ρ ε α) := hP.see fun _ _ => rfl

lemma changeFilament (f : FilamentId) (g : Filament → Filament) :
    P (World.changeFilament f g : Act ρ ε Unit) := hP.onRoster _

lemma withRegistry (reg : RegistryId) (f : Roster → α × Roster) :
    P (World.withRegistry reg (World.onRoster f) : Act ρ ε α) :=
  hP.apart fun w observers => by rw [withRegistry_eq, withRegistry_eq]

lemma newFilament (o : ObserverId) (flags : FilamentFlags) :
    P (World.newFilament o flags : Act ρ ε FilamentId) :=
  hP.bind hP.self fun _ => hP.onRoster _

lemma attach (reg : RegistryId) (f : FilamentId) :
    P (World.attach reg f : Act ρ ε (Except FilamentError Unit)) :=
  hP.bind hP.self fun _ => hP.withRegistry reg _

lemma detach (reg : RegistryId) : P (World.detach reg : Act ρ ε Unit) :=
  hP.bind hP.self fun _ => hP.withRegistry reg _

lemma membership (reg : RegistryId) (derive : Bool) :
    P (World.membership reg derive : Act ρ ε (Except FilamentError Member)) :=
  hP.bind hP.self fun _ => hP.withRegistry reg _

lemma identityIn (f : FilamentId) : P (World.identityIn f : Act ρ ε Identity) :=
  hP.bind hP.self fun _ => hP.seeFilament f _ _

lemma stackFor (f : FilamentId) : P (World.stackFor f : Act ρ ε (Option StackTrace)) := by
  refine hP.bind (hP.seeFilament f _ _) fun captures => ?_
  split
  · exact hP.bind (hP.see fun _ _ => rfl) fun _ => hP.pure _
  · exact hP.pure _

lemma observerOf (f : FilamentId) : P (World.observerOf f : Act ρ ε ObserverId) :=
  hP.seeFilament f _ _

lemma report (o : ObserverId) (i : Identity) (e : Event) :
    P (World.report o i e : Act ρ ε Disposition) := hP.tell (.report i e) o

lemma onDevice (f : Device ρ → α × Device ρ) : P (World.onDevice f : Act ρ ε α) :=
  hP.apart fun w observers => by rw [onDevice_eq, onDevice_eq]

lemma seeDevice (f : Device ρ → α) : P (World.seeDevice f : Act ρ ε α) := hP.see fun _ _ => rfl

/-! ### Boundaries -/

lemma goOn (payload : Option Payload) : P (Boundary.goOn payload : Act ρ ε Unit) := by
  cases payload with
  | none => exact hP.pure ()
  | some p => exact hP.unwind p

lemma reportPanic (f : FilamentId) (i : Identity) (text : Option String)
    (left : Option StackTrace) :
    P (Boundary.reportPanic f i text left : Act ρ ε Disposition) := by
  have htell (stack : Option StackTrace) : P (do
      let o ← World.observerOf f
      inform o (·.unhandledException (panicMessage text))
      World.report o i ⟨.uncaughtException (panicMessage text), stack⟩ : Act ρ ε Disposition) :=
    hP.bind (hP.observerOf f) fun o => hP.bind (hP.tell (.unhandledException _) o) fun _ =>
      hP.report o i _
  cases left with
  | none => exact hP.bind (hP.stackFor f) htell
  | some stack => exact htell (some stack)

lemma enter (f : FilamentId) : P (Boundary.enter f : Act ρ ε Bool) :=
  hP.bind (hP.seeFilament f _ _) fun _ => hP.bind (hP.seeThread _) fun before =>
    hP.bind (hP.changeThread _) fun _ => hP.pure before

lemma leave (f : FilamentId) (i : Identity) (before : Bool) (result : Except Payload Unit) :
    P (Boundary.leave f i before result : Act ρ ε Boundary.Caught) := by
  refine hP.bind (hP.seeThread _) fun left => hP.bind (hP.changeThread _) fun _ => ?_
  rcases result with (s | text) | u
  · exact hP.pure _
  · exact hP.bind (hP.reportPanic f i text left) fun _ => hP.pure _
  · exact hP.pure _

lemma guard (f : FilamentId) (i : Identity) {routine : Act ρ ε Unit} (h : P routine) :
    P (Boundary.guard f i routine) :=
  hP.bind (hP.enter f) fun before => hP.bind (hP.attempt h) fun result =>
    hP.leave f i before result

lemma joinChildren (f : FilamentId) (limit : Duration) :
    P (World.joinChildren f limit : Act ρ ε (Except FilamentError Unit)) := by
  rw [World.joinChildren]
  split
  · exact hP.seeFilament f _ _
  · exact hP.panicking _

lemma settle (f : FilamentId) (i : Identity) (limit : Duration) (o : Outcome) :
    P (Boundary.settle f i limit o : Act ρ ε Outcome) := by
  have hworst (o : Outcome) : P (do
      return o.worst (← World.seeFilament f .completed Filament.childOutcome) : Act ρ ε Outcome) :=
    hP.bind (hP.seeFilament f _ _) fun _ => hP.pure _
  refine hP.bind (hP.joinChildren f limit) fun joined => ?_
  cases joined with
  | ok u => exact hP.bind (hP.pure o) hworst
  | error why =>
    exact hP.bind (hP.observerOf f) fun _ => hP.bind (hP.report _ i _) fun _ =>
      hP.bind (hP.pure _) hworst

/-! ### Child threads -/

lemma enrol (reg : RegistryId) (f : FilamentId) :
    P (Child.enrol reg f : Act ρ ε (Except FilamentError Unit)) := by
  refine hP.bind (hP.attach reg f) fun bound => ?_
  cases bound with
  | error why => exact hP.pure _
  | ok u =>
    exact hP.bind (hP.identityIn f) fun i => hP.bind (hP.observerOf f) fun o =>
      hP.bind (hP.tell (.childStarts i) o) fun _ => hP.pure _

lemma start (reg : RegistryId) :
    P (Child.start reg : Act ρ ε (Except Child.SpawnError Child.Ticket)) := by
  have hnew : P (World.newThread : Act ρ ε ThreadId) := hP.apart fun _ _ => rfl
  refine hP.bind (hP.membership reg false) fun found => ?_
  cases found with
  | error why => exact hP.pure _
  | ok m =>
    refine hP.bind (hP.observerOf m.filament) fun o => ?_
    refine hP.bind (hP.tell .threadStart o) fun answer => ?_
    cases answer with
    | refused why => exact hP.pure _
    | dropped => exact hP.bind hnew fun t => hP.bind (hP.endThread t) fun _ => hP.pure _
    | started =>
      refine hP.bind hnew fun t => ?_
      refine hP.bind (hP.asThread t (hP.enrol reg m.filament)) fun enrolled => ?_
      cases enrolled with
      | error why => exact hP.bind (hP.endThread t) fun _ => hP.pure _
      | ok u => exact hP.pure _

lemma conclude (k : Child.Ticket) (before : Bool) (result : Except Payload Unit) :
    P (Child.conclude k before result : Act ρ ε (Option Payload)) := by
  have hend (caught : Boundary.Caught) : P (do
      World.detach k.registry
      return caught.payload? : Act ρ ε (Option Payload)) :=
    hP.bind (hP.detach k.registry) fun _ => hP.pure _
  refine hP.bind (hP.identityIn k.filament) fun i => ?_
  refine hP.bind (hP.leave k.filament i before result) fun caught => ?_
  refine hP.bind (hP.observerOf k.filament) fun o => ?_
  refine hP.bind (hP.tell (.childFinished i) o) fun _ => ?_
  cases caught with
  | outcome o => exact hP.bind (hP.changeFilament k.filament _) fun _ => hend (.outcome o)
  | reraise payload => exact hend (.reraise payload)

/-- A child thread from its start to its end. -/
theorem finish (k : Child.Ticket) {routine : Act ρ ε Unit} (h : P routine) :
    P (Child.finish k routine) := by
  refine hP.bind (hP.asThread k.thread ?_) fun payload =>
    hP.bind (hP.endThread k.thread) fun _ => hP.pure payload
  exact hP.bind (hP.enter k.filament) fun before => hP.bind (hP.attempt h) fun result =>
    hP.conclude k before result

/-! ### Reports -/

lemma asMember (reg : RegistryId) {f : Member → Act ρ ε Verdict} (hf : ∀ m, P (f m)) :
    P (Report.asMember reg f) := by
  refine hP.bind (hP.membership reg true) fun found => ?_
  cases found with
  | ok m => exact hf m
  | error why => exact hP.bind (hP.see fun _ _ => rfl) fun _ => hP.pure _

lemma send (m : Member) (detail : Event.Detail) :
    P (Report.send m detail : Act ρ ε Disposition) :=
  hP.bind (hP.stackFor m.filament) fun _ => hP.bind (hP.observerOf m.filament) fun o =>
    hP.report o _ _

lemma assertion (reg : RegistryId) (site : Site) (expression : String) :
    P (Report.assertion reg site expression : Act ρ ε Verdict) :=
  hP.asMember reg fun m => hP.bind (hP.send m _) fun _ => hP.pure _

lemma comparison (reg : RegistryId) (expected actual : UInt32) (site : Site)
    (expression : String) :
    P (Report.comparison reg expected actual site expression : Act ρ ε Verdict) := by
  rw [Report.comparison]
  split
  · exact hP.pure _
  · exact hP.assertion reg site _

lemma value (reg : RegistryId) (derive : Bool) (tag : ValueTag) :
    P (Report.value reg derive tag : Act ρ ε (Except FilamentError UInt64)) := by
  refine hP.bind (hP.membership reg derive) fun found => ?_
  cases found with
  | ok m => exact hP.bind (hP.seeFilament m.filament _ _) fun _ => hP.pure _
  | error why => exact hP.pure _

lemma setValue (reg : RegistryId) (derive : Bool) (tag : ValueTag) (v : UInt64) :
    P (Report.setValue reg derive tag v : Act ρ ε (Except FilamentError Unit)) := by
  refine hP.bind (hP.membership reg derive) fun found => ?_
  cases found with
  | ok m => exact hP.bind (hP.changeFilament m.filament _) fun _ => hP.pure _
  | error why => exact hP.pure _

/-! ### Sinks -/

lemma settleLevel (s : Sink) : P (s.settleLevel : Act ρ ε Unit) := by
  refine hP.bind hP.level fun level => ?_
  split
  · refine hP.bind (hP.membership s.registry false) fun found => ?_
    cases found with
    | ok m =>
      exact hP.bind (hP.observerOf m.filament) fun o => hP.bind (hP.report o _ _) fun _ =>
        hP.lowerLevel _
    | error why => exact hP.lowerLevel _
  · exact hP.pure ()

lemma apply (s : Sink) (v : Verdict) : P (s.apply v : Act ρ ε Disposition) := by
  cases v with
  | proceed => exact hP.pure _
  | breakIn => exact hP.pure _
  | raise e => exact hP.bind (hP.settleLevel s) fun _ => hP.unwind _

lemma requiring (s : Sink) (method : String) (required : UInt32) {m : Act ρ ε (Except SinkError α)}
    (hm : P m) : P (s.requiring method required m) := by
  rw [Sink.requiring]
  split
  · exact hP.pure _
  · exact hm

/-- Everything that drivers report through. -/
theorem sink (s : Sink) (site : Site) (text : String) (expected actual : UInt32) (tag : ValueTag)
    (v : UInt64) :
    P (s.assertion site text : Act ρ ε Disposition) ∧
    P (s.comparison expected actual site text : Act ρ ε Disposition) ∧
    P (s.inconclusiveness text : Act ρ ε Unit) ∧
    P (s.log text : Act ρ ε Unit) ∧
    P (s.formattedAssertion site text : Act ρ ε (Except SinkError Disposition)) ∧
    P (s.failure : Act ρ ε (Except SinkError Unit)) ∧
    P (s.value tag : Act ρ ε (Except SinkError UInt64)) ∧
    P (s.setValue tag v : Act ρ ε (Except SinkError Unit)) ∧
    P (s.startThread : Act ρ ε (Except SinkError Child.Ticket)) := by
  have hmessage (m : Member) (detail : Event.Detail) (verdict : Verdict) :
      P (do let _ ← Report.send m detail; return verdict : Act ρ ε Verdict) :=
    hP.bind (hP.send m detail) fun _ => hP.pure _
  have hassertion : P (s.assertion site text : Act ρ ε Disposition) :=
    hP.bind (hP.assertion s.registry site text) (hP.apply s)
  have hfailure : P (Report.failure s.registry : Act ρ ε Verdict) :=
    hP.asMember s.registry fun _ => hP.pure _
  refine ⟨hassertion, ?comparison, ?inconclusiveness, ?log, ?formatted, ?failure, ?value, ?setValue,
    ?startThread⟩
  case comparison =>
    exact hP.bind (hP.comparison s.registry expected actual site text) (hP.apply s)
  case inconclusiveness =>
    exact hP.bind (hP.asMember s.registry fun m => hmessage m _ _) fun v =>
      hP.bind (hP.apply s v) fun _ => hP.pure _
  case log =>
    exact hP.bind (hP.asMember s.registry fun m => hmessage m _ _) fun v =>
      hP.bind (hP.apply s v) fun _ => hP.pure _
  case formatted => exact hP.requiring s _ _ (hP.bind hassertion fun _ => hP.pure _)
  case failure =>
    exact hP.requiring s _ _ (hP.bind hfailure fun v => hP.bind (hP.apply s v) fun _ => hP.pure _)
  case value =>
    exact hP.requiring s _ _ (hP.bind (hP.value s.registry false tag) fun _ => hP.pure _)
  case setValue =>
    exact hP.requiring s _ _ (hP.bind (hP.setValue s.registry false tag v) fun _ => hP.pure _)
  case startThread =>
    refine hP.requiring s _ _ (hP.bind (hP.start s.registry) fun started => ?_)
    cases started <;> exact hP.pure _

/-! ### Requests to the device -/

lemma restoreLevel (channel : ObserverId) (entry : Irql) :
    P (Driver.restoreLevel channel entry : Act ρ ε Unit) := by
  refine hP.bind hP.level fun exit => ?_
  split
  · exact hP.bind (hP.tell (.queue _) channel) fun _ => hP.changeThread _
  · exact hP.pure ()

lemma lookup (address : UInt64) :
    P (Driver.lookup address : Act ρ ε (Except TableError ConnectionId)) := hP.onDevice _

lemma release (c : ConnectionId) : P (Driver.release c : Act ρ ε Unit) :=
  hP.apart fun w observers => by rw [Driver.release, changeDevice_eq, changeDevice_eq]

lemma query (input output : List UInt8) :
    P (Driver.query input output : Act ρ ε (Except ControlError Completion)) := by
  rw [Driver.query]
  split
  · exact hP.pure _
  · refine hP.bind (hP.lookup _) fun found => ?_
    cases found with
    | error why => exact hP.pure _
    | ok c =>
      exact hP.bind (hP.seeDevice _) fun written => hP.bind (hP.release c) fun _ => hP.pure written

lemma list (output : List UInt8) :
    P (Driver.list output : Act ρ ε (Except ControlError Completion)) := by
  rw [Driver.list]
  split
  · exact hP.pure _
  · exact hP.bind (hP.onDevice _) fun _ => hP.pure _

variable {exec : Routines ρ ε}

/-- A request, if it is true of those that call routines. -/
lemma control {input output : List UInt8} (hcall : P (Driver.callRoutine exec input output))
    (code : UInt32) : P (Driver.control exec code input output) := by
  rw [Driver.control]
  rcases ControlCode.ofCode? code with - | ⟨_ | _ | _⟩
  · exact hP.pure _
  · exact hP.query input output
  · exact hP.list output
  · exact hcall

variable (hexec : ∀ routine, P (exec routine)) (hothers : P exec.others)

include hothers in
lemma turn : P exec.turn := hP.bind (hP.attempt hothers) fun _ => hP.pure ()

include hexec hothers

lemma callProtected (registry : RegistryId) (limit : Duration) (routine : ρ) (channel : ObserverId)
    (value : UInt64) :
    P (Driver.callProtected exec registry limit routine channel value) := by
  rw [Driver.callProtected]
  refine hP.bind (hP.newFilament channel {}) fun f => hP.bind (hP.changeFilament f _) fun _ => ?_
  refine hP.bind (hP.attach registry f) fun bound => ?_
  cases bound with
  | error why => exact hP.pure _
  | ok u =>
    refine hP.bind (hP.identityIn f) fun i => hP.bind hP.level fun entry => ?_
    refine hP.bind (hP.guard f i (hexec routine)) fun caught => ?_
    refine hP.bind (hP.turn hothers) fun _ => hP.bind (hP.restoreLevel channel entry) fun _ => ?_
    refine hP.bind (hP.turn hothers) fun _ => hP.bind (hP.settle f i limit _) fun o => ?_
    refine hP.bind (hP.seeFilament f 0 _) fun v => hP.bind (hP.detach registry) fun _ => ?_
    exact hP.bind (hP.goOn _) fun _ => hP.pure _

lemma call (c : ConnectionId) (fixture routine : UInt16) (channel : ObserverId) (value : UInt64) :
    P (Driver.call exec c fixture routine channel value) := by
  have hmodify (f : Connection ρ → Connection ρ) : P (Driver.modify c f : Act ρ ε Unit) :=
    hP.apart fun _ _ => rfl
  refine hP.bind (hmodify _) fun _ => hP.ensuring ?_ (hmodify _)
  refine hP.bind (hP.seeDevice _) fun found => ?_
  cases found with
  | none => exact hP.pure _
  | some connection =>
    simp only []
    split
    · exact hP.pure _
    · split
      · exact hP.pure _
      · exact hP.callProtected hexec hothers _ _ _ _ _

/-- A call into a driver, if it is true of the routines of drivers. -/
theorem callAt (r : CallRequest) (channel : ObserverId) : P (Driver.callAt exec r channel) := by
  refine hP.bind (hP.lookup r.address) fun found => ?_
  cases found with
  | error why => exact hP.pure _
  | ok c =>
    refine hP.bind (hP.ensuring (hP.call hexec hothers c _ _ _ _) (hP.release c)) fun result => ?_
    cases result <;> exact hP.pure _

omit hexec hothers

/-! ### Clients -/

lemma request (r : RemoteRoutine) (m : Member) : P (r.request m : Act ρ ε CallRequest) :=
  hP.bind (hP.observerOf _) fun o => hP.bind (hP.tell (.query _) o) fun _ =>
    hP.bind (hP.tell (.query _) o) fun _ => hP.bind (hP.seeFilament _ _ _) fun _ => hP.pure _

lemma note (m : Member) (message : String) :
    P (RemoteRoutine.note m message : Act ρ ε Unit) :=
  hP.bind (hP.observerOf _) fun o => hP.bind (hP.report o _ _) fun _ => hP.pure _

lemma forward (m : Member) (events : List Record.Placed) :
    P (RemoteRoutine.forward m events : Act ρ ε Unit) := by
  induction events with
  | nil => exact hP.pure _
  | cons p rest ih => exact hP.bind (hP.observerOf _) fun o => hP.bind (hP.report o _ _) fun _ => ih

lemma deliver (m : Member) (response : CallResponse) (events : List UInt8) :
    P (RemoteRoutine.deliver m response events : Act ρ ε Unit) := by
  refine hP.bind (hP.changeFilament _ _) fun _ => hP.bind (hP.forward m _) fun _ => ?_
  generalize (Record.readAll events).failure = failure
  have hlast : P (if response.truncated then
      RemoteRoutine.note m ("Event buffer full, only the first "
        ++ toString response.eventCount.toNat ++ " events were delivered")
      else Pure.pure () : Act ρ ε Unit) := by
    split
    · exact hP.note m _
    · exact hP.pure _
  cases failure with
  | none => exact hlast
  | some why => exact hP.bind (hP.note m _) fun _ => hlast

/-- A remote routine, if it is true of requests that call routines. -/
theorem remote (hcall : ∀ input output, P (Driver.callRoutine exec input output))
    (r : RemoteRoutine) : P (r.run exec) := by
  refine hP.bind (hP.membership _ false) fun found => ?_
  cases found with
  | error why => exact hP.unwind _
  | ok m =>
    refine hP.bind (hP.bind (hP.request r m) fun request =>
      hP.bind (hP.control (hcall _ _) _) fun result => ?_) fun answer => ?_
    · cases result with
      | error why => exact hP.pure _
      | ok done =>
        simp only []
        split
        · exact hP.pure _
        · exact hP.bind (hP.deliver m _ _) fun _ => hP.pure _
    · cases answer with
      | error why => exact hP.bind (hP.note m _) fun _ => hP.unwind _
      | ok response =>
        simp only []
        split
        · exact hP.unwind _
        split
        · exact hP.unwind _
        · exact hP.pure _

end Closed

/-- Remote routines are lawful if the routines of drivers are, which may be remote themselves. -/
theorem Lawful.remote {exec : Routines ρ ε} (hexec : ∀ routine, Lawful (exec routine))
    (hothers : Lawful exec.others) (r : RemoteRoutine) : Lawful (r.run exec) :=
  Lawful.closed.remote (Lawful.request hexec hothers) r

end World

end Testbench
