import Testbench.Proofs.Lawful
import Testbench.Proofs.Remote.Story

/-!
# Observers that events do not sway

An observer decides how a thread goes on that reported an event, and a recorder with a script may
decide by the events that it was told of before.  Of observers that do not, two are similar if nothing
tells them apart but those events: they have the same answers, and their books are the same apart
from what is said of events.  It makes no difference to them if one is told of an event and the other
is not, and whatever else is told to both leaves them similar.
-/

namespace Testbench

/-- The counts apart from those of events. -/
def EventCounts.apart (c : EventCounts) : EventCounts :=
  { c with failedAssertions := 0, uncaughtExceptions := 0, inconclusive := 0, logs := 0 }

/-- Whether an entry of the history is about an event. -/
def Callback.isEvent : Callback → Bool
  | .event .. => true
  | _ => false

/-! ### Recorders -/

namespace Recorder

lemma countsFor_count (r : Recorder) (i : Identity) (f : EventCounts → EventCounts) (t : ThreadId) :
    (r.count i f).countsFor t
      = if i.mainThread = t then f (r.countsFor t) else r.countsFor t := by
  obtain ⟨policy, history, events, unhandled, counts⟩ := r
  simp only [count, countsFor]
  induction counts with
  | nil =>
    rw [updateCounts, List.find?_nil, List.find?_cons]
    by_cases ht : i.mainThread = t <;> simp [ht]
  | cons p rest ih =>
    obtain ⟨s, c⟩ := p
    rw [updateCounts]
    by_cases hs : s = i.mainThread <;> by_cases ht : s = t
    · simp [← hs, ht]
    · simp [← hs, ht]
    · have hne : i.mainThread ≠ t := fun h => hs (ht.trans h.symm)
      simp [hne, Ne.symm hne, ht]
    · simpa [hs, ht] using ih

/-- Every answer of the script is the answer to all kinds of events. -/
def Policy.ByKind (p : Policy) : Prop := ∀ d ∈ p.script, ∀ kind, p.dispositions.answer kind = d

/-- Recorders that answer by the kinds of events alone, and alike, and whose books are the same apart
from what is said of events. -/
structure Similar (r s : Recorder) : Prop where
  policy_eq : { r.policy with script := [] } = { s.policy with script := [] }
  byKind_left : r.policy.ByKind
  byKind_right : s.policy.ByKind
  history_eq : r.history.toList.filter (!·.isEvent) = s.history.toList.filter (!·.isEvent)
  unhandled_eq : r.unhandled = s.unhandled
  counts_eq : ∀ t, (r.countsFor t).apart = (s.countsFor t).apart

lemma report_fst {r : Recorder} (hr : r.policy.ByKind) (i : Identity) (e : Event) :
    (r.report i e).1 = r.policy.dispositions.answer e.kind := by
  rw [report]
  cases hscript : r.policy.script with
  | nil =>
    simp only [count, remember, hscript]
    rfl
  | cons d rest =>
    simp only [count, remember, hscript]
    exact (hr d (by simp [hscript]) e.kind).symm

lemma report_policy_eq (r : Recorder) (i : Identity) (e : Event) :
    (r.report i e).2.policy = { r.policy with script := r.policy.script.tail } := by
  obtain ⟨⟨version, dispositions, fixtures, cases, threadStart, script⟩, history, events, unhandled,
    counts⟩ := r
  cases script <;> rfl

lemma report_unhandled (r : Recorder) (i : Identity) (e : Event) :
    (r.report i e).2.unhandled = r.unhandled := by
  rw [report]
  split <;> rfl

lemma report_countsFor (r : Recorder) (i : Identity) (e : Event) (t : ThreadId) :
    (r.report i e).2.countsFor t = (r.count i (countEvent e.kind)).countsFor t := by
  rw [countsFor, report_counts]
  rfl

lemma fixtureStarts_fst (r : Recorder) (i : Identity) (fixture : String) :
    (r.fixtureStarts i fixture).1 = if fixture ∈ r.policy.refusedFixtures then
      .error (.refused "before_fixture_start" (.fixture fixture)) else .ok () := by
  rw [fixtureStarts]
  exact apply_ite Prod.fst _ _ _

lemma caseStarts_fst (r : Recorder) (i : Identity) (case : String) :
    (r.caseStarts i case).1 = if case ∈ r.policy.refusedCases then
      .error (.refused "before_test_case_start" (.other "test refused")) else .ok () := by
  rw [caseStarts]
  exact apply_ite Prod.fst _ _ _

namespace Similar

variable {r s : Recorder}

lemma symm (h : r.Similar s) : s.Similar r :=
  ⟨h.policy_eq.symm, h.byKind_right, h.byKind_left, h.history_eq.symm, h.unhandled_eq.symm,
    fun t => (h.counts_eq t).symm⟩

lemma refl (h : r.policy.ByKind) : r.Similar r := ⟨rfl, h, h, rfl, rfl, fun _ => rfl⟩

lemma dispositions_eq (h : r.Similar s) : r.policy.dispositions = s.policy.dispositions :=
  (congrArg Policy.dispositions h.policy_eq :)

/-- Counting anything but events. -/
lemma count (h : r.Similar s) (i : Identity) {f : EventCounts → EventCounts}
    (hf : ∀ c, (f c).apart = f c.apart) : (r.count i f).Similar (s.count i f) := by
  refine ⟨h.policy_eq, h.byKind_left, h.byKind_right, h.history_eq, h.unhandled_eq, fun t => ?_⟩
  rw [countsFor_count, countsFor_count]
  split
  · rw [hf, hf, h.counts_eq t]
  · exact h.counts_eq t

lemma remember (h : r.Similar s) (c : Callback) : (r.remember c).Similar (s.remember c) := by
  refine ⟨h.policy_eq, h.byKind_left, h.byKind_right, ?_, h.unhandled_eq, h.counts_eq⟩
  rw [Recorder.remember, Recorder.remember, Array.toList_push, Array.toList_push, List.filter_append,
    List.filter_append, h.history_eq]

/-- One is told of an event and the other is not. -/
lemma report_left (h : r.Similar s) (i : Identity) (e : Event) : (r.report i e).2.Similar s where
  policy_eq := by rw [report_policy_eq, ← h.policy_eq]
  byKind_left := by
    rw [report_policy_eq]
    exact fun d hd => h.byKind_left d (List.mem_of_mem_tail hd)
  byKind_right := h.byKind_right
  history_eq := by
    rw [report_history, Array.toList_push, List.filter_append, h.history_eq]
    exact List.append_nil _
  unhandled_eq := (report_unhandled r i e).trans h.unhandled_eq
  counts_eq t := by
    have hcount (c : EventCounts) : (countEvent e.kind c).apart = c.apart := by
      cases e.kind <;> rfl
    rw [report_countsFor, countsFor_count, ← h.counts_eq t]
    split
    · exact hcount _
    · rfl

lemma unhandledException (h : r.Similar s) (message : String) :
    (r.unhandledException message).Similar (s.unhandledException message) :=
  ⟨h.policy_eq, h.byKind_left, h.byKind_right, h.history_eq,
    congrArg (·.push message) h.unhandled_eq, h.counts_eq⟩

lemma fixtureStarts (h : r.Similar s) (i : Identity) (fixture : String) :
    (r.fixtureStarts i fixture).1 = (s.fixtureStarts i fixture).1 ∧
      (r.fixtureStarts i fixture).2.Similar (s.fixtureStarts i fixture).2 := by
  have hrefused : r.policy.refusedFixtures = s.policy.refusedFixtures :=
    (congrArg Policy.refusedFixtures h.policy_eq :)
  constructor
  · rw [fixtureStarts_fst, fixtureStarts_fst, hrefused]
  · rw [fixtureStarts_snd, fixtureStarts_snd]
    refine .remember ?_ _
    exact h.count i fun _ => rfl

lemma caseStarts (h : r.Similar s) (i : Identity) (case : String) :
    (r.caseStarts i case).1 = (s.caseStarts i case).1 ∧
      (r.caseStarts i case).2.Similar (s.caseStarts i case).2 := by
  have hrefused : r.policy.refusedCases = s.policy.refusedCases :=
    (congrArg Policy.refusedCases h.policy_eq :)
  constructor
  · rw [caseStarts_fst, caseStarts_fst, hrefused]
  · rw [caseStarts_snd, caseStarts_snd]
    refine .remember ?_ _
    exact h.count i fun _ => rfl

end Similar

end Recorder

/-! ### Consoles -/

/-- Consoles that answer alike and keep the same score. -/
def Console.Similar (c d : Console) : Prop := { c with lines := #[] } = { d with lines := #[] }

lemma Console.similar_report_left {c d : Console} (h : c.Similar d) (i : Identity) (e : Event) :
    (c.report i e).2.Similar d := by
  have hlines (frames : List String) (c : Console) (hc : c.Similar d) :
      (frames.foldl (fun c frame => c.write ("        " ++ frame)) c).Similar d := by
    induction frames generalizing c with
    | nil => exact hc
    | cons frame frames ih => exact ih _ hc
  exact hlines _ _ h

/-! ### Observers -/

namespace Observer

/-- Observers that answer alike, whatever events they were told of, and that nothing else tells
apart. -/
inductive Similar : Observer → Observer → Prop
  | recorder {r s : Recorder} (h : r.Similar s) : Similar (.recorder r) (.recorder s)
  | channel {c d : Channel} (h : c.dispositions = d.dispositions) :
      Similar (.channel c) (.channel d)
  | console {c d : Console} (h : c.Similar d) : Similar (.console c) (.console d)

namespace Similar

variable {x y : Observer}

lemma symm (h : x.Similar y) : y.Similar x := by
  cases h with
  | recorder h => exact .recorder h.symm
  | channel h => exact .channel h.symm
  | console h => exact .console (Eq.symm h)

/-- What is similar to an observer may hear of an event more. -/
lemma report_left (h : x.Similar y) (i : Identity) (e : Event) : (x.report i e).2.Similar y := by
  cases h with
  | recorder h => exact .recorder (h.report_left i e)
  | channel h => exact .channel h
  | console h => exact .console (Console.similar_report_left h i e)

lemma query_eq (h : x.Similar y) (kind : EventKind) : x.query kind = y.query kind := by
  cases h with
  | recorder h => exact congrArg (·.answer kind) h.dispositions_eq
  | channel h => exact congrArg (·.answer kind) h
  | console h =>
    have hdisposition := congrArg Console.disposition h
    exact congrArg (fun d => (Dispositions.mk d d).answer kind) hdisposition

/-- The answer to an event is the one that was asked for beforehand. -/
lemma report_fst (h : x.Similar y) (i : Identity) (e : Event) :
    (x.report i e).1 = x.query e.kind := by
  cases h with
  | recorder h => exact Recorder.report_fst h.byKind_left i e
  | channel h => rfl
  | console h =>
    have hlines (frames : List String) (c : Console) :
        (frames.foldl (fun c frame => c.write ("        " ++ frame)) c).query = c.query := by
      induction frames generalizing c with
      | nil => rfl
      | cons frame frames ih => exact ih _
    exact congrFun (hlines _ _) e.kind

/-- Whatever observers are asked by contract, similar ones answer alike and are similar again. -/
theorem asked {α : Type} {fallback : α} {f : Observer → α × Observer} (hf : Asked fallback f)
    (h : x.Similar y) : (f x).1 = (f y).1 ∧ (f x).2.Similar (f y).2 := by
  cases hf with
  | report i e =>
    refine ⟨?_, ((h.report_left i e).symm.report_left i e).symm⟩
    rw [h.report_fst, h.symm.report_fst, h.query_eq]
  | query kind => exact ⟨h.query_eq kind, h⟩
  | threadStart =>
    refine ⟨?_, h⟩
    cases h with
    | recorder h => exact congrArg (·.threadStart) h.policy_eq
    | channel h => rfl
    | console h => rfl
  | childStarts i =>
    refine ⟨rfl, ?_⟩
    cases h with
    | recorder h => exact .recorder (h.count i fun _ => rfl)
    | channel h => exact .channel h
    | console h => exact .console h
  | childFinished i =>
    refine ⟨rfl, ?_⟩
    cases h with
    | recorder h => exact .recorder (h.count i fun _ => rfl)
    | channel h => exact .channel h
    | console h => exact .console h
  | unhandledException message =>
    refine ⟨rfl, ?_⟩
    cases h with
    | recorder h => exact .recorder (h.unhandledException message)
    | channel h => exact .channel h
    | console h => exact .console h
  | queue e =>
    refine ⟨rfl, ?_⟩
    cases h with
    | recorder h => exact .recorder h
    | channel h => exact .channel h
    | console h => exact .console h

/-! ### Callbacks of a run -/

lemma validate_eq (h : x.Similar y) : x.validate = y.validate := by
  cases h with
  | @recorder r s h =>
    have hversion : (Observer.recorder r).version = (Observer.recorder s).version :=
      (congrArg Recorder.Policy.version h.policy_eq :)
    rw [validate, validate, hversion]
  | channel h => rfl
  | console h => rfl

lemma fixtureStarts (h : x.Similar y) (i : Identity) (fixture : String) :
    (x.fixtureStarts i fixture).1 = (y.fixtureStarts i fixture).1 ∧
      (x.fixtureStarts i fixture).2.Similar (y.fixtureStarts i fixture).2 := by
  cases h with
  | recorder h => exact ⟨(h.fixtureStarts i fixture).1, .recorder (h.fixtureStarts i fixture).2⟩
  | channel h => exact ⟨rfl, .channel h⟩
  | console h =>
    have hcounted := congrArg (fun c : Console => { c with fixtures := c.fixtures + 1 }) h
    exact ⟨rfl, .console hcounted⟩

lemma caseStarts (h : x.Similar y) (i : Identity) (fixture case : String) :
    (x.caseStarts i fixture case).1 = (y.caseStarts i fixture case).1 ∧
      (x.caseStarts i fixture case).2.Similar (y.caseStarts i fixture case).2 := by
  cases h with
  | recorder h => exact ⟨(h.caseStarts i case).1, .recorder (h.caseStarts i case).2⟩
  | channel h => exact ⟨rfl, .channel h⟩
  | console h => exact ⟨rfl, .console h⟩

lemma fixtureFinished (h : x.Similar y) (i : Identity) (fixture : String) (completed : Bool) :
    (x.fixtureFinished i fixture completed).Similar (y.fixtureFinished i fixture completed) := by
  cases h with
  | recorder h =>
    refine .recorder (.remember ?_ _)
    exact h.count i fun _ => rfl
  | channel h => exact .channel h
  | console h =>
    cases completed with
    | true =>
      have hcounted := congrArg (fun c : Console => { c with completed := c.completed + 1 }) h
      exact .console hcounted
    | false => exact .console h

lemma caseFinished (h : x.Similar y) (i : Identity) (fixture case : String) (completed : Bool) :
    (x.caseFinished i fixture case completed).Similar
      (y.caseFinished i fixture case completed) := by
  cases h with
  | recorder h =>
    refine .recorder (.remember ?_ _)
    exact h.count i fun _ => rfl
  | channel h => exact .channel h
  | console h =>
    cases completed with
    | true => exact .console (congrArg (fun c : Console => { c with passed := c.passed + 1 }) h :)
    | false => exact .console (congrArg (fun c : Console => { c with failed := c.failed + 1 }) h :)

end Similar

/-! ### What sways an observer -/

/-- An observer after events were reported to it. -/
def after (x : Observer) (told : List (Identity × Event)) : Observer :=
  told.foldl (fun x t => (x.report t.1 t.2).2) x

/-- How an observer answers an event does not depend on the events that it was told of before. -/
def Unswayed (x : Observer) : Prop :=
  ∀ told i e, ((x.after told).report i e).1 = (x.report i e).1

lemma Unswayed.report_snd {x : Observer} (h : x.Unswayed) (i : Identity) (e : Event) :
    (x.report i e).2.Unswayed :=
  fun told j e' => (h ((i, e) :: told) j e').trans (h [(i, e)] j e').symm

/-- A script sways a recorder, unless it gives the answers that are given without it. -/
lemma byKind_of_unswayed {r : Recorder} (h : (recorder r).Unswayed) : r.policy.ByKind := by
  obtain ⟨script, hscript⟩ : ∃ script, r.policy.script = script := ⟨_, rfl⟩
  induction script generalizing r with
  | nil =>
    intro d hd
    rw [hscript] at hd
    cases hd
  | cons d rest ih =>
    let i : Identity := .ownMain 0
    have hrest (e : Event) : (r.report i e).2.policy.ByKind :=
      ih (h.report_snd i e) (by rw [Recorder.report_policy_eq, hscript, List.tail_cons])
    -- once the script is over, answers go by kinds, and they are what they were
    have hfirst (e : Event) : r.policy.dispositions.answer e.kind = d := by
      have hkind := Recorder.report_fst (hrest e) i e
      have hanswer : ((recorder r).report i e).1 = d := by
        simp only [report, Recorder.report, Recorder.count, Recorder.remember, hscript]
      rw [Recorder.report_policy_eq] at hkind
      exact hkind.symm.trans ((h [(i, e)] i e).trans hanswer)
    intro d' hd' kind
    rw [hscript] at hd'
    rcases List.mem_cons.mp hd' with rfl | hmem
    · cases kind with
      | failedAssertion => exact hfirst ⟨.failedAssertion "" "" 0 "", none⟩
      | uncaughtException => exact hfirst ⟨.uncaughtException "", none⟩
      | inconclusiveness => exact hfirst ⟨.inconclusiveness "", none⟩
      | log => exact hfirst ⟨.log "", none⟩
    · have hpolicy := hrest ⟨.log "", none⟩
      rw [Recorder.report_policy_eq, hscript] at hpolicy
      exact hpolicy d' hmem kind

/-- The observers that events do not sway are those that are similar to themselves. -/
theorem similar_self_iff {x : Observer} : x.Similar x ↔ x.Unswayed := by
  constructor
  · intro h told i e
    have hafter : (x.after told).Similar x := by
      have hall (y : Observer) (hy : y.Similar x) : (y.after told).Similar x := by
        induction told generalizing y with
        | nil => exact hy
        | cons t told ih => exact ih _ (hy.report_left t.1 t.2)
      exact hall x h
    exact (hafter.asked (.report i e)).1
  · intro h
    cases x with
    | recorder r => exact .recorder (.refl (byKind_of_unswayed h))
    | channel c => exact .channel rfl
    | console c => exact .console rfl

end Observer

end Testbench
