import Mathlib.Algebra.BigOperators.Group.Finset.Piecewise
import Testbench.Observer.Settings
import Testbench.Proofs.Repeat.Books
import Testbench.Proofs.Sway.Observers

/-!
# The two books of a recorder

A recorder counts what it is told in the record of a main thread, and writes it into a history with
the events beside it.  Neither book is made from the other, and each callback sees to both by
itself.  They agree all the same, whoever calls it and in whatever order: what a call adds to the
counts is what its entry in the history stands for, and a call that adds nothing to one adds nothing
to the other.  Child threads are the exception, which are counted but not written down.
-/

namespace Testbench.Recorder

/-- What a recorder is called for, and by whom. -/
inductive Call
  /-- An event is reported. -/
  | report (i : Identity) (e : Event)
  /-- Somebody asks what an event of a kind would be answered. -/
  | query (i : Identity) (kind : EventKind)
  /-- A fixture starts, and may be refused. -/
  | fixtureStarts (i : Identity) (fixture : String)
  /-- A fixture finished. -/
  | fixtureFinished (i : Identity) (fixture : String) (completed : Bool)
  /-- A test case starts, and may be refused. -/
  | caseStarts (i : Identity) (case : String)
  /-- A test case finished. -/
  | caseFinished (i : Identity) (case : String) (completed : Bool)
  /-- A child thread is to be started, which may fail. -/
  | threadStart (i : Identity)
  /-- A child thread is bound and about to run. -/
  | childStarts (i : Identity)
  /-- A child thread returned or unwound. -/
  | childFinished (i : Identity)
  /-- No report explains a panic. -/
  | unhandledException (i : Identity) (message : String)
  /-- It is set anew. -/
  | configured (s : Settings)

/-- The recorder after a call. -/
def after (r : Recorder) : Call → Recorder
  | .report i e => (r.report i e).2
  | .fixtureStarts i fixture => (r.fixtureStarts i fixture).2
  | .fixtureFinished i fixture completed => r.fixtureFinished i fixture completed
  | .caseStarts i case => (r.caseStarts i case).2
  | .caseFinished i case completed => r.caseFinished i case completed
  | .childStarts i => r.childStarts i
  | .childFinished i => r.childFinished i
  | .unhandledException _ message => r.unhandledException message
  | .configured s => s.configure r
  | .query .. | .threadStart _ => r

/-- The recorder after calls. -/
def afterAll (r : Recorder) (calls : List Call) : Recorder := calls.foldl after r

/-! ### What a call adds to the books -/

namespace Call

/-- The main thread of whoever calls. -/
def mainThread? : Call → Option ThreadId
  | report i _ | query i _ | fixtureStarts i _ | fixtureFinished i _ _ | caseStarts i _
  | caseFinished i _ _ | threadStart i | childStarts i | childFinished i
  | unhandledException i _ => some i.mainThread
  | configured _ => none

/-- What is added to the counts of the main thread. -/
def tally : Call → EventCounts
  | report _ e => countEvent e.kind {}
  | fixtureStarts .. => { beforeFixture := 1 }
  | fixtureFinished _ _ completed => { afterFixture := 1, fixturesCompleted := bit completed }
  | caseStarts .. => { beforeCase := 1 }
  | caseFinished _ _ completed => { afterCase := 1, casesCompleted := bit completed }
  | childStarts _ => { childrenStarted := 1 }
  | childFinished _ => { childrenFinished := 1 }
  | query .. | threadStart _ | unhandledException .. | configured _ => 0

/-- What is written into the history. -/
def entry? : Call → Option Callback
  | report _ e => some (.event e.kind e.subject)
  | fixtureStarts _ fixture => some (.beforeFixture fixture)
  | fixtureFinished _ fixture completed => some (.afterFixture fixture completed)
  | caseStarts _ case => some (.beforeCase case)
  | caseFinished _ case completed => some (.afterCase case completed)
  | query .. | threadStart _ | childStarts _ | childFinished _ | unhandledException ..
  | configured _ => none

/-- The event that is reported. -/
def event? : Call → Option Event
  | report _ e => some e
  | _ => none

end Call

/-- A call either leaves the counts alone, or adds to the counts of the caller's main thread. -/
lemma counts_after (r : Recorder) (c : Call) :
    c.tally = 0 ∧ (r.after c).counts = r.counts
      ∨ ∃ i f, c.mainThread? = some i.mainThread ∧ (∀ x, f x = x + c.tally)
          ∧ (r.after c).counts = (r.count i f).counts := by
  have hplus {a b : EventCounts} (h : a = EventCounts.zipWith (· + ·) b c.tally) :
      a = b + c.tally := h
  cases c with
  | query | threadStart | unhandledException | configured => exact .inl ⟨rfl, rfl⟩
  | report i e =>
    refine .inr ⟨i, countEvent e.kind, rfl, fun x => hplus ?_, report_counts r i e⟩
    rw [Call.tally]
    cases e.kind <;> simp only [countEvent, EventCounts.zipWith, UInt32.add_zero, UInt32.zero_add]
  | fixtureStarts i fixture =>
    have hafter := congrArg Recorder.counts (fixtureStarts_snd r i fixture)
    refine .inr ⟨i, _, rfl, fun x => hplus ?_, hafter⟩
    simp only [Call.tally, EventCounts.zipWith, UInt32.add_zero]
  | caseStarts i case =>
    have hafter := congrArg Recorder.counts (caseStarts_snd r i case)
    refine .inr ⟨i, _, rfl, fun x => hplus ?_, hafter⟩
    simp only [Call.tally, EventCounts.zipWith, UInt32.add_zero]
  | fixtureFinished i | caseFinished i | childStarts i | childFinished i =>
    refine .inr ⟨i, _, rfl, fun x => hplus ?_, rfl⟩
    simp only [Call.tally, EventCounts.zipWith, UInt32.add_zero]

lemma totals_after (r : Recorder) (c : Call) : (r.after c).totals = r.totals + c.tally := by
  rcases counts_after r c with ⟨htally, hcounts⟩ | ⟨i, f, -, hf, hcounts⟩
  · rw [totals, hcounts, htally, add_zero]
    rfl
  · rw [← totals_count hf r i, totals, hcounts]
    rfl

lemma countsFor_after (r : Recorder) (c : Call) (t : ThreadId) :
    (r.after c).countsFor t
      = r.countsFor t + if c.mainThread? = some t then c.tally else 0 := by
  rcases counts_after r c with ⟨htally, hcounts⟩ | ⟨i, f, hmain, hf, hcounts⟩
  · rw [countsFor, hcounts, htally, ite_self, add_zero]
    rfl
  · have hcount : (r.after c).countsFor t = (r.count i f).countsFor t := by
      rw [countsFor, hcounts]
      rfl
    rw [hcount, countsFor_count, hmain, hf]
    by_cases ht : i.mainThread = t
    · rw [if_pos ht, if_pos (congrArg some ht)]
    · rw [if_neg ht, if_neg fun h => ht (Option.some.inj h), add_zero]

lemma history_after (r : Recorder) (c : Call) :
    (r.after c).history.toList = r.history.toList ++ c.entry?.toList := by
  cases c with
  | query | threadStart | childStarts | childFinished | unhandledException | configured =>
    exact (List.append_nil _).symm
  | report i e => rw [after, report_history, Array.toList_push]; rfl
  | fixtureStarts => rw [after, fixtureStarts_snd, remember, Array.toList_push]; rfl
  | caseStarts => rw [after, caseStarts_snd, remember, Array.toList_push]; rfl
  | fixtureFinished => rw [after, fixtureFinished, remember, Array.toList_push]; rfl
  | caseFinished => rw [after, caseFinished, remember, Array.toList_push]; rfl

lemma events_after (r : Recorder) (c : Call) :
    (r.after c).events.toList = r.events.toList ++ c.event?.toList := by
  cases c with
  | report i e => rw [after, report_events, Array.toList_push]; rfl
  | fixtureStarts => rw [after, fixtureStarts_snd]; exact (List.append_nil _).symm
  | caseStarts => rw [after, caseStarts_snd]; exact (List.append_nil _).symm
  | _ => exact (List.append_nil _).symm

/-! ### What calls add to the books -/

lemma totals_afterAll (r : Recorder) (calls : List Call) :
    (r.afterAll calls).totals = r.totals + (calls.map Call.tally).sum := by
  induction calls generalizing r with
  | nil => exact (add_zero _).symm
  | cons c calls ih =>
    rw [List.map_cons, List.sum_cons, ← add_assoc, ← totals_after]
    exact ih (r.after c)

lemma countsFor_afterAll (r : Recorder) (calls : List Call) (t : ThreadId) :
    (r.afterAll calls).countsFor t
      = r.countsFor t
        + ((calls.filter fun c => c.mainThread? = some t).map Call.tally).sum := by
  induction calls generalizing r with
  | nil => exact (add_zero _).symm
  | cons c calls ih =>
    refine (ih (r.after c)).trans ?_
    rw [countsFor_after]
    by_cases ht : c.mainThread? = some t
    · rw [if_pos ht, List.filter_cons_of_pos (by simpa using ht), List.map_cons, List.sum_cons,
        add_assoc]
    · rw [if_neg ht, List.filter_cons_of_neg (by simpa using ht), add_zero]

lemma history_afterAll (r : Recorder) (calls : List Call) :
    (r.afterAll calls).history.toList = r.history.toList ++ calls.filterMap Call.entry? := by
  induction calls generalizing r with
  | nil => exact (List.append_nil _).symm
  | cons c calls ih =>
    refine (ih (r.after c)).trans ?_
    rw [history_after, List.append_assoc]
    cases hc : c.entry? with
    | none => rw [List.filterMap_cons_none hc]; rfl
    | some entry => rw [List.filterMap_cons_some hc]; rfl

lemma events_afterAll (r : Recorder) (calls : List Call) :
    (r.afterAll calls).events.toList = r.events.toList ++ calls.filterMap Call.event? := by
  induction calls generalizing r with
  | nil => exact (List.append_nil _).symm
  | cons c calls ih =>
    refine (ih (r.after c)).trans ?_
    rw [events_after, List.append_assoc]
    cases hc : c.event? with
    | none => rw [List.filterMap_cons_none hc]; rfl
    | some e => rw [List.filterMap_cons_some hc]; rfl

/-! ### Counts that the history tells as well -/

/-- A count that the history tells as well. -/
inductive Counter
  | fixturesStarted
  | fixturesFinished
  | fixturesCompleted
  | casesStarted
  | casesFinished
  | casesCompleted
  /-- Events of a kind. -/
  | events (kind : EventKind)

namespace Counter

/-- The counter's field. -/
def read : Counter → EventCounts → UInt32
  | fixturesStarted, c => c.beforeFixture
  | fixturesFinished, c => c.afterFixture
  | fixturesCompleted, c => c.fixturesCompleted
  | casesStarted, c => c.beforeCase
  | casesFinished, c => c.afterCase
  | casesCompleted, c => c.casesCompleted
  | events .failedAssertion, c => c.failedAssertions
  | events .uncaughtException, c => c.uncaughtExceptions
  | events .inconclusiveness, c => c.inconclusive
  | events .log, c => c.logs

/-- Whether an entry of the history is one of those that are counted. -/
def covers : Counter → Callback → Bool
  | fixturesStarted, .beforeFixture _ => true
  | fixturesFinished, .afterFixture .. => true
  | fixturesCompleted, .afterFixture _ completed => completed
  | casesStarted, .beforeCase _ => true
  | casesFinished, .afterCase .. => true
  | casesCompleted, .afterCase _ completed => completed
  | events kind, .event found _ => kind = found
  | _, _ => false

lemma read_zero (k : Counter) : k.read 0 = 0 := by
  cases k with
  | events kind => cases kind <;> rfl
  | _ => rfl

lemma read_add (k : Counter) (a b : EventCounts) : k.read (a + b) = k.read a + k.read b := by
  cases k with
  | events kind => cases kind <;> rfl
  | _ => rfl

/-- What a call adds to a count is the number of its entries that are covered. -/
lemma read_tally (k : Counter) (c : Call) :
    k.read c.tally = .ofNat (c.entry?.toList.countP k.covers) := by
  cases c with
  | query | threadStart | childStarts | childFinished | unhandledException | configured =>
    cases k with
    | events kind => cases kind <;> rfl
    | _ => rfl
  | report i e =>
    cases k with
    | events kind =>
      rw [Call.tally, Call.entry?]
      cases kind <;> cases e.kind <;> rfl
    | _ =>
      rw [Call.tally, Call.entry?]
      cases e.kind <;> rfl
  | fixtureStarts | caseStarts =>
    cases k with
    | events kind => cases kind <;> rfl
    | _ => rfl
  | fixtureFinished i fixture completed =>
    cases k with
    | events kind => cases kind <;> rfl
    | _ => cases completed <;> rfl
  | caseFinished i case completed =>
    cases k with
    | events kind => cases kind <;> rfl
    | _ => cases completed <;> rfl

/-- Over all calls, a count is the number of entries that it covers. -/
lemma read_sum (k : Counter) (calls : List Call) :
    k.read (calls.map Call.tally).sum
      = .ofNat ((calls.filterMap Call.entry?).countP k.covers) := by
  induction calls with
  | nil => exact k.read_zero
  | cons c calls ih =>
    rw [List.map_cons, List.sum_cons, read_add, ih, read_tally, ← UInt32.ofNat_add,
      ← List.countP_append]
    cases hc : c.entry? with
    | none => rw [List.filterMap_cons_none hc]; rfl
    | some entry => rw [List.filterMap_cons_some hc]; rfl

end Counter

/-! ### Both books -/

/-- The books of a recorder agree, and tell what it was called for. -/
structure BooksAgree (calls : List Call) (r : Recorder) : Prop where
  /-- The totals are the counts of all main threads together, field by field: the sum over any
  threads that every caller's main thread is one of. -/
  totals_eq (threads : Finset ThreadId)
      (hall : ∀ c ∈ calls, ∀ t, c.mainThread? = some t → t ∈ threads) :
    r.totals = ∑ t ∈ threads, r.countsFor t
  /-- Nor does it matter in which order the records are gone through. -/
  foldl_perm (records : List (ThreadId × EventCounts)) (hperm : records.Perm r.counts) :
    (records.map Prod.snd).foldl (· + ·) {} = r.totals
  /-- Each count is the number of entries in the history that it covers, as long as that fits. -/
  read_totals (k : Counter) :
    (k.read r.totals).toNat = r.history.toList.countP k.covers % 2 ^ 32
  /-- The counts of a main thread are what its own calls alone make of a new recorder. -/
  countsFor_own (t : ThreadId) (policy : Policy) :
    r.countsFor t
      = (({ policy } : Recorder).afterAll
          (calls.filter fun c => c.mainThread? = some t)).countsFor t
  /-- The history has an entry for every call that is written down, in order. -/
  history_eq : r.history.toList = calls.filterMap Call.entry?
  /-- The events are those that were reported, in order. -/
  events_eq : r.events.toList = calls.filterMap Call.event?
  /-- Entry by entry, the history says the same of events. -/
  history_events :
    r.history.toList.filter Callback.isEvent
      = r.events.toList.map fun e => .event e.kind e.subject

/-- Of every call, the entry is about an event if one was reported, and about that one. -/
lemma filter_entries (calls : List Call) :
    (calls.filterMap Call.entry?).filter Callback.isEvent
      = (calls.filterMap Call.event?).map fun e => .event e.kind e.subject := by
  induction calls with
  | nil => rfl
  | cons c calls ih =>
    cases c with
    | report i e => exact congrArg (Callback.event e.kind e.subject :: ·) ih
    | _ => exact ih

/-- Each call is counted for one main thread at most. -/
lemma sum_countsFor_after (r : Recorder) (c : Call) {threads : Finset ThreadId}
    (hc : ∀ t, c.mainThread? = some t → t ∈ threads) :
    ∑ t ∈ threads, (r.after c).countsFor t = ∑ t ∈ threads, r.countsFor t + c.tally := by
  simp only [countsFor_after, Finset.sum_add_distrib]
  congr 1
  rcases counts_after r c with ⟨htally, -⟩ | ⟨i, f, hmain, -⟩
  · simp only [htally, ite_self, Finset.sum_const_zero]
  · simp only [hmain, Option.some.injEq, Finset.sum_ite_eq, if_pos (hc _ hmain)]

lemma totals_afterAll_eq_sum {r : Recorder} (calls : List Call) {threads : Finset ThreadId}
    (hr : r.totals = ∑ t ∈ threads, r.countsFor t)
    (hall : ∀ c ∈ calls, ∀ t, c.mainThread? = some t → t ∈ threads) :
    (r.afterAll calls).totals = ∑ t ∈ threads, (r.afterAll calls).countsFor t := by
  induction calls generalizing r with
  | nil => exact hr
  | cons c calls ih =>
    refine ih ?_ fun d hd => hall d (List.mem_cons_of_mem c hd)
    rw [totals_after, sum_countsFor_after r c (hall c List.mem_cons_self), hr]

/-- Whatever a recorder is called for, and by whom, its books agree: the totals with the counts of
the main threads, these with the calls made on behalf of each, and both with the history and the
events. -/
theorem books_agree (policy : Policy) (calls : List Call) :
    BooksAgree calls (({ policy } : Recorder).afterAll calls) where
  totals_eq threads hall := by
    refine totals_afterAll_eq_sum calls ?_ hall
    exact (Finset.sum_eq_zero fun t _ => rfl).symm
  foldl_perm records hperm := by
    rw [totals_eq_sum, ← (hperm.map Prod.snd).sum_eq, List.sum_eq_foldl]
    rfl
  read_totals k := by
    have htotals : (({ policy } : Recorder).afterAll calls).totals = (calls.map Call.tally).sum :=
      (totals_afterAll _ calls).trans (zero_add _)
    rw [htotals, k.read_sum, history_afterAll]
    exact UInt32.toNat_ofNat'
  countsFor_own t policy' := by
    rw [countsFor_afterAll, countsFor_afterAll, List.filter_filter]
    simp only [Bool.and_self]
    rfl
  history_eq := history_afterAll _ calls
  events_eq := events_afterAll _ calls
  history_events := by
    rw [history_afterAll, events_afterAll]
    exact filter_entries calls

/-- What a child thread reports is counted for its main thread, and a refused fixture like others.
-/
example :
    let r := ({ policy := { dispositions := ⟨.proceed, .proceed⟩, refusedFixtures := ["f"] } } :
      Recorder).afterAll
        [.fixtureStarts (.ownMain 0) "f", .report ⟨0, 3⟩ (.note "a"), .childStarts ⟨1, 4⟩]
    r.countsFor 0 = { beforeFixture := 1, logs := 1 } ∧ r.countsFor 3 = {}
      ∧ r.totals = { beforeFixture := 1, logs := 1, childrenStarted := 1 } := by
  decide

end Testbench.Recorder
