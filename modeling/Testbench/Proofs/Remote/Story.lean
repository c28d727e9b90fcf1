import Testbench.Observer.Recorder
import Testbench.Proofs.Record.Kept

/-!
# What a recorder is told

A run is a story to its recorder: callbacks about fixtures and test cases, and what the calls of
routines report.  Two recorders that are told stories that differ in the reports alone keep the same
books, up to the difference in the reports.
-/

namespace Testbench

/-- Something that a recorder is told in the course of a run. -/
inductive Told
  /-- A fixture starts. -/
  | fixtureStarts (fixture : String)
  /-- A fixture finished. -/
  | fixtureFinished (fixture : String) (completed : Bool)
  /-- A test case starts. -/
  | caseStarts (case : String)
  /-- A test case finished. -/
  | caseFinished (case : String) (completed : Bool)
  /-- What was reported during the call of a routine. -/
  | call (es : List Event)

namespace Told

/-- The same with other reports. -/
def passing (g : List Event → List Event) : Told → Told
  | call es => call (g es)
  | t => t

/-- Whether it is one of the callbacks about fixtures and test cases. -/
def isCallback : Told → Bool
  | call _ => false
  | _ => true

lemma passing_of_isCallback {t : Told} (h : t.isCallback) (g : List Event → List Event) :
    t.passing g = t := by
  cases t with
  | call es => cases h
  | _ => rfl

/-- The entries that it makes in a history. -/
def callbacks : Told → List Callback
  | fixtureStarts fixture => [.beforeFixture fixture]
  | fixtureFinished fixture completed => [.afterFixture fixture completed]
  | caseStarts case => [.beforeCase case]
  | caseFinished case completed => [.afterCase case completed]
  | call es => es.map fun e => .event e.kind e.subject

/-- The events in it. -/
def events : Told → List Event
  | call es => es
  | _ => []

end Told

/-- What is kept of an entry of a history if records keep it. -/
def Callback.kept : Callback → Callback
  | .event kind subject => .event kind (Record.keptText subject)
  | c => c

lemma kind_kept (e : Event) : (Record.kept e).kind = e.kind := by
  obtain ⟨detail, stack⟩ := e
  cases detail <;> rfl

lemma subject_kept (e : Event) : (Record.kept e).subject = Record.keptText e.subject := by
  obtain ⟨detail, stack⟩ := e
  cases detail <;> rfl

lemma Told.callbacks_kept (t : Told) :
    (t.passing (·.map Record.kept)).callbacks = t.callbacks.map Callback.kept := by
  cases t with
  | call es =>
    simp only [passing, callbacks, List.map_map]
    refine List.map_congr_left fun e _ => ?_
    simp only [Function.comp_apply, kind_kept, subject_kept, Callback.kept]
  | _ => rfl

lemma Told.events_kept (t : Told) :
    (t.passing (·.map Record.kept)).events = t.events.map Record.kept := by
  cases t <;> rfl

namespace Recorder

/-- The recorder after it was told something. -/
def told (i : Identity) (r : Recorder) : Told → Recorder
  | .fixtureStarts fixture => (r.fixtureStarts i fixture).2
  | .fixtureFinished fixture completed => r.fixtureFinished i fixture completed
  | .caseStarts case => (r.caseStarts i case).2
  | .caseFinished case completed => r.caseFinished i case completed
  | .call es => es.foldl (fun r e => (r.report i e).2) r

/-- The recorder after a story. -/
def hearing (i : Identity) (r : Recorder) (story : List Told) : Recorder := story.foldl (told i) r

/-- The recorder without the messages of panics, of which it hears as events, too. -/
def books (r : Recorder) : Recorder := { r with unhandled := #[] }

lemma hearing_concat (i : Identity) (r : Recorder) (story : List Told) (t : Told) :
    r.hearing i (story ++ [t]) = (r.hearing i story).told i t := by
  rw [hearing, List.foldl_append]
  rfl

/-! ### One report after the other -/

lemma told_append (i : Identity) (r : Recorder) (es fs : List Event) :
    r.told i (.call (es ++ fs)) = (r.told i (.call es)).told i (.call fs) := List.foldl_append

lemma report_history (r : Recorder) (i : Identity) (e : Event) :
    (r.report i e).2.history = r.history.push (.event e.kind e.subject) := by
  rw [report]
  split <;> rfl

lemma report_events (r : Recorder) (i : Identity) (e : Event) :
    (r.report i e).2.events = r.events.push e := by
  rw [report]
  split <;> rfl

lemma report_counts (r : Recorder) (i : Identity) (e : Event) :
    (r.report i e).2.counts = updateCounts i.mainThread (countEvent e.kind) r.counts := by
  rw [report]
  split <;> rfl

lemma report_books (r : Recorder) (i : Identity) (e : Event) :
    (r.report i e).2.books = (r.books.report i e).2 := by
  obtain ⟨⟨version, dispositions, fixtures, cases, threadStart, script⟩, history, events, unhandled,
    counts⟩ := r
  cases script <;> rfl

lemma report_policy {r : Recorder} (hr : r.policy.script = []) (i : Identity) (e : Event) :
    (r.report i e).2.policy = r.policy := by
  rw [report]
  simp only [count, remember, hr]

/-! ### One callback after the other -/

lemma fixtureStarts_snd (r : Recorder) (i : Identity) (fixture : String) :
    (r.fixtureStarts i fixture).2
      = (r.count i fun c => { c with beforeFixture := c.beforeFixture + 1 }).remember
        (.beforeFixture fixture) := by
  rw [fixtureStarts]
  split <;> rfl

lemma caseStarts_snd (r : Recorder) (i : Identity) (case : String) :
    (r.caseStarts i case).2
      = (r.count i fun c => { c with beforeCase := c.beforeCase + 1 }).remember
        (.beforeCase case) := by
  rw [caseStarts]
  split <;> rfl

lemma told_policy {r : Recorder} (hr : r.policy.script = []) (i : Identity) (t : Told) :
    (r.told i t).policy = r.policy := by
  cases t with
  | fixtureStarts fixture => rw [told, fixtureStarts_snd, remember, count]
  | caseStarts case => rw [told, caseStarts_snd, remember, count]
  | fixtureFinished fixture completed => rfl
  | caseFinished case completed => rfl
  | call es =>
    induction es generalizing r with
    | nil => rfl
    | cons e es ih =>
      have he := report_policy hr i e
      exact (ih (by rw [he, hr])).trans he

lemma told_books (r : Recorder) (i : Identity) (t : Told) :
    (r.told i t).books = r.books.told i t := by
  cases t with
  | fixtureStarts fixture => simp only [told, fixtureStarts_snd, remember, count, books]
  | caseStarts case => simp only [told, caseStarts_snd, remember, count, books]
  | fixtureFinished fixture completed => rfl
  | caseFinished case completed => rfl
  | call es =>
    induction es generalizing r with
    | nil => rfl
    | cons e es ih =>
      have he := ih (r.report i e).2
      rw [report_books] at he
      exact he

lemma told_history (r : Recorder) (i : Identity) (t : Told) :
    (r.told i t).history.toList = r.history.toList ++ t.callbacks := by
  cases t with
  | fixtureStarts fixture => rw [told, fixtureStarts_snd, remember, count, Array.toList_push]; rfl
  | caseStarts case => rw [told, caseStarts_snd, remember, count, Array.toList_push]; rfl
  | fixtureFinished fixture completed => exact Array.toList_push
  | caseFinished case completed => exact Array.toList_push
  | call es =>
    induction es generalizing r with
    | nil => exact (List.append_nil _).symm
    | cons e es ih =>
      refine (ih (r.report i e).2).trans ?_
      rw [report_history, Array.toList_push, List.append_assoc]
      rfl

lemma told_events (r : Recorder) (i : Identity) (t : Told) :
    (r.told i t).events.toList = r.events.toList ++ t.events := by
  cases t with
  | fixtureStarts fixture =>
    rw [told, fixtureStarts_snd]
    exact (List.append_nil _).symm
  | caseStarts case =>
    rw [told, caseStarts_snd]
    exact (List.append_nil _).symm
  | fixtureFinished fixture completed => exact (List.append_nil _).symm
  | caseFinished case completed => exact (List.append_nil _).symm
  | call es =>
    induction es generalizing r with
    | nil => exact (List.append_nil _).symm
    | cons e es ih =>
      refine (ih (r.report i e).2).trans ?_
      rw [report_events, Array.toList_push, List.append_assoc]
      rfl

/-- Counts depend on the kinds of events alone. -/
lemma told_counts {r r' : Recorder} (h : r'.counts = r.counts) (i : Identity) (t : Told) :
    (r'.told i (t.passing (·.map Record.kept))).counts = (r.told i t).counts := by
  cases t with
  | fixtureStarts fixture =>
    simp only [Told.passing, told, fixtureStarts_snd, remember, count, h]
  | caseStarts case => simp only [Told.passing, told, caseStarts_snd, remember, count, h]
  | fixtureFinished fixture completed =>
    simp only [Told.passing, told, fixtureFinished, remember, count, h]
  | caseFinished case completed =>
    simp only [Told.passing, told, caseFinished, remember, count, h]
  | call es =>
    induction es generalizing r r' with
    | nil => exact h
    | cons e es ih =>
      have hcounts : (r'.report i (Record.kept e)).2.counts = (r.report i e).2.counts := by
        rw [report_counts, report_counts, h, kind_kept]
      exact ih hcounts

/-! ### Whole stories -/

lemma hearing_history (r : Recorder) (i : Identity) (story : List Told) :
    (r.hearing i story).history.toList = r.history.toList ++ story.flatMap Told.callbacks := by
  induction story generalizing r with
  | nil => exact (List.append_nil _).symm
  | cons t story ih =>
    refine (ih (r.told i t)).trans ?_
    rw [told_history, List.append_assoc, List.flatMap_cons]

lemma hearing_events (r : Recorder) (i : Identity) (story : List Told) :
    (r.hearing i story).events.toList = r.events.toList ++ story.flatMap Told.events := by
  induction story generalizing r with
  | nil => exact (List.append_nil _).symm
  | cons t story ih =>
    refine (ih (r.told i t)).trans ?_
    rw [told_events, List.append_assoc, List.flatMap_cons]

lemma hearing_counts {r r' : Recorder} (h : r'.counts = r.counts) (i : Identity)
    (story : List Told) :
    (r'.hearing i (story.map (Told.passing (·.map Record.kept)))).counts
      = (r.hearing i story).counts := by
  induction story generalizing r r' with
  | nil => exact h
  | cons t story ih => exact ih (told_counts h i t)

/-- From where `r` stands, the books of `r₂` are those of `r₁`, with the texts of events cut down to
what records keep. -/
structure Echoes (r r₁ r₂ : Recorder) : Prop where
  counts_eq : r₂.counts = r₁.counts
  history : ∃ hs, r₁.history.toList = r.history.toList ++ hs ∧
    r₂.history.toList = r.history.toList ++ hs.map Callback.kept
  events : ∃ es, r₁.events.toList = r.events.toList ++ es ∧
    r₂.events.toList = r.events.toList ++ es.map Record.kept

/-- A recorder that is told the same with what records keep of the events echoes the other. -/
lemma hearing_echoes (r : Recorder) (i : Identity) (story : List Told) :
    r.Echoes (r.hearing i story)
      (r.hearing i (story.map (Told.passing (·.map Record.kept)))) where
  counts_eq := hearing_counts rfl i story
  history := by
    refine ⟨_, hearing_history r i story, ?_⟩
    rw [hearing_history, List.flatMap_map, List.map_flatMap]
    simp only [Told.callbacks_kept]
  events := by
    refine ⟨_, hearing_events r i story, ?_⟩
    rw [hearing_events, List.flatMap_map, List.map_flatMap]
    simp only [Told.events_kept]

end Recorder

end Testbench
