import Mathlib.Algebra.BigOperators.Group.List.Basic
import Testbench.Observer
import Testbench.Proofs.Remote.Story

/-!
# Books that go on

A recorder that has seen something before goes on where it was: its history is what it was, followed
by what a fresh recorder would have written, and so are its totals, which are sums.  It answers like
the fresh one as long as both have the same policy.
-/

namespace Testbench

/-! ### Sums of counts -/

namespace EventCounts

lemma zipWith_comm {f : UInt32 → UInt32 → UInt32} (h : ∀ x y, f x y = f y x) (a b : EventCounts) :
    zipWith f a b = zipWith f b a := by
  rw [zipWith, zipWith]
  congr 1 <;> exact h _ _

instance : Zero EventCounts := ⟨{}⟩

instance : AddCommMonoid EventCounts where
  add_assoc a b c := by
    change zipWith _ (zipWith _ a b) c = zipWith _ a (zipWith _ b c)
    simp only [zipWith, UInt32.add_assoc]
  zero_add a := by
    change zipWith _ {} a = a
    simp only [zipWith, UInt32.zero_add]
  add_zero a := by
    change zipWith _ a {} = a
    simp only [zipWith, UInt32.add_zero]
  add_comm a b := zipWith_comm UInt32.add_comm a b
  nsmul := nsmulRec

/-- The counts of so many equal runs are added up. -/
lemma scaled_ofNat (a : EventCounts) (n : Nat) : a.scaled (.ofNat n) = n • a := by
  induction n with
  | zero =>
    rw [zero_nsmul]
    change zipWith (fun x _ => x * 0) a a = {}
    simp only [zipWith, UInt32.mul_zero]
  | succ n ih =>
    rw [succ_nsmul, ← ih]
    change zipWith _ a a = zipWith _ (zipWith _ a a) a
    simp only [zipWith, UInt32.ofNat_add, UInt32.mul_add, UInt32.ofNat_one, UInt32.mul_one]

/-- As long as no count wraps around, each is so many times what it was. -/
lemma toNat_scaled (a : EventCounts) (n : Nat)
    (hfits : ∀ x ∈ a.toList, x.toNat * n < 2 ^ 32) :
    (a.scaled (.ofNat n)).toList.map UInt32.toNat = a.toList.map fun x => x.toNat * n := by
  have hlist : (a.scaled (.ofNat n)).toList = a.toList.map (· * .ofNat n) := rfl
  rw [hlist, List.map_map]
  refine List.map_congr_left fun x hx => ?_
  rw [Function.comp_apply, UInt32.toNat_mul, UInt32.toNat_ofNat', Nat.mul_mod_mod,
    Nat.mod_eq_of_lt (hfits x hx)]

end EventCounts

namespace Recorder

lemma totals_eq_sum (r : Recorder) : r.totals = (r.counts.map Prod.snd).sum := by
  rw [totals, List.sum_eq_foldl]
  rfl

/-- Whoever is counted for, the totals grow by what is counted. -/
lemma sum_updateCounts {f : EventCounts → EventCounts} {δ : EventCounts} (hf : ∀ c, f c = c + δ)
    (t : ThreadId) (l : List (ThreadId × EventCounts)) :
    ((updateCounts t f l).map Prod.snd).sum = (l.map Prod.snd).sum + δ := by
  induction l with
  | nil =>
    rw [updateCounts, List.map_singleton, List.sum_singleton, hf]
    rfl
  | cons p l ih =>
    obtain ⟨s, c⟩ := p
    rw [updateCounts]
    split
    · simp only [List.map_cons, List.sum_cons, hf]
      exact add_right_comm ..
    · simp only [List.map_cons, List.sum_cons, ih]
      exact (add_assoc ..).symm

lemma totals_count {f : EventCounts → EventCounts} {δ : EventCounts} (hf : ∀ c, f c = c + δ)
    (r : Recorder) (i : Identity) : (r.count i f).totals = r.totals + δ := by
  rw [totals_eq_sum, totals_eq_sum]
  exact sum_updateCounts hf i.mainThread r.counts

/-! ### Going on -/

/-- What a recorder has in its books. -/
structure Entries where
  history : List Callback
  totals : EventCounts

/-- The entries of a recorder. -/
def entries (r : Recorder) : Entries := ⟨r.history.toList, r.totals⟩

/-- A recorder has the policy of another, and what the other one has in its books comes after what
it had in its own before. -/
structure GoesOn (before : Entries) (r s : Recorder) : Prop where
  policy_eq : s.policy = r.policy
  history_eq : s.history.toList = before.history ++ r.history.toList
  totals_eq : s.totals = before.totals + r.totals

variable {before : Entries} {r s : Recorder}

/-- Something is counted by adding it. -/
def Adds (f : EventCounts → EventCounts) : Prop := ∃ δ, ∀ c, f c = c + δ

lemma adds_of_eq {f : EventCounts → EventCounts} (δ : EventCounts)
    (h : ∀ c, f c = EventCounts.zipWith (· + ·) c δ) : Adds f := ⟨δ, h⟩

lemma adds_countEvent (kind : EventKind) : Adds (countEvent kind) :=
  adds_of_eq (countEvent kind {}) fun c => by
    cases kind <;> simp only [countEvent, EventCounts.zipWith, UInt32.add_zero, UInt32.zero_add]

lemma GoesOn.count (h : GoesOn before r s) {f : EventCounts → EventCounts} (hf : Adds f)
    (i j : Identity) : GoesOn before (r.count i f) (s.count j f) := by
  obtain ⟨δ, hδ⟩ := hf
  refine ⟨h.policy_eq, h.history_eq, ?_⟩
  rw [totals_count hδ, totals_count hδ, h.totals_eq, add_assoc]

lemma GoesOn.remember (h : GoesOn before r s) (c : Callback) :
    GoesOn before (r.remember c) (s.remember c) where
  policy_eq := h.policy_eq
  history_eq := by
    rw [Recorder.remember, Recorder.remember, Array.toList_push, Array.toList_push, h.history_eq,
      List.append_assoc]
  totals_eq := h.totals_eq

/-! ### Callbacks -/

lemma GoesOn.fixtureStarts (h : GoesOn before r s) (i : Identity) (fixture : String) :
    (s.fixtureStarts i fixture).1 = (r.fixtureStarts i fixture).1 ∧
      GoesOn before (r.fixtureStarts i fixture).2 (s.fixtureStarts i fixture).2 := by
  have hadds : Adds fun c => { c with beforeFixture := c.beforeFixture + 1 } :=
    adds_of_eq { beforeFixture := 1 } fun c => by simp only [EventCounts.zipWith, UInt32.add_zero]
  have hanswer (r : Recorder) : (r.fixtureStarts i fixture).1 =
      if fixture ∈ r.policy.refusedFixtures then
        .error (.refused "before_fixture_start" (.fixture fixture)) else .ok () :=
    apply_ite Prod.fst ..
  rw [hanswer, hanswer, h.policy_eq, fixtureStarts_snd, fixtureStarts_snd]
  exact ⟨rfl, (h.count hadds i i).remember _⟩

lemma GoesOn.caseStarts (h : GoesOn before r s) (i : Identity) (case : String) :
    (s.caseStarts i case).1 = (r.caseStarts i case).1 ∧
      GoesOn before (r.caseStarts i case).2 (s.caseStarts i case).2 := by
  have hadds : Adds fun c => { c with beforeCase := c.beforeCase + 1 } :=
    adds_of_eq { beforeCase := 1 } fun c => by simp only [EventCounts.zipWith, UInt32.add_zero]
  have hanswer (r : Recorder) : (r.caseStarts i case).1 =
      if case ∈ r.policy.refusedCases then
        .error (.refused "before_test_case_start" (.other "test refused")) else .ok () :=
    apply_ite Prod.fst ..
  rw [hanswer, hanswer, h.policy_eq, caseStarts_snd, caseStarts_snd]
  exact ⟨rfl, (h.count hadds i i).remember _⟩

lemma GoesOn.fixtureFinished (h : GoesOn before r s) (i : Identity) (fixture : String)
    (completed : Bool) :
    GoesOn before (r.fixtureFinished i fixture completed)
      (s.fixtureFinished i fixture completed) := by
  refine (h.count ?_ i i).remember (.afterFixture fixture completed)
  exact adds_of_eq { afterFixture := 1, fixturesCompleted := bit completed } fun c => by
    simp only [EventCounts.zipWith, UInt32.add_zero]

lemma GoesOn.caseFinished (h : GoesOn before r s) (i : Identity) (case : String)
    (completed : Bool) :
    GoesOn before (r.caseFinished i case completed) (s.caseFinished i case completed) := by
  refine (h.count ?_ i i).remember (.afterCase case completed)
  exact adds_of_eq { afterCase := 1, casesCompleted := bit completed } fun c => by
    simp only [EventCounts.zipWith, UInt32.add_zero]

/-- The recorder once an event is in its books, before it answers. -/
def filed (r : Recorder) (i : Identity) (e : Event) : Recorder :=
  { (r.count i (countEvent e.kind)).remember (.event e.kind e.subject) with
    events := r.events.push e }

lemma report_of_nil (h : r.policy.script = []) (i : Identity) (e : Event) :
    r.report i e = (r.query e.kind, r.filed i e) := by
  have hfiled : (r.filed i e).policy.script = [] := h
  rw [report]
  split
  · rfl
  · rename_i hcons
    cases hfiled.symm.trans hcons

lemma report_of_cons {d : Disposition} {rest : List Disposition}
    (h : r.policy.script = d :: rest) (i : Identity) (e : Event) :
    r.report i e = (d, { r.filed i e with policy := { r.policy with script := rest } }) := by
  have hfiled : (r.filed i e).policy.script = d :: rest := h
  rw [report]
  split
  · rename_i hnil
    cases hfiled.symm.trans hnil
  · rename_i hcons
    cases hfiled.symm.trans hcons
    rfl

/-- Who reports and with which stack makes no difference. -/
lemma GoesOn.report (h : GoesOn before r s) (i j : Identity) (detail : Event.Detail)
    (stack stack' : Option StackTrace) :
    (s.report j ⟨detail, stack'⟩).1 = (r.report i ⟨detail, stack⟩).1 ∧
      GoesOn before (r.report i ⟨detail, stack⟩).2 (s.report j ⟨detail, stack'⟩).2 := by
  let e : Event := ⟨detail, stack⟩
  have hcounted := (h.count (adds_countEvent e.kind) i j).remember (.event e.kind e.subject)
  have hfiled : GoesOn before (r.filed i ⟨detail, stack⟩) (s.filed j ⟨detail, stack'⟩) :=
    ⟨hcounted.policy_eq, hcounted.history_eq, hcounted.totals_eq⟩
  cases hr : r.policy.script with
  | nil =>
    have hs : s.policy.script = [] := h.policy_eq ▸ hr
    rw [report_of_nil hr, report_of_nil hs]
    exact ⟨congrArg (fun p : Policy => p.dispositions.answer e.kind) h.policy_eq, hfiled⟩
  | cons d rest =>
    have hs : s.policy.script = d :: rest := h.policy_eq ▸ hr
    rw [report_of_cons hr, report_of_cons hs, h.policy_eq]
    exact ⟨rfl, rfl, hfiled.history_eq, hfiled.totals_eq⟩

lemma GoesOn.unhandledException (h : GoesOn before r s) (message : String) :
    GoesOn before (r.unhandledException message) (s.unhandledException message) :=
  ⟨h.policy_eq, h.history_eq, h.totals_eq⟩

end Recorder

end Testbench
