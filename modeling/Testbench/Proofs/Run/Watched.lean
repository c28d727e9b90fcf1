import Testbench.Proofs.Flow
import Testbench.Run.Fixture
import Testbench.Run.Plan

/-!
# Runs that are watched

Whoever watches a run keeps notes beside the state that it works on: of every callback, when it is
made and again if it is refused, and of every call of a routine, when it comes out or breaks off.
The run does not know about this.  `Flow.Writes` says both at once: that the state and the end are
those of the run that nobody watches, and what the notes look like.  One rule for each way to put
computations together is all that is needed to follow a run through its parts.
-/

namespace Testbench

variable {σ ρ ν α β : Type}

/-! ### Notes -/

/-- What is seen of a run. -/
inductive Note (ρ : Type)
  /-- The observer is told that a fixture starts. -/
  | fixtureStarts (f : Fixture ρ)
  /-- The observer is told that a test case starts. -/
  | caseStarts (f : Fixture ρ) (c : TestCase ρ)
  /-- The observer refuses what it was just told. -/
  | refused
  /-- A routine was called, with this answer. -/
  | calls (routine : ρ) (answer : Except FilamentError Outcome)
  /-- A routine was called, and the call did not return. -/
  | breaksOff (routine : ρ) (why : Stop)
  /-- The observer is told that a test case finished, completely or not. -/
  | caseFinished (f : Fixture ρ) (c : TestCase ρ) (completed : Bool)
  /-- The observer is told that a fixture finished, completely or not. -/
  | fixtureFinished (f : Fixture ρ) (completed : Bool)

/-- The note of an answer of the observer. -/
def Note.ofAnswer : Except ObserverError Unit → List (Note ρ)
  | .ok () => []
  | .error _ => [.refused]

namespace Flow

/-- The computation with notes: some are written before it, and others once it returns, or if it
stops. -/
def noting (before : List ν) (after : α → List ν) (m : Flow σ α)
    (stopped : Stop → List ν := fun _ => []) : Flow (σ × List ν) α := fun s =>
  match m s.1 with
  | (.ok a, s') => (.ok a, s', s.2 ++ before ++ after a)
  | (.error e, s') => (.error e, s', s.2 ++ before ++ stopped e)

/-- The computation beside notes that it does not touch. -/
def aside (m : Flow σ α) : Flow (σ × List ν) α := noting [] (fun _ => []) m

/-- From states with `I`, the computation `w` does what `m` does and writes notes: those in `Q` if
it returns, and those in `E` if it stops. The states go on to have `I`. -/
def Writes (I : σ → Prop) (w : Flow (σ × List ν) α) (m : Flow σ α) (Q : α → List ν → Prop)
    (E : List ν → Prop) : Prop :=
  ∀ s notes, I s → ∃ l, w (s, notes) = ((m s).1, (m s).2, notes ++ l) ∧ I (m s).2 ∧
    match (m s).1 with
    | .ok a => Q a l
    | .error _ => E l

/-! ### Rules -/

section

variable {I : σ → Prop} {w : Flow (σ × List ν) α} {m : Flow σ α} {Q Q' : α → List ν → Prop}
  {E E' : List ν → Prop}

lemma writes_noting {before : List ν} {after : α → List ν} {stopped : Stop → List ν}
    (hm : ∀ s, I s → I (m s).2 ∧ match (m s).1 with
      | .ok a => Q a (before ++ after a)
      | .error e => E (before ++ stopped e)) :
    Writes I (noting before after m stopped) m Q E := by
  intro s notes hs
  obtain ⟨hI, hend⟩ := hm s hs
  rw [noting]
  rcases h : m s with ⟨a | e, s'⟩ <;> simp only [h] at hI hend ⊢
  all_goals exact ⟨_, by rw [List.append_assoc], hI, hend⟩

lemma writes_pure {a : α} (ha : Q a []) : Writes I (pure a) (pure a) Q E := by
  intro s notes hs
  refine ⟨[], ?_, hs, ha⟩
  rw [List.append_nil]
  rfl

lemma Writes.mono (h : Writes I w m Q E) (hQ : ∀ a l, Q a l → Q' a l) (hE : ∀ l, E l → E' l) :
    Writes I w m Q' E' := by
  intro s notes hs
  obtain ⟨l, hw, hI, hend⟩ := h s notes hs
  refine ⟨l, hw, hI, ?_⟩
  rcases hm : (m s).1 with e | a <;> simp only [hm] at hend ⊢
  · exact hE l hend
  · exact hQ a l hend

/-- What comes second goes on with the notes of what comes first. -/
lemma Writes.bind {v : α → Flow (σ × List ν) β} {k : α → Flow σ β} {Q' : β → List ν → Prop}
    (h : Writes I w m Q E) (hE : ∀ l, E l → E' l)
    (hk : ∀ a l, Q a l → Writes I (v a) (k a) (fun b l' => Q' b (l ++ l')) fun l' => E' (l ++ l')) :
    Writes I (w >>= v) (m >>= k) Q' E' := by
  intro s notes hs
  obtain ⟨l, hw, hI, hend⟩ := h s notes hs
  rcases hm : m s with ⟨e | a, s'⟩ <;> simp only [hm] at hw hI hend
  · rw [bind_error hw, bind_error hm]
    exact ⟨l, rfl, hI, hE l hend⟩
  · obtain ⟨l', hv, hI', hend'⟩ := hk a l hend s' (notes ++ l) hI
    rw [bind_ok hw, bind_ok hm, hv]
    exact ⟨l ++ l', by rw [List.append_assoc], hI', hend'⟩

lemma Writes.attempt (h : Writes I w m Q E) :
    Writes I (attempt w) (attempt m)
      (fun r l => match r with
        | .ok a => Q a l
        | .error _ => E l) E := by
  intro s notes hs
  obtain ⟨l, hw, hI, hend⟩ := h s notes hs
  rw [Flow.attempt, Flow.attempt]
  rcases hm : m s with ⟨(payload | _) | a, s'⟩ <;> simp only [hm] at hw hI hend <;> rw [hw] <;>
    exact ⟨l, rfl, hI, hend⟩

lemma writes_resume {r : Except Payload α}
    (hr : match r with
      | .ok a => Q a []
      | .error _ => E []) :
    Writes I (resume r) (resume r) Q E := by
  cases r with
  | ok a => exact writes_pure hr
  | error payload =>
    intro s notes hs
    refine ⟨[], ?_, hs, hr⟩
    rw [List.append_nil]
    rfl

/-- What is done at the end of a computation goes on with its notes, whether it returned or
unwound. -/
lemma Writes.ensuring {finish : Flow (σ × List ν) Unit} {last : Flow σ Unit}
    (h : Writes I w m Q E) (hE : ∀ l, E l → E' l)
    (hok : ∀ a l, Q a l → Writes I finish last (fun _ l' => Q' a (l ++ l')) fun l' => E' (l ++ l'))
    (hunwound : ∀ l, E l →
      Writes I finish last (fun _ l' => E' (l ++ l')) fun l' => E' (l ++ l')) :
    Writes I (w.ensuring finish) (m.ensuring last) Q' E' := by
  refine h.attempt.bind hE fun r l hr => ?_
  cases r with
  | ok a =>
    refine (hok a l hr).bind (fun _ hl' => hl') fun _ l' hl' => writes_resume ?_
    simpa using hl'
  | error payload =>
    refine (hunwound l hr).bind (fun _ hl' => hl') fun _ l' hl' => writes_resume ?_
    simpa using hl'

end

end Flow

/-! ### Hosts -/

/-- The host with somebody who watches it. -/
def Host.watched (h : Host σ ρ) : Host (σ × List (Note ρ)) ρ where
  validate := .aside h.validate
  fixtureStarts f := .noting [.fixtureStarts f] Note.ofAnswer (h.fixtureStarts f)
  fixtureFinished f completed :=
    .noting [.fixtureFinished f completed] (fun _ => []) (h.fixtureFinished f completed)
  caseStarts f c := .noting [.caseStarts f c] Note.ofAnswer (h.caseStarts f c)
  caseFinished f c completed :=
    .noting [.caseFinished f c completed] (fun _ => []) (h.caseFinished f c completed)
  call routine := .noting [] (fun answer => [.calls routine answer]) (h.call routine)
    fun why => [.breaksOff routine why]
  installs f := .aside (h.installs f)
  awaits f d := .aside (h.awaits f d)
  revokes f d := .aside (h.revokes f d)

/-! ### Plans -/

namespace Plan

/-- The action of a name in the plan that a state holds. -/
def lookup (plan : σ → Plan α) (i : ActionId) : Flow σ (Option (Action α)) :=
  .see fun s => (plan s).actions.get? i

lemma inOrder_cons_ok {β ε : Type} {f : β → Flow σ (Except ε Unit)} {i : β} {items : List β}
    {s s' : σ} (h : f i s = (.ok (.ok ()), s')) :
    inOrder f (i :: items) s = inOrder f items s' := by
  rw [inOrder, Flow.bind_ok h]

/-- How far a plan gets that is run from `s`, as far as leaves let the run go on: each of them was in
the plan when it came to it. -/
inductive Reached {ε : Type} (plan : σ → Plan α) (leaf : α → Flow σ (Except ε Unit)) (s : σ) :
    σ → Prop
  /-- At first. -/
  | start : Reached plan leaf s s
  /-- After one more leaf. -/
  | next {s₁ s₂ : σ} {i : ActionId} {a : α} (h : Reached plan leaf s s₁)
      (found : (plan s₁).actions.get? i = some (.leaf a)) (hleaf : leaf a s₁ = (.ok (.ok ()), s₂)) :
      Reached plan leaf s s₂

/-- A plan that is run from a state comes to hold a leaf. -/
def Holds {ε : Type} (plan : σ → Plan α) (leaf : α → Flow σ (Except ε Unit)) (s : σ) (a : α) :
    Prop :=
  ∃ i s', Reached plan leaf s s' ∧ (plan s').actions.get? i = some (.leaf a)

/-- How the leaves of a plan are run: each is a fixture, with surroundings of its own. -/
structure Staging (σ ρ α : Type) where
  host : α → Host σ ρ
  fixture : α → FixtureRun ρ

/-- Runs a fixture in its surroundings. -/
def Staging.run (g : Staging σ ρ α) (a : α) : Flow σ (Except RunError Unit) :=
  (g.fixture a).run (g.host a)

/-- Runs a fixture in its surroundings with somebody who watches. -/
def Staging.runWatched (g : Staging σ ρ α) (a : α) :
    Flow (σ × List (Note ρ)) (Except RunError Unit) :=
  (g.fixture a).run (g.host a).watched

/-- A plan that is run from a state comes to hold a fixture. -/
def Staging.HoldsFixture (g : Staging σ ρ α) (plan : σ → Plan α) (s : σ) (r : FixtureRun ρ) :
    Prop :=
  ∃ a, Holds plan g.run s a ∧ g.fixture a = r

/-- Runs a plan of fixtures, each action as it stands when its turn comes. -/
def runFixtures (g : Staging σ ρ α) (plan : σ → Plan α) (depth : Nat) (root : ActionId) :
    Flow σ (Except RunError Unit) :=
  run (lookup plan) g.run depth root

/-- Runs a plan of fixtures with somebody who watches it. -/
def runWatched (g : Staging σ ρ α) (plan : σ → Plan α) (depth : Nat) (root : ActionId) :
    Flow (σ × List (Note ρ)) (Except RunError Unit) :=
  run (fun i => .aside (lookup plan i)) g.runWatched depth root

/-! ### Notes of plans -/

/-- What is seen of plans is put together from what is seen of their leaves: `Q` is about one that
returns, and `E` about one that stops on the way. -/
structure Joins (Q : Except RunError Unit → List (Note ρ) → Prop) (E : List (Note ρ) → Prop) :
    Prop where
  nothing : Q (.ok ()) []
  stopped : E []
  append : ∀ {answer l l'}, Q (.ok ()) l → Q answer l' → Q answer (l ++ l')
  append_stopped : ∀ {l l'}, Q (.ok ()) l → E l' → E (l ++ l')

/-- From the state `s`, the computation `w` does what `m` does and writes notes: those in `Q` if it
returns, in a state with `J` if the run goes on, and those in `E` if it stops. -/
def WritesAt (J : σ → Prop) (Q : Except RunError Unit → List (Note ρ) → Prop)
    (E : List (Note ρ) → Prop) (w : Flow (σ × List (Note ρ)) (Except RunError Unit))
    (m : Flow σ (Except RunError Unit)) (s : σ) : Prop :=
  ∀ notes, ∃ l, w (s, notes) = ((m s).1, (m s).2, notes ++ l) ∧
    match m s with
    | (.ok answer, s') => Q answer l ∧ (answer = .ok () → J s')
    | (.error _, _) => E l

section

variable {I J : σ → Prop} {Q : Except RunError Unit → List (Note ρ) → Prop}
  {E : List (Note ρ) → Prop} {g : Staging σ ρ α} {plan : σ → Plan α} {s : σ}

lemma writesAt_of {w : Flow (σ × List (Note ρ)) (Except RunError Unit)}
    {m : Flow σ (Except RunError Unit)} (h : Flow.Writes I w m Q E) (hs : I s)
    (hJ : ∀ s', m s = (.ok (.ok ()), s') → I s' → J s') : WritesAt J Q E w m s := by
  intro notes
  obtain ⟨l, hw, hI, hend⟩ := h s notes hs
  refine ⟨l, hw, ?_⟩
  rcases hm : m s with ⟨stop | answer, s'⟩ <;> simp only [hm] at hI hend hJ
  · exact hend
  · refine ⟨hend, ?_⟩
    rintro rfl
    exact hJ s' rfl hI

/-- The actions of a sequence come one after the other, up to the first that stops the run. -/
lemma Joins.inOrder (h : Joins Q E)
    {f : ActionId → Flow (σ × List (Note ρ)) (Except RunError Unit)}
    {f' : ActionId → Flow σ (Except RunError Unit)}
    (hf : ∀ i s, J s → WritesAt J Q E (f i) (f' i) s) (items : List ActionId) (hs : J s) :
    WritesAt J Q E (Plan.inOrder f items) (Plan.inOrder f' items) s := by
  induction items generalizing s with
  | nil => exact fun notes => ⟨[], by rw [List.append_nil]; rfl, h.nothing, fun _ => hs⟩
  | cons i items ih =>
    intro notes
    obtain ⟨l, hw, hend⟩ := hf i s hs notes
    rcases hm : f' i s with ⟨stop | e | u, s₁⟩ <;> simp only [hm] at hw hend
    · rw [Plan.inOrder, Plan.inOrder, Flow.bind_error hw, Flow.bind_error hm]
      exact ⟨l, rfl, hend⟩
    · rw [Plan.inOrder, Plan.inOrder, Flow.bind_ok hw, Flow.bind_ok hm]
      exact ⟨l, rfl, hend.1, nofun⟩
    · obtain ⟨l', hw', hend'⟩ := ih (hend.2 trivial) (notes ++ l)
      rw [inOrder_cons_ok hw, inOrder_cons_ok hm, hw']
      refine ⟨l ++ l', by rw [List.append_assoc], ?_⟩
      rcases hrest : Plan.inOrder f' items s₁ with ⟨stop | answer, s'⟩ <;> simp only [hrest] at hend'
      · exact h.append_stopped hend.1 hend'
      · exact ⟨h.append hend.1 hend'.1, hend'.2⟩

/-- What is seen of a plan is put together from what is seen of the leaves that it holds when their
turn comes. -/
lemma Joins.runWatched (h : Joins Q E)
    (hleaf : ∀ i a s, J s → (plan s).actions.get? i = some (.leaf a) →
      WritesAt J Q E (g.runWatched a) (g.run a) s) (depth : Nat) (i : ActionId) (hs : J s) :
    WritesAt J Q E (Plan.runWatched g plan depth i) (runFixtures g plan depth i) s := by
  induction depth generalizing i s with
  | zero => exact fun notes => ⟨[], by rw [List.append_nil]; rfl, h.stopped⟩
  | succ depth ih =>
    intro notes
    have hfind : lookup plan i s = (.ok ((plan s).actions.get? i), s) := rfl
    have hfind' : (.aside (lookup plan i) : Flow (σ × List (Note ρ)) _) (s, notes)
        = (.ok ((plan s).actions.get? i), s, notes) := by
      simp only [Flow.aside, Flow.noting, hfind, List.append_nil]
    rw [Plan.runWatched, runFixtures, run, run, Flow.bind_ok hfind, Flow.bind_ok hfind']
    rcases hfound : (plan s).actions.get? i with - | a | items
    · exact ⟨[], by rw [List.append_nil]; rfl, h.nothing, fun _ => hs⟩
    · exact hleaf i a s hs hfound notes
    · exact h.inOrder (fun i s hs => ih i hs) items hs notes

end

end Plan

end Testbench
