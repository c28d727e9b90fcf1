import Mathlib.Data.List.Nodup
import Testbench.Proofs.Crew.Moves
import Testbench.Proofs.Places
import Testbench.Proofs.World

/-!
# What holds of the threads of a call

Whatever step is taken, the filament counts exactly the threads that are on their way through it, its
worst outcome is the worst of those that were noted, and whoever has not told yet what became of it
is waited for by the thread that started it.  So nobody is missing from the count for good: when it
is zero and the routine has ended, nobody is left.
-/

namespace Testbench.Crew

variable {ρ ε : Type} {reg : RegistryId} {f : FilamentId} {limit : Duration} {main : ThreadId}
  {before : Outcome}

/-- The outcomes that a call has to take in: what the filament had noted before, and what the children
noted. -/
def outcomes (before : Outcome) (workers : List Worker) : Set Outcome :=
  {o | o = before ∨ Noted workers o}

/-- What holds of the calling thread. -/
structure SoundCaller (limit : Duration) (before : Outcome) (s : State ρ ε) (φ : Phase) : Prop where
  exit : φ.exit? = none
  told : s.told = if φ.hasReported then [lateNote limit] else []
  verdict : ∀ e late o, φ.verdict? = some (e, late, o) →
    (late = false → IsGreatest (insert e.caught.toOutcome (outcomes before s.workers)) o) ∧
      (late = true → Outcome.failed ≤ o)
  joined : φ.joinedAll = true → ∀ i p, s.workers[i + 1]? = some p → p.phase.finished = true
  untimed : φ.isStranded = true → ¬ limit.Timed

/-- What holds of the filament. -/
structure SoundFilament (main : ThreadId) (before : Outcome) (s : State ρ ε) (x : Filament) :
    Prop where
  mainThread : x.mainThread = main
  running : x.running = s.workers.countP (·.counted main)
  worst : IsGreatest (outcomes before s.workers) x.childOutcome

/-- What holds of all threads and of their filament. -/
structure Sound (reg : RegistryId) (f : FilamentId) (limit : Duration) (main : ThreadId)
    (before : Outcome) (s : State ρ ε) : Prop where
  filament : ∃ x, s.world.roster.filaments.get? f = some x ∧ SoundFilament main before s x
  caller : ∃ p, s.workers[0]? = some p ∧ SoundCaller limit before s p.phase
  children : ∀ i p, s.workers[i + 1]? = some p → p.thread ≠ main ∧ p.phase.ofCaller = false
  distinct : (s.workers.map Worker.thread).Nodup
  mainKnown : main < s.world.threads.items.size
  known : ∀ p ∈ s.workers, p.thread < s.world.threads.items.size
  fits : ∀ p ∈ s.workers, Fits reg f s.world p.thread p.phase
  awaited : ∀ i p, s.workers[i + 1]? = some p → p.phase.arrived = false →
    ∃ q ∈ s.workers, q.phase = .awaits p.thread

variable {s s' : State ρ ε} {i j : Nat} {p q : Worker} {φ : Phase} {w : World ρ ε} {x : Filament}

lemma Phase.silent_of_not_counts (hcounts : φ.counts = false) (hleft : φ.finished = false) :
    φ.arrived = false := by
  cases φ <;> simp_all [Phase.counts, Phase.finished, Phase.arrived]

/-- A call that settled in time found nobody left. -/
lemma Phase.joinedAll_of_verdict {e : Exit} {o : Outcome}
    (h : φ.verdict? = some (e, false, o)) : φ.joinedAll = true := by
  cases φ with
  | settled e late o => cases h; rfl
  | unbound b e => cases e <;> cases h; rfl
  | done e => cases e <;> cases h; rfl
  | _ => cases h

/-- When the filament counts nobody and the routine has ended, nobody is left. -/
lemma Sound.all_finished (hs : Sound reg f limit main before s)
    (hx : s.world.roster.filaments.get? f = some x) (hzero : x.running = 0)
    (hcaller : s.workers[0]? = some q) (hended : ∀ u, q.phase ≠ .awaits u)
    (hp : s.workers[i + 1]? = some p) : p.phase.finished = true := by
  obtain ⟨x', hx', hfilament⟩ := hs.filament
  obtain rfl := Option.some.inj (hx.symm.trans hx')
  have hnone : ∀ p ∈ s.workers, ¬ p.counted main = true :=
    List.countP_eq_zero.mp (hfilament.running.symm.trans hzero)
  -- a child that is on its way through the filament would be counted
  have houtside {j : Nat} {p : Worker} (hj : s.workers[j + 1]? = some p) :
      p.phase.counts = false := by
    have hnot := hnone p (List.mem_of_getElem? hj)
    have hne := (hs.children j p hj).1
    simpa [Worker.counted, Ne.symm hne] using hnot
  refine Bool.of_not_eq_false fun hleft => ?_
  -- a child that is not counted and not finished has told nobody yet, so somebody waits for it
  have hsilent : p.phase.arrived = false := Phase.silent_of_not_counts (houtside hp) hleft
  obtain ⟨r, hr, hawaits⟩ := hs.awaited i p hp hsilent
  obtain ⟨j, hj⟩ := List.getElem?_of_mem hr
  cases j with
  | zero =>
    obtain rfl := Option.some.inj (hcaller.symm.trans hj)
    exact hended _ hawaits
  | succ j =>
    have hout := houtside hj
    rw [hawaits] at hout
    cases hout

/-! ### What was noted -/

/-- Who moves adds to what was noted what it notes itself. -/
lemma outcomes_set (hi : s.workers[i]? = some p) (hnote : q.phase.note? = p.phase.note?) :
    outcomes before (s.workers.set i q) = outcomes before s.workers := by
  ext o
  refine or_congr_right ⟨?_, ?_⟩
  · rintro ⟨r, hr, ho⟩
    rcases List.mem_or_eq_of_mem_set hr with hr | rfl
    · exact ⟨r, hr, ho⟩
    · exact ⟨p, List.mem_of_getElem? hi, hnote ▸ ho⟩
  · rintro ⟨r, hr, ho⟩
    rcases Places.mem_set_of_mem hi hr q with rfl | hr
    · exact ⟨q, Places.mem_set_self hi q, hnote.trans ho⟩
    · exact ⟨r, hr, ho⟩

lemma outcomes_set_note (hi : s.workers[i]? = some p) (hp : p.phase.note? = none) {o : Outcome}
    (hq : q.phase.note? = some o) :
    outcomes before (s.workers.set i q) = insert o (outcomes before s.workers) := by
  ext o'
  constructor
  · rintro (rfl | ⟨r, hr, ho⟩)
    · exact .inr (.inl rfl)
    · rcases List.mem_or_eq_of_mem_set hr with hr | rfl
      · exact .inr (.inr ⟨r, hr, ho⟩)
      · exact .inl (Option.some.inj (ho.symm.trans hq))
  · rintro (rfl | rfl | ⟨r, hr, ho⟩)
    · exact .inr ⟨q, Places.mem_set_self hi q, hq⟩
    · exact .inl rfl
    · rcases Places.mem_set_of_mem hi hr q with rfl | hr
      · rw [hp] at ho
        cases ho
      · exact .inr ⟨r, hr, ho⟩

/-! ### The steps -/

/-- Two workers in different places are different threads. -/
lemma Sound.thread_ne (hs : Sound reg f limit main before s) (hi : s.workers[i]? = some p)
    (hj : s.workers[j]? = some q) (hij : i ≠ j) : p.thread ≠ q.thread := by
  intro heq
  have hi' : (s.workers.map Worker.thread)[i]? = some p.thread := by rw [List.getElem?_map, hi]; rfl
  have hj' : (s.workers.map Worker.thread)[j]? = some p.thread := by
    rw [List.getElem?_map, hj, heq]
    rfl
  have hlt := (List.getElem?_eq_some_iff.mp hi').1
  exact hij ((List.getElem?_inj hlt hs.distinct).mp (hi'.trans hj'.symm))

/-- Those who have not told yet what became of them are still waited for after a move. -/
lemma Sound.awaited_set (hs : Sound reg f limit main before s) (hi : s.workers[i]? = some p)
    (hp : ∀ u, p.phase ≠ .awaits u) (q : Worker) {r : Worker} (hr : s.workers[j + 1]? = some r)
    (hsilent : r.phase.arrived = false) :
    ∃ r' ∈ s.workers.set i q, r'.phase = .awaits r.thread := by
  obtain ⟨r', hr', hawaits⟩ := hs.awaited j r hr hsilent
  rcases Places.mem_set_of_mem hi hr' q with rfl | hr'
  · exact absurd hawaits (hp _)
  · exact ⟨r', hr', hawaits⟩

/-- What holds of the calling thread after it moved. -/
lemma Sound.caller_goes (hs : Sound reg f limit main before s) (hi : s.workers[0]? = some p)
    (hcaller : SoundCaller limit before s p.phase) (h : Goes reg f limit 0 p s.world φ w) :
    SoundCaller limit before
      { s with world := w, workers := s.workers.set 0 { p with phase := φ } } φ := by
  obtain ⟨x, hx, hfilament⟩ := hs.filament
  obtain ⟨hexit, hreported, hverdict⟩ := h.verdict hx hcaller.exit
  have hsame : outcomes before (s.workers.set 0 { p with phase := φ })
      = outcomes before s.workers := by
    refine outcomes_set hi ?_
    rw [Phase.note?, Phase.note?, hexit, hcaller.exit]
  constructor
  · exact hexit
  · rw [hreported]
    exact hcaller.told
  · intro e late o hφ
    rw [hsame]
    rcases hverdict e late o hφ with hbefore | ⟨rfl, rfl⟩ | ⟨rfl, hlate⟩
    · exact hcaller.verdict e late o hbefore
    · refine ⟨fun _ => ?_, fun h => (nomatch h)⟩
      rw [worst_eq_max]
      exact hfilament.worst.insert _
    · exact ⟨fun h => (nomatch h), fun _ => hlate⟩
  · intro hjoined j q hq
    have hq' : s.workers[j + 1]? = some q :=
      (Places.getElem?_set_of_ne (Nat.succ_ne_zero j).symm _).symm.trans hq
    rcases h.joinedAll hx hjoined with hbefore | ⟨hzero, e, he⟩
    · exact hcaller.joined hbefore j q hq'
    · exact hs.all_finished hx hzero hi (fun u hu => nomatch he.symm.trans hu) hq'
  · exact h.stranded

/-- While a child is left the call has not found everybody gone, so that what the children do does
not concern it. -/
lemma SoundCaller.of_left (hcaller : SoundCaller limit before s φ)
    (hi : s.workers[i + 1]? = some p) (hp : p.phase.finished = false) (htold : s'.told = s.told) :
    SoundCaller limit before s' φ := by
  have hleft : ¬ φ.joinedAll = true := by
    intro hjoined
    rw [hcaller.joined hjoined i p hi] at hp
    cases hp
  refine ⟨hcaller.exit, htold.trans hcaller.told, fun e late o hverdict => ⟨?_,
    (hcaller.verdict e late o hverdict).2⟩, fun hjoined => absurd hjoined hleft, hcaller.untimed⟩
  rintro rfl
  exact absurd (Phase.joinedAll_of_verdict hverdict) hleft

/-- A worker moves. -/
lemma Sound.goes (hs : Sound reg f limit main before s) (hi : s.workers[i]? = some p)
    (h : Goes reg f limit i p s.world φ w) :
    Sound reg f limit main before
      { s with world := w, workers := s.workers.set i { p with phase := φ } } := by
  obtain ⟨x, hx, hfilament⟩ := hs.filament
  obtain ⟨p₀, hp₀, hcaller⟩ := hs.caller
  have hmem := List.mem_of_getElem? hi
  have hfits := hs.fits p hmem
  constructor
  · -- the filament
    obtain ⟨n, hn, hn'⟩ := Places.countP_set_eq hi (·.counted main) { p with phase := φ }
    obtain ⟨x', hx', hmain, hrunning, hnote⟩ := h.filament hx hfits
      (hfilament.running.trans (by rw [hfilament.mainThread]; exact hn))
    refine ⟨x', hx', hmain.trans hfilament.mainThread, ?_, ?_⟩
    · rw [hrunning, hfilament.mainThread]
      exact hn'.symm
    · rcases hnote with ⟨hsame, hworst⟩ | ⟨o, hnone, hnew, hworst⟩
      · rw [outcomes_set hi hsame, hworst]
        exact hfilament.worst
      · rw [outcomes_set_note hi hnone hnew, hworst]
        rw [worst_eq_max, max_comm]
        exact hfilament.worst.insert o
  · -- the calling thread
    cases i with
    | zero =>
      obtain rfl := Option.some.inj (hp₀.symm.trans hi)
      exact ⟨_, Places.getElem?_set_self hi _, hs.caller_goes hi hcaller h⟩
    | succ i =>
      exact ⟨p₀, (Places.getElem?_set_of_ne (Nat.succ_ne_zero i) _).trans hp₀,
        hcaller.of_left hi h.not_finished rfl⟩
  · -- the children
    intro j q hq
    rcases Places.getElem?_set_eq_some hq with ⟨rfl, rfl⟩ | ⟨-, hq⟩
    · obtain ⟨hne, hrole⟩ := hs.children j p hi
      exact ⟨hne, h.ofCaller hrole⟩
    · exact hs.children j q hq
  · have hthreads : (s.workers.set i { p with phase := φ }).map Worker.thread
        = s.workers.map Worker.thread := Places.map_set_eq hi rfl
    exact hthreads ▸ hs.distinct
  · rw [h.threads_eq]
    exact hs.mainKnown
  · intro q hq
    rw [h.threads_eq]
    rcases List.mem_or_eq_of_mem_set hq with hq | rfl
    · exact hs.known q hq
    · exact hs.known p hmem
  · intro q hq
    obtain ⟨j, hj⟩ := List.getElem?_of_mem hq
    rcases Places.getElem?_set_eq_some hj with ⟨rfl, rfl⟩ | ⟨hij, hj⟩
    · exact h.fits hfits
    · have hne := (hs.thread_ne hi hj hij).symm
      have hfitsq := hs.fits q (List.mem_of_getElem? hj)
      exact ⟨fun hsits => h.seats hx hfits hne (hfitsq.seat hsits), hfitsq.binding⟩
  · intro j q hq hsilent
    rcases Places.getElem?_set_eq_some hq with ⟨rfl, rfl⟩ | ⟨-, hq⟩
    · obtain ⟨r, hr, hawaits⟩ :=
        hs.awaited_set hi h.ne_awaits { p with phase := φ } hi (h.arrived hsilent)
      exact ⟨r, hr, hawaits⟩
    · exact hs.awaited_set hi h.ne_awaits _ hq hsilent

/-- A worker comes to another phase, and the filament does not see it. -/
lemma Sound.relabel (hs : Sound reg f limit main before s) {t : ThreadId} {φ' : Phase}
    (hi : s.workers[i]? = some ⟨t, φ⟩) (hworkers : s'.workers = s.workers.set i ⟨t, φ'⟩)
    (hroster : s'.world.roster = s.world.roster) (hthreads : s'.world.threads = s.world.threads)
    (hcounts : φ'.counts = φ.counts) (hnote : φ'.note? = φ.note?)
    (hsits : φ'.sits = true → φ.sits = true) (hbinding : ∀ b e, φ' ≠ .unbound b e)
    (hcaller : i = 0 → SoundCaller limit before s φ → SoundCaller limit before s' φ')
    (hchild : i ≠ 0 → φ.finished = false ∧ φ'.ofCaller = false ∧ s'.told = s.told)
    (hawaited : ∀ j q, s'.workers[j + 1]? = some q → q.phase.arrived = false →
      ∃ r ∈ s'.workers, r.phase = .awaits q.thread) :
    Sound reg f limit main before s' := by
  obtain ⟨x, hx, hfilament⟩ := hs.filament
  obtain ⟨p₀, hp₀, hp₀caller⟩ := hs.caller
  have hmem := List.mem_of_getElem? hi
  -- whoever stands in the list afterwards stood there before, or is the one that changed
  have hold {q : Worker} (hq : q ∈ s'.workers) : q ∈ s.workers ∨ q = ⟨t, φ'⟩ :=
    List.mem_or_eq_of_mem_set (hworkers ▸ hq)
  constructor
  · refine ⟨x, hroster ▸ hx, hfilament.mainThread, ?_, ?_⟩
    · obtain ⟨n, hn, hn'⟩ := Places.countP_set_eq hi (·.counted main) ⟨t, φ'⟩
      rw [hfilament.running, hn, hworkers, hn', Worker.counted, Worker.counted, hcounts]
    · rw [hworkers, outcomes_set hi hnote]
      exact hfilament.worst
  · cases i with
    | zero =>
      obtain rfl := Option.some.inj (hp₀.symm.trans hi)
      exact ⟨_, hworkers ▸ Places.getElem?_set_self hi _, hcaller rfl hp₀caller⟩
    | succ i =>
      obtain ⟨hleft, -, htold⟩ := hchild (Nat.succ_ne_zero i)
      refine ⟨p₀, ?_, hp₀caller.of_left hi hleft htold⟩
      rw [hworkers, Places.getElem?_set_of_ne (Nat.succ_ne_zero i)]
      exact hp₀
  · intro j q hq
    rw [hworkers] at hq
    rcases Places.getElem?_set_eq_some hq with ⟨rfl, rfl⟩ | ⟨-, hq⟩
    · exact ⟨(hs.children j _ hi).1, (hchild (Nat.succ_ne_zero j)).2.1⟩
    · exact hs.children j q hq
  · rw [hworkers, Places.map_set_eq (b := ⟨t, φ'⟩) hi rfl]
    exact hs.distinct
  · rw [hthreads]
    exact hs.mainKnown
  · intro q hq
    rw [hthreads]
    rcases hold hq with hq | rfl
    · exact hs.known q hq
    · exact hs.known ⟨t, φ⟩ hmem
  · intro q hq
    refine .of_roster hroster ?_
    rcases hold hq with hq | rfl
    · exact hs.fits q hq
    · exact ⟨fun h => (hs.fits _ hmem).seat (hsits h), fun b e h => absurd h (hbinding b e)⟩
  · exact hawaited

/-- The call reports that it gave up waiting. -/
lemma Sound.reports (hs : Sound reg f limit main before s) {t : ThreadId} {e : Exit}
    (hi : s.workers[0]? = some ⟨t, .overdue e⟩) (o : ObserverId) (identity : Identity) :
    Sound reg f limit main before { s with
      world := (World.report o identity (lateNote limit) s.world).2
      workers := s.workers.set 0 ⟨t, .reported e⟩
      told := s.told ++ [lateNote limit] } := by
  refine hs.relabel hi rfl rfl rfl rfl rfl id (fun _ _ h => nomatch h) (fun _ hcaller => ?_)
    (fun h => absurd rfl h) fun j q hq hsilent => ?_
  · have hnone : s.told = [] := hcaller.told
    refine ⟨rfl, ?_, fun _ _ _ h => (nomatch h), fun h => (nomatch h), fun h => (nomatch h)⟩
    rw [hnone]
    rfl
  · have hq' : s.workers[j + 1]? = some q :=
      (Places.getElem?_set_of_ne (Nat.succ_ne_zero j).symm _).symm.trans hq
    exact hs.awaited_set hi (fun u h => nomatch h) _ hq' hsilent

/-- A worker hears what became of the thread that it started. -/
lemma Sound.hears (hs : Sound reg f limit main before s) {t u : ThreadId}
    (hi : s.workers[i]? = some ⟨t, .awaits u⟩) (hj : s.workers[j]? = some ⟨u, φ⟩)
    (harrived : φ.arrived = true) :
    Sound reg f limit main before { s with workers := s.workers.set i ⟨t, .runs⟩ } := by
  refine hs.relabel hi rfl rfl rfl rfl rfl id (fun _ _ h => nomatch h) (fun _ hcaller => ?_)
    (fun _ => ⟨rfl, rfl, rfl⟩) fun k q hq hsilent => ?_
  · exact ⟨rfl, hcaller.told, fun _ _ _ h => (nomatch h), fun h => (nomatch h),
      fun h => (nomatch h)⟩
  · rcases Places.getElem?_set_eq_some hq with ⟨-, rfl⟩ | ⟨-, hq⟩
    · cases hsilent
    · obtain ⟨r, hr, hawaits⟩ := hs.awaited k q hq hsilent
      rcases Places.mem_set_of_mem hi hr ⟨t, .runs⟩ with rfl | hr
      · -- the thread that was waited for has told by now
        have hthread : u = q.thread := Phase.awaits.inj hawaits
        by_cases hkj : k + 1 = j
        · obtain rfl := Option.some.inj ((hkj ▸ hq).symm.trans hj)
          rw [harrived] at hsilent
          cases hsilent
        · exact absurd hthread.symm (hs.thread_ne hq hj hkj)
      · exact ⟨r, hr, hawaits⟩

/-- A worker waits for a thread that does not exist yet. -/
lemma Sound.awaits (hs : Sound reg f limit main before s) {t : ThreadId} (u : ThreadId)
    (hi : s.workers[i]? = some ⟨t, .runs⟩) :
    Sound reg f limit main before { s with workers := s.workers.set i ⟨t, .awaits u⟩ } := by
  refine hs.relabel hi rfl rfl rfl rfl rfl id (fun _ _ h => nomatch h) (fun _ hcaller => ?_)
    (fun _ => ⟨rfl, rfl, rfl⟩) fun k q hq hsilent => ?_
  · exact ⟨rfl, hcaller.told, fun _ _ _ h => (nomatch h), fun h => (nomatch h),
      fun h => (nomatch h)⟩
  · rcases Places.getElem?_set_eq_some hq with ⟨-, rfl⟩ | ⟨-, hq⟩
    · cases hsilent
    · exact hs.awaited_set hi (fun u h => nomatch h) _ hq hsilent

/-- A call that found nobody left has no thread that waits for another. -/
lemma Sound.not_joinedAll (hs : Sound reg f limit main before s) (hp : s.workers[0]? = some p)
    {u : ThreadId} (hq : q ∈ s.workers) (hawaits : q.phase = .awaits u) :
    ¬ p.phase.joinedAll = true := by
  intro hjoined
  obtain ⟨p₀, hp₀, hcaller⟩ := hs.caller
  obtain rfl := Option.some.inj (hp₀.symm.trans hp)
  obtain ⟨j, hj⟩ := List.getElem?_of_mem hq
  cases j with
  | zero =>
    obtain rfl := Option.some.inj (hp.symm.trans hj)
    rw [hawaits] at hjoined
    cases hjoined
  | succ j =>
    have hleft := hcaller.joined hjoined j q hj
    rw [hawaits] at hleft
    cases hleft

/-- A thread comes into being that somebody waits for. -/
lemma Sound.comes (hs : Sound reg f limit main before s) {u : ThreadId}
    (hawaits : ∃ q ∈ s.workers, q.phase = .awaits u) (h : World.newThread s.world = (.ok u, w)) :
    Sound reg f limit main before { s with world := w, workers := s.workers ++ [⟨u, .outside⟩] } := by
  obtain ⟨x, hx, hfilament⟩ := hs.filament
  obtain ⟨p₀, hp₀, hcaller⟩ := hs.caller
  obtain ⟨r, hr, hwaits⟩ := hawaits
  obtain ⟨rfl, hsize, hroster⟩ := World.newThread_ok h
  have hsame : outcomes before (s.workers ++ [⟨s.world.threads.items.size, .outside⟩])
      = outcomes before s.workers := by
    ext o
    refine or_congr_right ⟨?_, fun ⟨q, hq, ho⟩ => ⟨q, List.mem_append_left _ hq, ho⟩⟩
    rintro ⟨q, hq, ho⟩
    rcases List.mem_append.mp hq with hq | hq
    · exact ⟨q, hq, ho⟩
    · cases List.mem_singleton.mp hq
      cases ho
  constructor
  · refine ⟨x, hroster ▸ hx, hfilament.mainThread, ?_, hsame ▸ hfilament.worst⟩
    rw [hfilament.running, List.countP_append]
    rfl
  · refine ⟨p₀, ?_, hcaller.exit, hcaller.told, hsame ▸ hcaller.verdict, fun hjoined => ?_,
      hcaller.untimed⟩
    · rw [List.getElem?_append_left (List.getElem?_eq_some_iff.mp hp₀).1]
      exact hp₀
    · exact absurd hjoined (hs.not_joinedAll hp₀ hr hwaits)
  · intro j q hq
    rcases Places.getElem?_append_singleton hq with hq | rfl
    · exact hs.children j q hq
    · exact ⟨Nat.ne_of_gt hs.mainKnown, rfl⟩
  · rw [List.map_append]
    refine List.nodup_append.mpr ⟨hs.distinct, List.nodup_singleton _, fun t ht u hu => ?_⟩
    obtain ⟨q, hq, rfl⟩ := List.mem_map.mp ht
    rw [List.mem_singleton.mp hu]
    exact Nat.ne_of_lt (hs.known q hq)
  · rw [hsize]
    exact Nat.lt_succ_of_lt hs.mainKnown
  · intro q hq
    rw [hsize]
    rcases List.mem_append.mp hq with hq | hq
    · exact Nat.lt_succ_of_lt (hs.known q hq)
    · rw [List.mem_singleton.mp hq]
      exact Nat.lt_succ_self _
  · intro q hq
    rcases List.mem_append.mp hq with hq | hq
    · exact .of_roster hroster (hs.fits q hq)
    · rw [List.mem_singleton.mp hq]
      exact ⟨fun h => (nomatch h), fun _ _ h => (nomatch h)⟩
  · intro j q hq hsilent
    rcases Places.getElem?_append_singleton hq with hq | rfl
    · obtain ⟨r, hr, hwaits⟩ := hs.awaited j q hq hsilent
      exact ⟨r, List.mem_append_left _ hr, hwaits⟩
    · exact ⟨r, List.mem_append_left _ hr, hwaits⟩

/-- A worker starts another. -/
lemma Sound.starts (hs : Sound reg f limit main before s) {t u : ThreadId}
    (hi : s.workers[i]? = some ⟨t, .runs⟩) (h : World.newThread s.world = (.ok u, w)) :
    Sound reg f limit main before
      { s with world := w, workers := s.workers.set i ⟨t, .awaits u⟩ ++ [⟨u, .outside⟩] } :=
  (hs.awaits u hi).comes ⟨⟨t, .awaits u⟩, Places.mem_set_self hi _, rfl⟩ h

/-- Somebody else does something. -/
lemma Sound.elsewhere (hs : Sound reg f limit main before s) (h : Spares reg f s.world w) :
    Sound reg f limit main before { s with world := w } := by
  obtain ⟨x, hx, hfilament⟩ := hs.filament
  obtain ⟨p₀, hp₀, hcaller⟩ := hs.caller
  obtain ⟨x', hx', hmain, hrunning, hworst⟩ := h.filament x hx
  exact {
    filament := ⟨x', hx', hmain.trans hfilament.mainThread, hrunning.trans hfilament.running,
      hworst ▸ hfilament.worst⟩
    caller := ⟨p₀, hp₀, hcaller.exit, hcaller.told, hcaller.verdict, hcaller.joined,
      hcaller.untimed⟩
    children := hs.children
    distinct := hs.distinct
    mainKnown := Nat.lt_of_lt_of_le hs.mainKnown h.threads
    known := fun p hp => Nat.lt_of_lt_of_le (hs.known p hp) h.threads
    fits := fun p hp => ⟨fun hsits => h.seats _ ((hs.fits p hp).seat hsits), (hs.fits p hp).binding⟩
    awaited := hs.awaited }

lemma Sound.opening (h : Opening f before s) :
    ∃ main, Sound reg f limit main before s := by
  obtain ⟨x, hx, hzero, hbefore, hmain⟩ := h.filament
  obtain ⟨t, hworkers, ht⟩ := h.caller
  have hcaller {p : Worker} (hp : p ∈ s.workers) : p = ⟨t, .outside⟩ :=
    List.mem_singleton.mp (hworkers ▸ hp)
  have hnobody {i : Nat} {p : Worker} : s.workers[i + 1]? ≠ some p := by
    rw [hworkers]
    exact fun h => nomatch h
  refine ⟨x.mainThread, ⟨x, hx, rfl, ?_, ?_⟩, ⟨⟨t, .outside⟩, ?_, rfl, h.told,
    fun _ _ _ h => (nomatch h), fun h => (nomatch h), fun h => (nomatch h)⟩,
    fun i p hp => absurd hp hnobody, ?_, hmain, fun p hp => ?_, fun p hp => ?_,
    fun i p hp => absurd hp hnobody⟩
  · rw [hzero, hworkers]
    rfl
  · refine ⟨.inl hbefore, ?_⟩
    rintro o (rfl | ⟨p, hp, ho⟩)
    · exact Nat.le_of_eq (congrArg Outcome.severity hbefore.symm)
    · rw [hcaller hp] at ho
      cases ho
  · rw [hworkers]
    rfl
  · rw [hworkers]
    exact List.nodup_singleton t
  · rw [hcaller hp]
    exact ht
  · rw [hcaller hp]
    exact ⟨fun h => (nomatch h), fun _ _ h => (nomatch h)⟩

/-- Whoever takes a step, all of it still holds. -/
lemma Sound.step (hs : Sound reg f limit main before s) (h : Step reg f limit s s') :
    Sound reg f limit main before s' := by
  cases h with
  | goes hi h => exact hs.goes hi h
  | reports hi hx => exact hs.reports hi _ _
  | starts hi h => exact hs.starts hi h
  | hears hi hj h => exact hs.hears hi hj h
  | elsewhere h => exact hs.elsewhere h

lemma Sound.runs (hs : Sound reg f limit main before s) (h : Runs reg f limit s s') :
    Sound reg f limit main before s' := by
  induction h with
  | refl => exact hs
  | tail _ hstep ih => exact ih.step hstep

end Testbench.Crew
