import Testbench.Proofs.Guests.Threads

/-!
# Guests in any order

Test code is made of reports and of threads.  The threads that it starts may wait, run and end in
any order, and while one of them runs others may run to their end: a scheduler is free to choose.
In the end none of them is left, and nothing was done but to move guests.
-/

namespace Testbench.Guests

open World

variable {ρ ε α β : Type} {reg : RegistryId} {base : List Binding} {d : Option FilamentId}
  {w w' : World ρ ε} {p q : ThreadId → Stage}

/-! ### Schedules -/

/-- Threads that were started, each with its stage until it runs. -/
abbrev Waiting : Type := List (ThreadId × Stage)

namespace Waiting

/-- The stages once the threads that wait have run to their end. -/
def closed (p : ThreadId → Stage) (l : Waiting) (t : ThreadId) : Stage :=
  if t ∈ l.map Prod.fst then .away else p t

/-- The threads that wait are guests, each of them one. -/
structure Fits (p : ThreadId → Stage) (l : Waiting) : Prop where
  distinct : (l.map Prod.fst).Nodup
  stage_eq : ∀ e ∈ l, p e.1 = e.2
  guest : ∀ e ∈ l, e.2 ≠ .away

variable {l l' inner rest : Waiting} {t : ThreadId} {x : Stage}

lemma fits_nil (p : ThreadId → Stage) : Fits p [] :=
  ⟨List.nodup_nil, fun _ h => absurd h List.not_mem_nil, fun _ h => absurd h List.not_mem_nil⟩

@[simp] lemma closed_nil (p : ThreadId → Stage) : closed p [] = p := by
  ext t
  simp [closed]

lemma closed_append (p : ThreadId → Stage) (l l' : Waiting) :
    closed (closed p l) l' = closed p (l ++ l') := by
  ext t
  by_cases h : t ∈ l.map Prod.fst <;> by_cases h' : t ∈ l'.map Prod.fst <;>
    simp [closed, h, h']

lemma closed_perm (h : l.Perm l') (p : ThreadId → Stage) : closed p l = closed p l' := by
  ext t
  have hmem := (h.map Prod.fst).mem_iff (a := t)
  simp only [closed, hmem]

lemma closed_cons (p : ThreadId → Stage) (l : Waiting) (t : ThreadId) (x : Stage) :
    Function.update (closed p l) t .away = closed p ((t, x) :: l) := by
  ext u
  by_cases h : u = t
  · simp [closed, h]
  · simp only [closed, List.map_cons, List.mem_cons, h, false_or, Function.update_of_ne, ne_eq,
      not_false_eq_true]

/-- Of a thread that just came, nothing is left when it is gone. -/
lemma closed_update (ht : p t = .away) (l : Waiting) :
    closed (Function.update p t x) ((t, x) :: l) = closed p l := by
  ext u
  by_cases h : u = t
  · simp [closed, h, ht]
  · simp only [closed, List.map_cons, List.mem_cons, h, false_or, Function.update_of_ne, ne_eq,
      not_false_eq_true]

lemma Fits.perm (h : Fits p l) (hperm : l.Perm l') : Fits p l' where
  distinct := (hperm.map _).nodup_iff.mp h.distinct
  stage_eq e he := h.stage_eq e (hperm.mem_iff.mpr he)
  guest e he := h.guest e (hperm.mem_iff.mpr he)

lemma Fits.left (h : Fits p (inner ++ rest)) : Fits p inner where
  distinct := (List.nodup_append.mp (List.map_append ▸ h.distinct)).1
  stage_eq e he := h.stage_eq e (List.mem_append_left _ he)
  guest e he := h.guest e (List.mem_append_left _ he)

/-- Those who still wait when others are gone. -/
lemma Fits.right (h : Fits p (inner ++ rest)) : Fits (closed p inner) rest := by
  have hnodup := List.nodup_append.mp (List.map_append ▸ h.distinct)
  refine ⟨hnodup.2.1, fun e he => ?_, fun e he => h.guest e (List.mem_append_right _ he)⟩
  have hnot : e.1 ∉ inner.map Prod.fst := fun hmem =>
    hnodup.2.2 e.1 hmem e.1 (List.mem_map_of_mem he) rfl
  rw [closed, if_neg hnot]
  exact h.stage_eq e (List.mem_append_right _ he)

/-- Who waits is waiting still when others are gone. -/
lemma Fits.head (h : Fits p ((t, x) :: l)) : p t = x ∧ closed p l t = x ∧ Fits p l := by
  have ht := h.stage_eq _ List.mem_cons_self
  have hnodup := List.nodup_cons.mp h.distinct
  refine ⟨ht, ?_, hnodup.2, fun e he => ?_, fun e he => ?_⟩
  · rw [closed, if_neg hnodup.1]
    exact ht
  · exact h.stage_eq e (List.mem_cons_of_mem _ he)
  · exact h.guest e (List.mem_cons_of_mem _ he)

lemma Fits.cons (h : Fits p l) (ht : p t = .away) (hx : x ≠ .away) :
    Fits (Function.update p t x) ((t, x) :: l) := by
  have hne (e : ThreadId × Stage) (he : e ∈ l) : e.1 ≠ t := fun heq =>
    h.guest e he (by rw [← h.stage_eq e he, heq, ht])
  refine ⟨List.nodup_cons.mpr ⟨fun hmem => ?_, h.distinct⟩, ?_, ?_⟩
  · obtain ⟨e, he, heq⟩ := List.mem_map.mp hmem
    exact hne e he heq
  · intro e he
    rcases List.mem_cons.mp he with rfl | he
    · exact Function.update_self ..
    · rw [Function.update_of_ne (hne e he)]
      exact h.stage_eq e he
  · intro e he
    rcases List.mem_cons.mp he with rfl | he
    · exact hx
    · exact h.guest e he

end Waiting

/-- What is done by somebody who brings all threads to their end that wait, those that it starts
included. -/
inductive Schedules (reg : RegistryId) : Waiting → {α : Type} → Act ρ ε α → Prop
  /-- Nobody waits. -/
  | plain {α : Type} {m : Act ρ ε α} (hm : Conducts reg m) : Schedules reg [] m
  /-- Something is done first, by which some of them come to their end. -/
  | first {α β : Type} {l inner rest : Waiting} {m : Act ρ ε β} {k : Except Payload β → Act ρ ε α}
      (hperm : l.Perm (inner ++ rest)) (hm : Schedules reg inner m)
      (hk : ∀ result, Schedules reg rest (k result)) : Schedules reg l (m.attempt >>= k)
  /-- A child is started, or refused. -/
  | starts {α : Type} {l : Waiting} {k : Except Child.SpawnError Child.Ticket → Act ρ ε α}
      (hrefused : ∀ why, Schedules reg l (k (.error why)))
      (hk : ∀ t f, Schedules reg ((t, .seated) :: l) (k (.ok ⟨t, reg, f⟩))) :
      Schedules reg l (Child.start reg >>= k)
  /-- A child runs to its end, and with it perhaps others. -/
  | finishes {α : Type} {l inner rest : Waiting} {t : ThreadId} {f : FilamentId}
      {body : Act ρ ε Unit} {k : Option Payload → Act ρ ε α}
      (hperm : l.Perm ((t, .seated) :: inner ++ rest)) (hbody : Schedules reg inner body)
      (hk : ∀ payload, Schedules reg rest (k payload)) :
      Schedules reg l (Child.finish ⟨t, reg, f⟩ body >>= k)
  /-- An anonymous thread is started. -/
  | comes {α : Type} {l : Waiting} {k : ThreadId → Act ρ ε α}
      (hk : ∀ t, Schedules reg ((t, .present) :: l) (k t)) : Schedules reg l (newThread >>= k)
  /-- An anonymous thread runs to its end, and with it perhaps others. -/
  | goes {α : Type} {l inner rest : Waiting} {t : ThreadId} {body : Act ρ ε Unit}
      {k : Option Payload → Act ρ ε α} (hperm : l.Perm ((t, .present) :: inner ++ rest))
      (hbody : Schedules reg inner body) (hk : ∀ payload, Schedules reg rest (k payload)) :
      Schedules reg l (Child.anonymous t body >>= k)

/-- What comes after guests were moved. -/
lemma Settles.after {m : Act ρ ε α} {p₁ : ThreadId → Stage} (hm : Settles reg m p₁ q)
    (hs : Keeps reg base d ⟨w, p⟩) (hruns : Runs reg ⟨w, p⟩ ⟨w', p₁⟩)
    (hcurrent : w'.current = w.current) (hplaced : Placed base ⟨w, p₁⟩)
    (hstays : Placed base ⟨w, q⟩) (hroom : (m w').1 ≠ .error .exhausted) :
    Runs reg ⟨w, p⟩ ⟨(m w').2, q⟩ ∧ (m w').2.current = w.current := by
  rw [Placed, ← hcurrent] at hplaced hstays
  obtain ⟨hruns', hcurrent'⟩ := hm base d w' (hs.runs hruns) hplaced hstays hroom
  exact ⟨hruns.trans hruns', hcurrent'.trans hcurrent⟩

/-- Who is in its place when all have come to their end was so when some had. -/
lemma Placed.of_closed {inner rest : Waiting}
    (h : Placed base ⟨w, Waiting.closed p (inner ++ rest)⟩) :
    Placed base ⟨w, Waiting.closed p inner⟩ := by
  refine h.imp_left fun hguest haway => hguest ?_
  rw [← Waiting.closed_append]
  dsimp only at haway ⊢
  rw [Waiting.closed, haway, ite_self]

/-- Somebody in its place stays there when others come. -/
lemma Placed.update (h : Placed base ⟨w, p⟩) {t : ThreadId} {x : Stage} (hx : x ≠ .away) :
    Placed base ⟨w, Function.update p t x⟩ := by
  refine h.imp_left fun hguest => ?_
  by_cases heq : w.current = t
  · simp [heq, hx]
  · simpa [Function.update_of_ne heq] using hguest

/-- In the end none of those that waited is left. -/
theorem Schedules.settles {l : Waiting} {m : Act ρ ε α} (h : Schedules reg l m) :
    ∀ p, Waiting.Fits p l → Settles reg m p (Waiting.closed p l) := by
  induction h with
  | plain hm =>
    intro p _
    rw [Waiting.closed_nil]
    exact hm p
  | @first _ _ l inner rest m k hperm _ _ ihm ihk =>
    intro p hfits base d w hs hplaced hstays hroom
    have hfits' := hfits.perm hperm
    rw [Waiting.closed_perm hperm] at hstays ⊢
    rcases hattempt : m.attempt w with ⟨e | result, w₁⟩
    · rw [Flow.bind_error hattempt, Flow.attempt_error hattempt] at hroom
      exact absurd rfl hroom
    · rw [Flow.bind_ok hattempt] at hroom ⊢
      obtain ⟨hruns, hcurrent⟩ :=
        (ihm p hfits'.left).of_attempt hs hplaced hstays.of_closed hattempt
      have hrest := ihk result _ hfits'.right
      rw [Waiting.closed_append] at hrest
      exact hrest.after hs hruns hcurrent hstays.of_closed hstays hroom
  | @starts _ l k _ _ ihrefused ihk =>
    intro p hfits base d w hs hplaced hstays hroom
    obtain ⟨answer, w₁, hstart, hcurrent, ⟨why, rfl, hruns⟩ | ⟨t, f, rfl, haway, hruns⟩⟩ :=
      start_runs hs
    · rw [Flow.bind_ok hstart] at hroom ⊢
      exact (ihrefused why p hfits).after hs hruns hcurrent hplaced hstays hroom
    · rw [Flow.bind_ok hstart] at hroom ⊢
      have hrest := ihk t f _ (hfits.cons haway (x := .seated) nofun)
      rw [Waiting.closed_update haway] at hrest
      exact hrest.after hs hruns hcurrent (hplaced.update nofun) hstays hroom
  | @finishes _ l inner rest t f body k hperm _ _ ihbody ihk =>
    intro p hfits base d w hs hplaced hstays hroom
    have hfits' := hfits.perm hperm
    obtain ⟨ht, hwaits, hinner⟩ := hfits'.left.head
    rw [Waiting.closed_perm hperm] at hstays ⊢
    have hroom' : (Child.finish ⟨t, reg, f⟩ body w).1 ≠ .error .exhausted := fun h => hroom (by
      rw [Flow.bind_error (Prod.ext h rfl)])
    obtain ⟨payload, w₁, hfinish, hcurrent, hruns⟩ :=
      finish_runs (ihbody p hinner) hs ht hwaits hroom'
    rw [Waiting.closed_cons (x := .seated)] at hruns
    rw [Flow.bind_ok hfinish] at hroom ⊢
    have hrest := ihk payload _ hfits'.right
    rw [Waiting.closed_append] at hrest
    exact hrest.after hs hruns hcurrent hstays.of_closed hstays hroom
  | @comes _ l k _ ihk =>
    intro p hfits base d w hs hplaced hstays hroom
    obtain ⟨t, w₁, hnew⟩ : ∃ t w₁, newThread w = (.ok t, w₁) := ⟨_, _, rfl⟩
    have haway : p t = .away := hs.away_of_newThread hnew
    have hruns : Runs reg ⟨w, p⟩ ⟨w₁, Function.update p t .present⟩ := .single (.comes hnew)
    have hcurrent : w₁.current = w.current := by
      cases hnew
      rfl
    rw [Flow.bind_ok hnew] at hroom ⊢
    have hrest := ihk t _ (hfits.cons haway (x := .present) nofun)
    rw [Waiting.closed_update haway] at hrest
    exact hrest.after hs hruns hcurrent (hplaced.update nofun) hstays hroom
  | @goes _ l inner rest t body k hperm _ _ ihbody ihk =>
    intro p hfits base d w hs hplaced hstays hroom
    have hfits' := hfits.perm hperm
    obtain ⟨ht, hwaits, hinner⟩ := hfits'.left.head
    rw [Waiting.closed_perm hperm] at hstays ⊢
    have hroom' : (Child.anonymous t body w).1 ≠ .error .exhausted := fun h => hroom (by
      rw [Flow.bind_error (Prod.ext h rfl)])
    obtain ⟨payload, w₁, hanonymous, hcurrent, hruns⟩ :=
      anonymous_runs (ihbody p hinner) hs ht hwaits hroom'
    rw [Waiting.closed_cons (x := .present)] at hruns
    rw [Flow.bind_ok hanonymous] at hroom ⊢
    have hrest := ihk payload _ hfits'.right
    rw [Waiting.closed_append] at hrest
    exact hrest.after hs hruns hcurrent hstays.of_closed hstays hroom

/-- Where nobody waits, guests come and go. -/
theorem Schedules.conducts {m : Act ρ ε α} (h : Schedules reg [] m) : Conducts reg m := fun p => by
  have hsettles := h.settles p (Waiting.fits_nil p)
  rwa [Waiting.closed_nil] at hsettles

end Testbench.Guests
