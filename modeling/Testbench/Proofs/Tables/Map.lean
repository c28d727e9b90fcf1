import Mathlib.Data.Finmap
import Testbench.Proofs.Tables

/-!
# Tables as finite maps

A table keeps its bindings in a list, and whatever is taken out disturbs the order of the others.
Nobody who asks a table can tell: to every sequence of requests it answers as a finite map from
threads to what they are bound to would answer, a map that has room for `maxThreads` threads.

What carries the proof is that a table `Shows` a map, that is, that its bindings are the entries of
the map.  Each request is answered alike and leaves a table that shows the map that is left.
-/

namespace Testbench

/-- What a thread is bound to. -/
structure Bond where
  filament : FilamentId
  /-- Whether a boundary waits for the thread to unwind. -/
  guarded : Bool
deriving DecidableEq

/-- What a binding binds its thread to. -/
def Binding.bond (b : Binding) : Bond := ⟨b.filament, b.guarded⟩

/-- The binding of a thread with this bond. -/
def Bond.binding (x : Bond) (thread : ThreadId) : Binding := ⟨thread, x.filament, x.guarded⟩

/-- A binding is its thread and its bond. -/
lemma Binding.eq_iff {b c : Binding} : c = b ↔ c.thread = b.thread ∧ c.bond = b.bond := by
  refine ⟨fun h => h ▸ ⟨rfl, rfl⟩, fun ⟨hthread, hbond⟩ => ?_⟩
  have hbinding : c.bond.binding c.thread = b.bond.binding b.thread := by rw [hthread, hbond]
  exact hbinding

lemma Bond.binding_injective :
    Function.Injective fun e : (_ : ThreadId) × Bond => e.2.binding e.1 := by
  rintro ⟨thread, x⟩ ⟨thread', y⟩ h
  obtain ⟨rfl, hbond⟩ := Binding.eq_iff.mp h
  exact congrArg (Sigma.mk thread) hbond

/-- What some threads are bound to. -/
abbrev Bonds : Type := Finmap fun _ : ThreadId => Bond

/-! ### The map -/

namespace Bonds

/-- Binds a thread, unless it is bound or there is no room. -/
def bind (m : Bonds) (b : Binding) : Except FilamentError Unit × Bonds :=
  if b.thread ∈ m then (.error .conflict, m)
  else if m.keys.card < ThreadTable.maxThreads then (.ok (), m.insert b.thread b.bond)
  else (.error (.tooManyThreads ThreadTable.maxThreads), m)

/-- Whether a thread is bound to a filament. -/
def isBoundTo (m : Bonds) (thread : ThreadId) (f : FilamentId) : Bool :=
  (m.lookup thread).any (·.filament = f)

/-- Unbinds a thread. -/
def unbind (m : Bonds) (thread : ThreadId) : Option Binding × Bonds :=
  ((m.lookup thread).map (·.binding thread), m.erase thread)

/-- Unbinds a thread if it is bound to a filament. -/
def unbindIf (m : Bonds) (thread : ThreadId) (f : FilamentId) : Option Binding × Bonds :=
  if m.isBoundTo thread f then m.unbind thread else (none, m)

/-- The bonds to other filaments than this one. -/
def without (m : Bonds) (f : FilamentId) : Bonds where
  entries := m.entries.filter (·.2.filament ≠ f)
  nodupKeys := Multiset.nodup_keys.mp <|
    Multiset.nodup_of_le (Multiset.map_le_map (Multiset.filter_le _ _))
      (Multiset.nodup_keys.mpr m.nodupKeys)

/-- Unbinds all threads of a filament. -/
def unbindFilament (m : Bonds) (f : FilamentId) : Multiset Binding × Bonds :=
  ((m.entries.filter (·.2.filament = f)).map fun e => e.2.binding e.1, m.without f)

lemma lookup_without_eq_some {m : Bonds} {f : FilamentId} {thread : ThreadId} {x : Bond} :
    (m.without f).lookup thread = some x ↔ m.lookup thread = some x ∧ x.filament ≠ f := by
  rw [Finmap.lookup_eq_some_iff, Finmap.lookup_eq_some_iff, without, Multiset.mem_filter]

end Bonds

/-! ### Requests -/

namespace ThreadTable

/-- Something that is asked of a table. -/
inductive Request
  /-- To take a binding in. -/
  | bind (b : Binding)
  /-- Which place a thread has. -/
  | lookup (thread : ThreadId)
  /-- Whether a thread is bound to a filament. -/
  | isBoundTo (thread : ThreadId) (f : FilamentId)
  /-- To take the binding of a thread out. -/
  | unbind (thread : ThreadId)
  /-- To do so if it is to a filament. -/
  | unbindIf (thread : ThreadId) (f : FilamentId)
  /-- To take all bindings to a filament out. -/
  | unbindFilament (f : FilamentId)
  /-- How many threads are bound. -/
  | size

/-- What a request is answered with. -/
inductive Answer
  /-- Whether the binding was taken in. -/
  | bound (result : Except FilamentError Unit)
  | place (m : Option Member)
  | truth (b : Bool)
  /-- The binding that was taken out, if any was. -/
  | taken (gone : Option Binding)
  /-- The bindings that were taken out, in no particular order. -/
  | swept (gone : Multiset Binding)
  | number (n : Nat)

/-- A table is asked something; the roster has the main threads of the filaments. -/
def ask (r : Roster) (t : ThreadTable) : Request → Answer × ThreadTable
  | .bind b => let (result, t) := t.bind b; (.bound result, t)
  | .lookup thread => (.place ((t.lookup? thread).map r.memberOf), t)
  | .isBoundTo thread f => (.truth (t.isBoundTo thread f), t)
  | .unbind thread => let (gone, t) := t.unbind thread; (.taken gone, t)
  | .unbindIf thread f => let (gone, t) := t.unbindIf thread f; (.taken gone, t)
  | .unbindFilament f => let (gone, t) := t.unbindFilament f; (.swept gone, t)
  | .size => (.number t.size, t)

end ThreadTable

/-- A map is asked the same. -/
def Bonds.ask (r : Roster) (m : Bonds) : ThreadTable.Request → ThreadTable.Answer × Bonds
  | .bind b => let (result, m) := m.bind b; (.bound result, m)
  | .lookup thread => (.place ((m.lookup thread).map fun x => r.memberOf (x.binding thread)), m)
  | .isBoundTo thread f => (.truth (m.isBoundTo thread f), m)
  | .unbind thread => let (gone, m) := m.unbind thread; (.taken gone, m)
  | .unbindIf thread f => let (gone, m) := m.unbindIf thread f; (.taken gone, m)
  | .unbindFilament f => let (gone, m) := m.unbindFilament f; (.swept gone, m)
  | .size => (.number m.keys.card, m)

namespace ThreadTable

/-- The answers to some requests, one after the other, and what is there afterwards. -/
def answering {σ : Type} (ask : σ → Request → Answer × σ) (s : σ) : List Request → List Answer × σ
  | [] => ([], s)
  | q :: rest =>
    let (a, s) := ask s q
    let (as, s) := answering ask s rest
    (a :: as, s)

lemma answering_concat {σ : Type} (ask : σ → Request → Answer × σ) (s : σ) (requests : List Request)
    (q : Request) : (answering ask s (requests ++ [q])).2
      = (ask (answering ask s requests).2 q).2 := by
  induction requests generalizing s with
  | nil => rfl
  | cons q' rest ih => exact ih _

/-- The table after some requests to an empty one. -/
def after (r : Roster) (requests : List Request) : ThreadTable := (answering (ask r) {} requests).2

/-- What is taken out is what would have been found. -/
lemma Fits.unbind_fst {t : ThreadTable} {thread : ThreadId} (h : t.Fits) :
    (t.unbind thread).1 = t.lookup? thread := by
  rcases hunbind : t.unbind thread with ⟨- | b, t'⟩
  · have hrest := h.unbind_perm_filter thread
    rw [hunbind, unbind_none hunbind] at hrest
    refine (lookup?_eq_none_iff.mpr fun b hb => ?_).symm
    simpa using (List.mem_filter.mp (hrest.mem_iff.mp hb)).2
  · obtain ⟨hb, hperm⟩ := unbind_some hunbind
    exact ((lookup?_eq_some_iff h).mpr ⟨hperm.mem_iff.mpr List.mem_cons_self, hb⟩).symm

/-! ### Tables that show maps -/

/-- The bindings of a table are the entries of a map. -/
structure Shows (t : ThreadTable) (m : Bonds) : Prop where
  fits : t.Fits
  mem_iff : ∀ b, b ∈ t.bindings ↔ m.lookup b.thread = some b.bond

namespace Shows

variable {t t' : ThreadTable} {m : Bonds} {thread : ThreadId} {f : FilamentId}

lemma empty : Shows {} ∅ where
  fits := fits_empty
  mem_iff b := by
    rw [Finmap.lookup_empty]
    exact iff_of_false List.not_mem_nil (Option.some_ne_none _).symm

/-- Tables that differ in the order only show the same map. -/
lemma of_perm (h : t.Shows m) (hperm : t.bindings.Perm t'.bindings) : t'.Shows m where
  fits := h.fits.of_sublist hperm.symm (.refl _)
  mem_iff b := hperm.mem_iff.symm.trans (h.mem_iff b)

/-- A thread is found just if it has an entry. -/
lemma lookup?_eq (h : t.Shows m) (thread : ThreadId) :
    t.lookup? thread = (m.lookup thread).map (·.binding thread) := by
  refine Option.ext fun b => ?_
  rw [lookup?_eq_some_iff h.fits, h.mem_iff, Option.map_eq_some_iff]
  constructor
  · rintro ⟨hb, rfl⟩
    exact ⟨b.bond, hb, rfl⟩
  · rintro ⟨x, hx, rfl⟩
    exact ⟨hx, rfl⟩

lemma mem_map_iff (h : t.Shows m) : thread ∈ t.bindings.map Binding.thread ↔ thread ∈ m := by
  rw [List.mem_map, ← Finmap.lookup_isSome, Option.isSome_iff_exists]
  constructor
  · rintro ⟨b, hb, rfl⟩
    exact ⟨b.bond, (h.mem_iff b).mp hb⟩
  · rintro ⟨x, hx⟩
    exact ⟨x.binding thread, (h.mem_iff _).mpr hx, rfl⟩

/-- There are as many threads in the table as the map has keys. -/
lemma card_keys (h : t.Shows m) : m.keys.card = t.bindings.length := by
  have hkeys : m.keys = (t.bindings.map Binding.thread).toFinset := by
    ext thread
    rw [Finmap.mem_keys, List.mem_toFinset, h.mem_map_iff]
  rw [hkeys, List.toFinset_card_of_nodup h.fits.distinct, List.length_map]

/-- A full table has exactly as many threads as there is room for. -/
lemma card_keys_le (h : t.Shows m) : m.keys.card ≤ maxThreads := h.card_keys ▸ h.fits.size_le

/-! ### Request by request -/

lemma isBoundTo_eq (h : t.Shows m) (thread : ThreadId) (f : FilamentId) :
    t.isBoundTo thread f = m.isBoundTo thread f := by
  rw [isBoundTo, Bonds.isBoundTo, h.lookup?_eq]
  cases m.lookup thread with
  | none => rfl
  | some x => rfl

lemma bind (h : t.Shows m) (b : Binding) :
    (t.bind b).1 = (m.bind b).1 ∧ (t.bind b).2.Shows (m.bind b).2 := by
  have hfits := h.fits.bind b
  rw [Bonds.bind, h.card_keys]
  rcases t.bind_cases b with ⟨hfree, hroom, hbind⟩ | ⟨hthere, hbind⟩ | ⟨hfree, hfull, hbind⟩ <;>
    rw [hbind] at hfits ⊢
  · have hnew : b.thread ∉ m := h.mem_map_iff.not.mp hfree
    rw [if_neg hnew, if_pos hroom]
    refine ⟨rfl, hfits, fun c => ?_⟩
    rw [List.mem_append, List.mem_singleton]
    by_cases hc : c.thread = b.thread
    · -- the thread had no binding before
      have hold : c ∉ t.bindings := by
        rw [h.mem_iff, hc, Finmap.lookup_eq_none.mpr hnew]
        exact (Option.some_ne_none _).symm
      rw [or_iff_right hold, hc, Finmap.lookup_insert, Option.some_inj, Binding.eq_iff,
        and_iff_right hc, eq_comm]
    · have hne : c ≠ b := fun heq => hc (congrArg Binding.thread heq)
      rw [Finmap.lookup_insert_of_ne _ hc, or_iff_left hne, h.mem_iff]
  · rw [if_pos (h.mem_map_iff.mp hthere)]
    exact ⟨rfl, h⟩
  · rw [if_neg (h.mem_map_iff.not.mp hfree), if_neg (Nat.not_lt.mpr hfull)]
    exact ⟨by rw [Nat.le_antisymm h.fits.size_le hfull], h⟩

lemma unbind (h : t.Shows m) (thread : ThreadId) :
    (t.unbind thread).1 = (m.unbind thread).1 ∧ (t.unbind thread).2.Shows (m.unbind thread).2 := by
  have hperm := h.fits.unbind_perm_filter thread
  refine ⟨h.fits.unbind_fst.trans (h.lookup?_eq thread),
    h.fits.of_sublist hperm List.filter_sublist, fun b => ?_⟩
  rw [hperm.mem_iff, List.mem_filter, h.mem_iff, decide_eq_true_iff, Bonds.unbind]
  by_cases hb : b.thread = thread
  · rw [hb, Finmap.lookup_erase]
    exact iff_of_false (fun hne => hne.2 rfl) (Option.some_ne_none _).symm
  · rw [Finmap.lookup_erase_ne hb, and_iff_left hb]

lemma unbindIf (h : t.Shows m) (thread : ThreadId) (f : FilamentId) :
    (t.unbindIf thread f).1 = (m.unbindIf thread f).1 ∧
      (t.unbindIf thread f).2.Shows (m.unbindIf thread f).2 := by
  rw [ThreadTable.unbindIf, Bonds.unbindIf, h.isBoundTo_eq]
  split
  · exact h.unbind thread
  · exact ⟨rfl, h⟩

lemma unbindFilament (h : t.Shows m) (f : FilamentId) :
    ((t.unbindFilament f).1 : Multiset Binding) = (m.unbindFilament f).1 ∧
      (t.unbindFilament f).2.Shows (m.unbindFilament f).2 := by
  constructor
  · -- neither side has anything twice, so that it is enough to compare what is in them
    have hleft : (t.bindings.filter (·.filament = f)).Nodup := h.fits.distinct.of_map.filter _
    have hright := (m.nodup_entries.filter (·.2.filament = f)).map Bond.binding_injective
    refine (Multiset.Nodup.ext (Multiset.coe_nodup.mpr hleft) hright).mpr fun b => ?_
    rw [Multiset.mem_coe, List.mem_filter, h.mem_iff, decide_eq_true_iff, Multiset.mem_map]
    constructor
    · rintro ⟨hb, hf⟩
      exact ⟨⟨b.thread, b.bond⟩, Multiset.mem_filter.mpr ⟨Finmap.lookup_eq_some_iff.mp hb, hf⟩, rfl⟩
    · rintro ⟨e, he, rfl⟩
      obtain ⟨hentry, hf⟩ := Multiset.mem_filter.mp he
      exact ⟨Finmap.lookup_eq_some_iff.mpr hentry, hf⟩
  · refine ⟨h.fits.of_sublist (.refl _) List.filter_sublist, fun b => ?_⟩
    rw [ThreadTable.unbindFilament, List.mem_filter, h.mem_iff, decide_eq_true_iff,
      Bonds.unbindFilament, Bonds.lookup_without_eq_some]
    rfl

/-- A table that shows a map answers as the map does, and shows the map that is left. -/
theorem ask (h : t.Shows m) (r : Roster) (q : Request) :
    (t.ask r q).1 = (m.ask r q).1 ∧ (t.ask r q).2.Shows (m.ask r q).2 := by
  cases q with
  | bind b => exact ⟨congrArg Answer.bound (h.bind b).1, (h.bind b).2⟩
  | lookup thread =>
    refine ⟨?_, h⟩
    simp only [ThreadTable.ask, Bonds.ask, h.lookup?_eq, Option.map_map, Function.comp_def]
  | isBoundTo thread f => exact ⟨congrArg Answer.truth (h.isBoundTo_eq thread f), h⟩
  | unbind thread => exact ⟨congrArg Answer.taken (h.unbind thread).1, (h.unbind thread).2⟩
  | unbindIf thread f =>
    exact ⟨congrArg Answer.taken (h.unbindIf thread f).1, (h.unbindIf thread f).2⟩
  | unbindFilament f =>
    exact ⟨congrArg Answer.swept (h.unbindFilament f).1, (h.unbindFilament f).2⟩
  | size => exact ⟨congrArg Answer.number h.card_keys.symm, h⟩

/-- So it is with many requests, one after the other. -/
theorem answering (h : t.Shows m) (r : Roster) (requests : List Request) :
    (answering (ThreadTable.ask r) t requests).1
        = (ThreadTable.answering (Bonds.ask r) m requests).1 ∧
      (ThreadTable.answering (ThreadTable.ask r) t requests).2.Shows
        (ThreadTable.answering (Bonds.ask r) m requests).2 := by
  induction requests generalizing t m with
  | nil => exact ⟨rfl, h⟩
  | cons q rest ih =>
    obtain ⟨hanswer, hleft⟩ := h.ask r q
    obtain ⟨hrest, hend⟩ := ih hleft
    exact ⟨congrArg₂ List.cons hanswer hrest, hend⟩

end Shows

/-! ### What was asked, and what is there -/

/-- The request takes this binding out of every table that has it. -/
def Request.Undoes (b : Binding) : Request → Prop
  | .unbind thread => b.thread = thread
  | .unbindIf thread f => b.thread = thread ∧ b.filament = f
  | .unbindFilament f => b.filament = f
  | .bind _ | .lookup _ | .isBoundTo .. | .size => False

/-- Among the requests to an empty table, one had this binding taken in, and none undid that. -/
def Stands (r : Roster) (requests : List Request) (b : Binding) : Prop :=
  ∃ earlier later, requests = earlier ++ .bind b :: later ∧
    ((after r earlier).bind b).1 = .ok () ∧ ∀ q ∈ later, ¬ q.Undoes b

variable {t : ThreadTable} {r : Roster} {requests : List Request} {q : Request} {b : Binding}

lemma mem_ask_iff (h : t.Fits) (r : Roster) (q : Request) (b : Binding) :
    b ∈ (t.ask r q).2.bindings ↔
      (q = .bind b ∧ (t.bind b).1 = .ok ()) ∨ (b ∈ t.bindings ∧ ¬ q.Undoes b) := by
  cases q with
  | bind c =>
    have hkept : ¬ (Request.bind c).Undoes b := id
    change b ∈ (t.bind c).2.bindings ↔ _
    rw [and_iff_left hkept]
    rcases t.bind_cases c with ⟨-, -, hbind⟩ | ⟨-, hbind⟩ | ⟨-, -, hbind⟩
    · have hc : b = c ↔ Request.bind c = .bind b ∧ (t.bind b).1 = .ok () := by
        refine ⟨fun hbc => ?_, fun hbc => (Request.bind.inj hbc.1).symm⟩
        subst hbc
        exact ⟨rfl, by rw [hbind]⟩
      rw [← hc, hbind, List.mem_append, List.mem_singleton, or_comm]
    all_goals
      have hc : ¬ (Request.bind c = .bind b ∧ (t.bind b).1 = .ok ()) := by
        rintro ⟨hbc, hok⟩
        rw [← Request.bind.inj hbc, hbind] at hok
        cases hok
      rw [or_iff_right hc, hbind]
  | lookup | isBoundTo | size => simp [ask, Request.Undoes]
  | unbind thread =>
    simp only [ask, (h.unbind_perm_filter thread).mem_iff, List.mem_filter]
    simp [Request.Undoes]
  | unbindIf thread f =>
    simp only [ask, (h.unbindIf_perm_filter thread f).mem_iff, List.mem_filter]
    simp [Request.Undoes, imp_iff_not_or]
  | unbindFilament f => simp [ask, ThreadTable.unbindFilament, Request.Undoes]

lemma stands_concat : Stands r (requests ++ [q]) b ↔
    (q = .bind b ∧ ((after r requests).bind b).1 = .ok ()) ∨
      (Stands r requests b ∧ ¬ q.Undoes b) := by
  constructor
  · rintro ⟨earlier, later, hrequests, hok, hlater⟩
    rcases later.eq_nil_or_concat with rfl | ⟨later, q', rfl⟩
    · obtain ⟨rfl, hq⟩ := List.append_inj' hrequests rfl
      exact .inl ⟨List.singleton_inj.mp hq, hok⟩
    · rw [List.concat_eq_append, ← List.cons_append, ← List.append_assoc] at hrequests
      obtain ⟨rfl, hq⟩ := List.append_inj' hrequests rfl
      obtain rfl := List.singleton_inj.mp hq
      simp only [List.concat_eq_append, List.forall_mem_append, List.forall_mem_singleton] at hlater
      exact .inr ⟨⟨earlier, later, rfl, hok, hlater.1⟩, hlater.2⟩
  · rintro (⟨rfl, hok⟩ | ⟨⟨earlier, later, rfl, hok, hlater⟩, hq⟩)
    · exact ⟨requests, [], rfl, hok, by simp⟩
    · refine ⟨earlier, later ++ [q], by simp, hok, ?_⟩
      exact List.forall_mem_append.mpr ⟨hlater, List.forall_mem_singleton.mpr hq⟩

/-- What is left in the table is what was taken in and not undone. -/
lemma mem_after_iff (r : Roster) (requests : List Request) (b : Binding) :
    b ∈ (after r requests).bindings ↔ Stands r requests b := by
  induction requests using List.reverseRecOn with
  | nil =>
    refine iff_of_false List.not_mem_nil ?_
    rintro ⟨earlier, later, hrequests, -⟩
    simp at hrequests
  | append_singleton requests q ih =>
    have hfits : (after r requests).Fits := (Shows.empty.answering r requests).2.fits
    rw [stands_concat, ← ih, ← mem_ask_iff hfits, after, answering_concat]
    rfl

/-- The map after some requests to an empty one. -/
def bondsAfter (r : Roster) (requests : List Request) : Bonds :=
  (answering (Bonds.ask r) ∅ requests).2

lemma shows_after (r : Roster) (requests : List Request) :
    (after r requests).Shows (bondsAfter r requests) := (Shows.empty.answering r requests).2

/-- After these requests to an empty table nobody can tell it from a map. -/
structure ActsAsMap (r : Roster) (requests : List Request) : Prop where
  /-- Every answer was the answer of the map. -/
  answers_eq : (answering (ask r) {} requests).1 = (answering (Bonds.ask r) ∅ requests).1
  /-- Keys are refused, whether there is room or not. -/
  conflict_iff : ∀ b, ((after r requests).bind b).1 = .error .conflict ↔
    b.thread ∈ bondsAfter r requests
  /-- Anything else is refused when there are 256 keys. -/
  full_iff : ∀ b, ((after r requests).bind b).1 = .error (.tooManyThreads 256) ↔
    b.thread ∉ bondsAfter r requests ∧ (bondsAfter r requests).keys.card = 256
  /-- What is refused changes nothing. -/
  refused : ∀ b why, ((after r requests).bind b).1 = .error why →
    ((after r requests).bind b).2 = after r requests
  /-- A thread is found in the place that its last bind gave it, unless that was undone. -/
  lookup_iff : ∀ thread place, ((after r requests).lookup? thread).map r.memberOf = some place ↔
    ∃ b, Stands r requests b ∧ b.thread = thread ∧ r.memberOf b = place
  /-- To sweep a filament removes its threads, and them only. -/
  lookup_swept : ∀ f thread, ((after r requests).unbindFilament f).2.lookup? thread =
    ((after r requests).lookup? thread).filter (·.filament ≠ f)
  /-- With its bindings in another order the table would answer the same from now on. -/
  order : ∀ t : ThreadTable, (after r requests).bindings.Perm t.bindings → ∀ further,
    (answering (ask r) t further).1 = (answering (ask r) (after r requests) further).1

/-- Whatever is asked of a table, one request after the other, it answers as a map with room for 256
threads would. -/
theorem acts_as_map (r : Roster) (requests : List Request) : ActsAsMap r requests := by
  have h := shows_after r requests
  have hfits := h.fits
  have hcard := h.card_keys
  have hroom := h.card_keys_le
  rw [maxThreads] at hroom
  refine ⟨(Shows.empty.answering r requests).1, fun b => ?_, fun b => ?_, fun b why hwhy => ?_,
    fun thread place => ?_, fun f thread => ?_, fun t hperm further => ?_⟩
  · rw [(h.bind b).1, Bonds.bind]
    split_ifs with hkey <;> simp [hkey]
  · rw [(h.bind b).1, Bonds.bind]
    split_ifs with hkey hless
    · simp [hkey]
    · rw [maxThreads] at hless
      simp [hless.ne]
    · rw [maxThreads] at hless
      have hfull : (bondsAfter r requests).keys.card = 256 := by omega
      simp [hkey, hfull, maxThreads]
  · rcases (after r requests).bind_cases b with ⟨-, -, hbind⟩ | ⟨-, hbind⟩ | ⟨-, -, hbind⟩ <;>
      rw [hbind] at hwhy ⊢
    cases hwhy
  · simp only [Option.map_eq_some_iff, lookup?_eq_some_iff hfits, mem_after_iff, and_assoc]
  · refine Option.ext fun b => ?_
    rw [lookup?_eq_some_iff (h.unbindFilament f).2.fits, ThreadTable.unbindFilament,
      List.mem_filter, Option.filter_eq_some_iff, lookup?_eq_some_iff hfits, and_right_comm]
  · rw [((h.of_perm hperm).answering r further).1, (h.answering r further).1]

end ThreadTable

end Testbench
