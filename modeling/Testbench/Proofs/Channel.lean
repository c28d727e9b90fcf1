import Testbench.Proofs.Remote.Wire

/-!
# The accounts of a channel

A channel is asked to take events, with an answer or without, and to give out what it holds, in any
order.  Beside it stands a ledger of the events since it last gave out something: an event is entered
as accepted if its whole record is no longer than the room that the accepted records leave, and as
rejected otherwise, so that a smaller one may be accepted again later.  A channel agrees with its
ledger at all times, and what it gives out is read back as the accepted events, back to back.
-/

namespace Testbench.Channel

open Record (encode Keeps Placed)

/-- What a channel is asked. -/
inductive Deed
  /-- To take an event and to answer it. -/
  | reports (e : Event)
  /-- To append an event. -/
  | queues (e : Event)
  /-- To give out its events. -/
  | takes
deriving DecidableEq, Repr

/-- The channel after a deed. -/
def doing (c : Channel) : Deed → Channel
  | .reports e => (c.report e).2
  | .queues e => (c.queue e).2
  | .takes => c.take.2

/-- The channel after some deeds. -/
def after (c : Channel) (deeds : List Deed) : Channel := deeds.foldl doing c

/-! ### Ledgers -/

/-- The events since the last ones were given out. -/
structure Ledger where
  /-- Those whose records fitted, in order. -/
  accepted : List Event := []
  /-- The others, in order. -/
  rejected : List Event := []

namespace Ledger

/-- The bytes of the accepted records. -/
def held (l : Ledger) : Nat := (l.accepted.flatMap encode).length

/-- Enters an event, as accepted if there is room for its whole record. -/
def enter (l : Ledger) (capacity : Nat) (e : Event) : Ledger :=
  if (encode e).length ≤ capacity - l.held then { l with accepted := l.accepted ++ [e] }
  else { l with rejected := l.rejected ++ [e] }

/-- The ledger after a deed: what is given out is crossed off. -/
def doing (capacity : Nat) (l : Ledger) : Deed → Ledger
  | .reports e | .queues e => l.enter capacity e
  | .takes => {}

/-- The ledger after some deeds. -/
def after (l : Ledger) (capacity : Nat) (deeds : List Deed) : Ledger := deeds.foldl (doing capacity) l

lemma held_append (l : Ledger) (e : Event) :
    ({ l with accepted := l.accepted ++ [e] } : Ledger).held = l.held + (encode e).length := by
  simp only [held, List.flatMap_append, List.length_append, List.flatMap_singleton]

end Ledger

/-! ### Agreement -/

/-- A channel holds the records of what its ledger has as accepted. -/
structure Agrees (d : Dispositions) (capacity : Nat) (c : Channel) (l : Ledger) : Prop where
  dispositions_eq : c.dispositions = d
  capacity_eq : c.buffer.capacity = capacity
  bytes_eq : c.buffer.bytes = l.accepted.flatMap encode
  held_le : l.held ≤ capacity
  count_eq : c.buffer.count = UInt32.ofNat l.accepted.length
  truncated_eq : c.buffer.truncated = !l.rejected.isEmpty

namespace Agrees

variable {d : Dispositions} {capacity : Nat} {c : Channel} {l : Ledger}

lemma make : Agrees d capacity (make d capacity) {} where
  dispositions_eq := rfl
  capacity_eq := rfl
  bytes_eq := rfl
  held_le := Nat.zero_le _
  count_eq := rfl
  truncated_eq := rfl

lemma size_eq (h : Agrees d capacity c l) : c.buffer.data.size = l.held := by
  rw [Ledger.held, ← h.bytes_eq, EventBuffer.bytes, Array.length_toList]

/-- An event that fits is appended, and entered as accepted. -/
lemma queue_of_le (h : Agrees d capacity c l) {e : Event}
    (he : (encode e).length ≤ capacity - l.held) :
    (c.queue e).1 = true ∧
      Agrees d capacity (c.queue e).2 { l with accepted := l.accepted ++ [e] } := by
  have hqueue : c.buffer.queue e = (true, { c.buffer with
      data := c.buffer.data ++ encode e, count := c.buffer.count + 1 }) := by
    rw [EventBuffer.queue, if_neg]
    rw [h.capacity_eq, h.size_eq]
    omega
  rw [Channel.queue, hqueue]
  refine ⟨rfl, {
    dispositions_eq := h.dispositions_eq
    capacity_eq := h.capacity_eq
    bytes_eq := ?_
    held_le := ?_
    count_eq := ?_
    truncated_eq := h.truncated_eq }⟩
  · have hbytes := h.bytes_eq
    rw [EventBuffer.bytes] at hbytes ⊢
    rw [Array.toList_appendList, hbytes, List.flatMap_append, List.flatMap_singleton]
  · have hheld_le := h.held_le
    rw [Ledger.held_append]
    omega
  · show c.buffer.count + 1 = UInt32.ofNat (l.accepted ++ [e]).length
    rw [h.count_eq, List.length_append, UInt32.ofNat_add]
    rfl

/-- An event that does not fit is entered as rejected, and the channel remembers that much. -/
lemma queue_of_lt (h : Agrees d capacity c l) {e : Event}
    (he : ¬ (encode e).length ≤ capacity - l.held) :
    (c.queue e).1 = false ∧
      Agrees d capacity (c.queue e).2 { l with rejected := l.rejected ++ [e] } := by
  have hqueue : c.buffer.queue e = (false, { c.buffer with truncated := true }) := by
    rw [EventBuffer.queue, if_pos]
    rw [h.capacity_eq, h.size_eq]
    omega
  rw [Channel.queue, hqueue]
  refine ⟨rfl, {
    dispositions_eq := h.dispositions_eq
    capacity_eq := h.capacity_eq
    bytes_eq := h.bytes_eq
    held_le := h.held_le
    count_eq := h.count_eq
    truncated_eq := ?_ }⟩
  have hne : l.rejected ++ [e] ≠ [] := List.append_ne_nil_of_right_ne_nil _ (List.cons_ne_nil _ _)
  show true = !(l.rejected ++ [e]).isEmpty
  rw [List.isEmpty_eq_false_iff.mpr hne, Bool.not_false]

lemma queue (h : Agrees d capacity c l) (e : Event) :
    Agrees d capacity (c.queue e).2 (l.enter capacity e) := by
  rw [Ledger.enter]
  split
  · next he => exact (h.queue_of_le he).2
  · next he => exact (h.queue_of_lt he).2

lemma take (h : Agrees d capacity c l) : c.take.2 = Channel.make d capacity := by
  rw [Channel.take, Channel.make, ← h.dispositions_eq, ← h.capacity_eq]

lemma doing (h : Agrees d capacity c l) (deed : Deed) :
    Agrees d capacity (c.doing deed) (l.doing capacity deed) := by
  cases deed with
  | reports e => exact h.queue e
  | queues e => exact h.queue e
  | takes =>
    rw [Channel.doing, h.take]
    exact make

/-- However the deeds follow each other, the channel agrees with its ledger. -/
lemma after (h : Agrees d capacity c l) (deeds : List Deed) :
    Agrees d capacity (c.after deeds) (l.after capacity deeds) := by
  induction deeds generalizing c l with
  | nil => exact h
  | cons deed deeds ih => exact ih (h.doing deed)

end Agrees

/-! ### What comes out -/

/-- Records lie back to back from one position to another. -/
def Abut (start stop : Nat) : List Placed → Prop
  | [] => start = stop
  | r :: rs => r.offset = start ∧ Abut (start + r.size) stop rs

lemma abut_placed (start : Nat) (es : List Event) :
    Abut start (start + (es.flatMap encode).length) (Record.placed start es) := by
  induction es generalizing start with
  | nil => exact rfl
  | cons e es ih =>
    have hrest := ih (start + (encode e).length)
    rw [Nat.add_assoc] at hrest
    rw [List.flatMap_cons, List.length_append]
    exact ⟨rfl, hrest⟩

lemma forall₂_placed (start : Nat) (es : List Event) :
    List.Forall₂ (fun e r => Keeps e r.event ∧ r.size = (encode e).length) es
      (Record.placed start es) := by
  induction es generalizing start with
  | nil => exact .nil
  | cons e es ih => exact .cons ⟨Record.keeps_kept e, rfl⟩ (ih _)

/-- How a channel answers, whatever it holds. -/
structure Answers (d : Dispositions) (capacity : Nat) (c : Channel) : Prop where
  /-- An event is appended just if its whole record fits. -/
  fits : ∀ e, (c.queue e).1 = true ↔ (encode e).length ≤ capacity - c.buffer.data.size
  /-- An event that is answered is appended like any other. -/
  alike : ∀ e, (c.report e).2 = (c.queue e).2
  /-- The answer depends on the kind only. -/
  disposition : ∀ e, (c.report e).1 = d.answer e.kind

/-- What a buffer holds that is given out when the ledger is `l`. -/
structure Sums (capacity : Nat) (l : Ledger) (b : EventBuffer) : Prop where
  capacity_eq : b.capacity = capacity
  size_le : b.data.size ≤ capacity
  bytes_eq : b.bytes = l.accepted.flatMap encode
  count_eq : b.count.toNat = l.accepted.length
  truncated_iff : b.truncated = true ↔ l.rejected ≠ []
  /-- Its reader finds what records keep of the accepted events, up to its very end. -/
  read : ∃ rs, Record.readAll b.bytes = ⟨rs, none⟩ ∧
    List.Forall₂ (fun e r => Keeps e r.event ∧ r.size = (encode e).length) l.accepted rs ∧
    Abut 0 b.data.size rs

namespace Agrees

variable {d : Dispositions} {capacity : Nat} {c : Channel} {l : Ledger}

lemma answers (h : Agrees d capacity c l) : Answers d capacity c where
  fits e := by
    rw [h.size_eq]
    by_cases he : (encode e).length ≤ capacity - l.held
    · exact iff_of_true (h.queue_of_le he).1 he
    · refine iff_of_false ?_ he
      rw [(h.queue_of_lt he).1]
      exact Bool.false_ne_true
  alike _ := rfl
  disposition e := by rw [← h.dispositions_eq]; rfl

lemma sums (h : Agrees d capacity c l) (hfew : l.accepted.length < UInt32.size) :
    Sums capacity l c.take.1 where
  capacity_eq := h.capacity_eq
  size_le := Nat.le_trans (Nat.le_of_eq h.size_eq) h.held_le
  bytes_eq := h.bytes_eq
  count_eq := by
    show c.buffer.count.toNat = _
    rw [h.count_eq, toNat_ofNat32 hfew]
  truncated_iff := by
    show c.buffer.truncated = true ↔ _
    rw [h.truncated_eq, Bool.not_eq_true', List.isEmpty_eq_false_iff]
  read := by
    have hread := Record.readAll_flatMap l.accepted
    have habut := abut_placed 0 l.accepted
    rw [Nat.zero_add] at habut
    show ∃ rs, Record.readAll c.buffer.bytes = ⟨rs, none⟩ ∧ _ ∧ Abut 0 c.buffer.data.size rs
    rw [h.bytes_eq, h.size_eq]
    exact ⟨_, hread, forall₂_placed 0 l.accepted, habut⟩

end Agrees

/-- Whatever a channel was asked, it takes an event just if the record fits into the room that is
left, answers by the kind of the event alone, and gives out exactly the events that were accepted
since it last did, as the ledger has them.  It is empty after that. -/
theorem after_sums (d : Dispositions) (capacity : Nat) (deeds : List Deed)
    (hfew : (({} : Ledger).after capacity deeds).accepted.length < UInt32.size) :
    Answers d capacity ((make d capacity).after deeds) ∧
    Sums capacity (({} : Ledger).after capacity deeds) ((make d capacity).after deeds).take.1 ∧
    ((make d capacity).after deeds).take.2 = make d capacity := by
  have h : Agrees d capacity ((make d capacity).after deeds) (({} : Ledger).after capacity deeds) :=
    Agrees.make.after deeds
  exact ⟨h.answers, h.sums hfew, h.take⟩

/-- After a small message there is no room for an assertion, but for another message there is. -/
def messages : List Deed :=
  [.queues (.note ""), .takes, .reports (.note ""),
    .reports ⟨.failedAssertion "" "" 0 "", none⟩, .queues (.note "")]

theorem after_sums_messages :
    ({} : Ledger).after 70 messages
      = ⟨[.note "", .note ""], [⟨.failedAssertion "" "" 0 "", none⟩]⟩ ∧
    Answers ⟨.abort, .breakIn⟩ 70 ((make ⟨.abort, .breakIn⟩ 70).after messages) ∧
    Sums 70 ⟨[.note "", .note ""], [⟨.failedAssertion "" "" 0 "", none⟩]⟩
      ((make ⟨.abort, .breakIn⟩ 70).after messages).take.1 ∧
    ((make ⟨.abort, .breakIn⟩ 70).after messages).take.2 = make ⟨.abort, .breakIn⟩ 70 := by
  have hledger : ({} : Ledger).after 70 messages
      = ⟨[.note "", .note ""], [⟨.failedAssertion "" "" 0 "", none⟩]⟩ := rfl
  have h := after_sums ⟨.abort, .breakIn⟩ 70 messages (by rw [hledger]; decide)
  rw [hledger] at h
  exact ⟨hledger, h⟩

end Testbench.Channel
