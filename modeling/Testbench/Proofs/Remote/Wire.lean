import Testbench.Driver.Control
import Testbench.Proofs.Record

/-!
# What crosses the border in a call

Requests and responses are read back as they were written.  The events of a call share a bounded
buffer: those that fit are kept in order, each as a record, and a client reads back what the records
keep of them.
-/

namespace Testbench

/-! ### Codes -/

lemma Disposition.ofCode?_code (d : Disposition) : Disposition.ofCode? d.code = .ok d := by
  cases d <;> rfl

lemma ControlCode.ofCode?_code (c : ControlCode) : ControlCode.ofCode? c.code = some c := by
  cases c <;> rfl

/-! ### Requests and responses -/

lemma CallRequest.ofBytes?_bytes (r : CallRequest) : CallRequest.ofBytes? r.bytes = some r := by
  have hlies := Lies.self r.bytes
  rw [CallRequest.bytes] at hlies
  have hvalue : word64 24 r.bytes.toArray = some r.value := hlies.right.word64_eq
  have huncaught : word32 16 r.bytes.toArray = some r.uncaughtException :=
    hlies.left.left.right.word32_eq
  have hfailed : word32 12 r.bytes.toArray = some r.failedAssertion :=
    hlies.left.left.left.right.word32_eq
  have hroutine : word16 10 r.bytes.toArray = some r.routine :=
    hlies.left.left.left.left.right.word16_eq
  have hfixture : word16 8 r.bytes.toArray = some r.fixture :=
    hlies.left.left.left.left.left.right.word16_eq
  have haddress : word64 0 r.bytes.toArray = some r.address :=
    hlies.left.left.left.left.left.left.word64_eq
  have htake : r.bytes.take 32 = r.bytes := rfl
  rw [CallRequest.ofBytes?, htake]
  simp only [haddress, hfixture, hroutine, hfailed, huncaught, hvalue]
  rfl

namespace CallResponse

@[simp] lemma length_bytes (r : CallResponse) : r.bytes.length = size := rfl

lemma bit_ne_zero (b : Bool) : (bit b != 0) = b := by cases b <;> rfl

lemma bit_and_one (b : Bool) : ((bit b).toUInt32 &&& 1 != 0) = b := by cases b <;> rfl

lemma ofBytes?_bytes (r : CallResponse) (rest : List UInt8) :
    ofBytes? (r.bytes ++ rest) = some r := by
  have hlies := Lies.self r.bytes
  rw [bytes] at hlies
  have hvalue : word64 16 r.bytes.toArray = some r.value := hlies.right.word64_eq
  have hflags : word32 8 r.bytes.toArray = some (bit r.truncated).toUInt32 :=
    hlies.left.left.right.word32_eq
  have hcount : word32 4 r.bytes.toArray = some r.eventCount := hlies.left.left.left.right.word32_eq
  have hcompleted : r.bytes.toArray[0]? = some (bit r.completed) := rfl
  have haborts : r.bytes.toArray[1]? = some (bit r.aborts) := rfl
  have htake : (r.bytes ++ rest).take size = r.bytes := rfl
  rw [ofBytes?, htake]
  simp only [hcompleted, haborts, hflags, hcount, hvalue, bit_ne_zero, bit_and_one, bind,
    Option.bind_some]
  rfl

end CallResponse

/-! ### Event buffers -/

namespace Record

/-- The events whose records fit into so many bytes, one after the other.  One that does not fit is
left out, and a later one may fit again. -/
def fitting (capacity : Nat) : List Event → List Event
  | [] => []
  | e :: es =>
    if capacity < (encode e).length then fitting capacity es
    else e :: fitting (capacity - (encode e).length) es

lemma length_fitting_le (capacity : Nat) (es : List Event) :
    (fitting capacity es).length ≤ es.length := by
  induction es generalizing capacity with
  | nil => exact Nat.le_refl _
  | cons e es ih =>
    rw [fitting]
    split
    · exact Nat.le_trans (ih capacity) (Nat.le_succ _)
    · exact Nat.succ_le_succ (ih _)

/-- The records that fit take no more room than there is. -/
lemma length_flatMap_fitting_le (capacity : Nat) (es : List Event) :
    ((fitting capacity es).flatMap encode).length ≤ capacity := by
  induction es generalizing capacity with
  | nil => exact Nat.zero_le _
  | cons e es ih =>
    rw [fitting]
    split
    · exact ih capacity
    · have hrest := ih (capacity - (encode e).length)
      rw [List.flatMap_cons, List.length_append]
      omega

/-- If there is room for all records, nothing is left out. -/
lemma fitting_eq_self {capacity : Nat} {es : List Event}
    (h : (es.flatMap encode).length ≤ capacity) : fitting capacity es = es := by
  induction es generalizing capacity with
  | nil => rfl
  | cons e es ih =>
    rw [List.flatMap_cons, List.length_append] at h
    rw [fitting, if_neg (by omega), ih (by omega)]

/-- What a buffer holds after some events. -/
lemma foldl_queue (b : EventBuffer) (es : List Event) :
    es.foldl (fun b e => (b.queue e).2) b =
      { b with
        data := b.data ++ (fitting (b.capacity - b.data.size) es).flatMap encode
        count := b.count + UInt32.ofNat (fitting (b.capacity - b.data.size) es).length
        truncated := b.truncated ||
          (fitting (b.capacity - b.data.size) es).length != es.length } := by
  induction es generalizing b with
  | nil => simp [fitting]
  | cons e es ih =>
    have hle := length_fitting_le (b.capacity - b.data.size) es
    rw [List.foldl_cons, ih, fitting, EventBuffer.queue]
    by_cases hfits : b.capacity - b.data.size < (encode e).length
    · have hlost : ((fitting (b.capacity - b.data.size) es).length != (e :: es).length) = true := by
        rw [bne_iff_ne, List.length_cons]
        omega
      simp only [if_pos hfits, hlost, Bool.or_true, Bool.true_or]
    · have hsize : (b.data ++ encode e).size = b.data.size + (encode e).length := by
        rw [← Array.length_toList, Array.toList_appendList, List.length_append,
          Array.length_toList]
      have hdata (l : List UInt8) : b.data ++ encode e ++ l = b.data ++ (encode e ++ l) :=
        Array.ext' (by simp only [Array.toList_appendList, List.append_assoc])
      have hcount (n : Nat) : b.count + 1 + UInt32.ofNat n = b.count + UInt32.ofNat (n + 1) := by
        rw [UInt32.add_assoc, UInt32.add_comm 1, UInt32.ofNat_add]
        rfl
      have hbne (m n : Nat) : (m + 1 != n + 1) = (m != n) := by
        rw [Bool.eq_iff_iff, bne_iff_ne, bne_iff_ne]
        omega
      simp only [if_neg hfits, hsize, hdata, hcount, hbne, ← Nat.sub_sub, List.length_cons,
        List.flatMap_cons]

/-- A buffer after some events. -/
def bufferAfter (capacity : Nat) (es : List Event) : EventBuffer :=
  es.foldl (fun b e => (b.queue e).2) (.empty capacity)

lemma bufferAfter_eq (capacity : Nat) (es : List Event) :
    bufferAfter capacity es =
      ⟨((fitting capacity es).flatMap encode).toArray, capacity,
        UInt32.ofNat (fitting capacity es).length,
        (fitting capacity es).length != es.length⟩ := by
  have hdata (l : List UInt8) : (#[] : Array UInt8) ++ l = l.toArray :=
    Array.ext' (Array.toList_appendList)
  rw [bufferAfter, foldl_queue, EventBuffer.empty]
  simp only [hdata, Array.size_empty, Nat.sub_zero, UInt32.zero_add, Bool.false_or]

/-- The records of some events that lie back to back from `offset` on, as a reader finds them. -/
def placed (offset : Nat) : List Event → List Placed
  | [] => []
  | e :: es => ⟨offset, (encode e).length, kept e⟩ :: placed (offset + (encode e).length) es

lemma map_event_placed (offset : Nat) (es : List Event) :
    (placed offset es).map (·.event) = es.map kept := by
  induction es generalizing offset with
  | nil => rfl
  | cons e es ih => rw [placed, List.map_cons, List.map_cons, ih]

/-- A record has four words and the references of a text and a stack at least. -/
lemma le_length_encode (e : Event) : 32 ≤ (encode e).length := by
  have htexts : 1 ≤ (texts e.detail).length := by cases e.detail <;> simp [texts]
  rw [encode_eq]
  simp only [List.length_append, length_words, length_flatMap_bytes, length_refs]
  omega

lemma length_encode_pos (e : Event) : 0 < (encode e).length :=
  Nat.lt_of_lt_of_le (by decide) (le_length_encode e)

lemma le_length_flatMap_encode (es : List Event) : 32 * es.length ≤ (es.flatMap encode).length := by
  induction es with
  | nil => exact Nat.le_refl _
  | cons e es ih =>
    have hfirst := le_length_encode e
    rw [List.flatMap_cons, List.length_append, List.length_cons]
    omega

/-- Records that lie back to back are found one after the other. -/
lemma readFrom_flatMap (offset : Nat) (read : List Placed) (es : List Event) :
    readFrom offset read (es.flatMap encode) = ⟨read.reverse ++ placed offset es, none⟩ := by
  induction es generalizing offset read with
  | nil => rw [List.flatMap_nil, readFrom, if_pos rfl, placed, List.append_nil]
  | cons e es ih =>
    have hlength := length_encode_pos e
    have hrest := ih (offset + (encode e).length) (⟨offset, (encode e).length, kept e⟩ :: read)
    rw [List.reverse_cons, List.append_assoc] at hrest
    have hne : encode e ++ es.flatMap encode ≠ [] := fun h => by
      rw [(List.append_eq_nil_iff.mp h).1] at hlength
      exact absurd hlength (Nat.lt_irrefl 0)
    rw [List.flatMap_cons, readFrom, if_neg hne, decode_encode_append]
    simp only []
    rw [dif_pos ⟨hlength, List.length_pos_iff.mpr hne⟩, List.drop_left]
    exact hrest

/-- A client reads back what the records of a buffer keep of their events. -/
lemma readAll_flatMap (es : List Event) : readAll (es.flatMap encode) = ⟨placed 0 es, none⟩ :=
  readFrom_flatMap 0 [] es

/-- What a client passes on of the events of a call whose records may take so many bytes: what the
records keep of those that fit, and a word about the others if there are any. -/
def delivered (capacity : Nat) (es : List Event) : List Event :=
  (fitting capacity es).map kept ++
    if (fitting capacity es).length = es.length then []
    else [.note ("Event buffer full, only the first "
      ++ toString (UInt32.ofNat (fitting capacity es).length).toNat ++ " events were delivered")]

/-- If there is room for all records, a client passes on what they keep. -/
lemma delivered_eq_map {capacity : Nat} {es : List Event}
    (h : (es.flatMap encode).length ≤ capacity) :
    delivered capacity es = es.map kept := by
  rw [delivered, fitting_eq_self h, if_pos rfl, List.append_nil]

end Record

end Testbench
