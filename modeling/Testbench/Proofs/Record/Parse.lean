import Testbench.Proofs.Record

/-!
# Parsing records by slices

`decode` reads the words and the texts of a record at their positions in it.  `parse` goes about it
as one does with bytes in memory: the record is a slice of the bytes, its words are read from the
slice behind its header, and each of its texts is a slice again, from wherever the record says.  To
take a slice that is no range of the bytes is a fault, for which no error stands.  `parse_eq` says
that there is never one, and that the two readers agree.

What is read at the start of some bytes depends on the bytes of the record alone
(`decode_eq_ok_iff`), which are at least as many as the shortest record has words.
-/

namespace Testbench.Record

/-! ### Slices -/

/-- The steps of a parser; nothing comes of them if a slice is no range. -/
abbrev Parse (α : Type) : Type := ExceptT DecodeError Option α

/-- The bytes from `start` up to `stop`. -/
def slice (start stop : Nat) (bytes : List UInt8) : Parse (List UInt8) :=
  if start ≤ stop ∧ stop ≤ bytes.length then return bytes.extract start stop else .mk none

/-- A step that takes no slice. -/
def Parse.ofExcept {α : Type} (x : Except DecodeError α) : Parse α := .mk (some x)

/-- The text that a reference points to, as a slice of the record. -/
def parseText (record : List UInt8) (r : TextRef) : Parse String := do
  let start := r.offset.toNat
  let stop := start + r.length.toNat
  if record.length < stop then
    throw (.badTextEnd stop record.length)
  match Utf8.toString? (← slice start stop record) with
  | .ok s => return s
  | .error why => throw (.notUtf8 why)

/-- The stack of a record that counts `count` frames. -/
def parseStack (record : List UInt8) (r : TextRef) (count : UInt32) :
    Parse (Option StackTrace) := do
  if count = 0 then
    return none
  let s ← parseText record r
  return some ⟨(lines s.toList).map String.ofList⟩

/-- The word at some position. -/
def parseWord (bytes : List UInt8) (start : Nat) : Parse UInt32 :=
  .ofExcept (readWord bytes.toArray start)

/-- The `i`-th reference of a record, from what follows its header. -/
def parseRef (body : List UInt8) (i : Nat) : Parse TextRef := do
  return ⟨← parseWord body (8 + 8 * i), ← parseWord body (12 + 8 * i)⟩

/-- An assertion, from its record and what follows the header of it. -/
def parseAssertion (record body : List UInt8) : Parse Event := do
  let line ← parseWord body 0
  let count ← parseWord body 4
  let file ← parseRef body 0
  let routine ← parseRef body 1
  let expression ← parseRef body 2
  let stack ← parseRef body 3
  let file ← parseText record file
  let routine ← parseText record routine
  let expression ← parseText record expression
  return ⟨.failedAssertion file routine line expression, ← parseStack record stack count⟩

/-- An event other than an assertion, from its record and what follows the header of it. -/
def parseMessage (detail : String → Event.Detail) (record body : List UInt8) : Parse Event := do
  let count ← parseWord body 4
  let message ← parseRef body 0
  let stack ← parseRef body 1
  let message ← parseText record message
  return ⟨detail message, ← parseStack record stack count⟩

/-- An event of the kind that `code` stands for. -/
def parseEvent (code : UInt32) (record body : List UInt8) : Parse Event :=
  match EventKind.ofCode? code with
  | .error invalid => throw (.unknownKind invalid)
  | .ok .failedAssertion => parseAssertion record body
  | .ok .uncaughtException => parseMessage .uncaughtException record body
  | .ok .inconclusiveness => parseMessage .inconclusiveness record body
  | .ok .log => parseMessage .log record body

/-- The record at the start of some bytes: its event and its size. -/
def parse (bytes : List UInt8) : Parse (Event × Nat) := do
  let header := bytes.take 8
  let code ← parseWord header 0
  let size := (← parseWord header 4).toNat
  if size < 8 ∨ size % alignment ≠ 0 ∨ bytes.length < size then
    throw (.badSize size bytes.length)
  let record ← slice 0 size bytes
  let body ← slice 8 record.length record
  let event ← parseEvent code record body
  return (event, size)

/-! ### No fault -/

namespace Parse

variable {α β : Type}

lemma ofExcept_bind (x : Except DecodeError α) (f : α → Except DecodeError β) :
    (ofExcept x >>= fun a => ofExcept (f a)) = ofExcept (x >>= f) := by
  cases x <;> rfl

lemma ok_bind (a : α) (f : α → Parse β) : (ofExcept (.ok a) >>= f) = f a := rfl

lemma pure_eq (a : α) : (pure a : Parse α) = ofExcept (pure a) := rfl

end Parse

open Parse

lemma slice_eq {start stop : Nat} {bytes : List UInt8} (h : start ≤ stop)
    (h' : stop ≤ bytes.length) :
    slice start stop bytes = ofExcept (.ok (bytes.extract start stop)) := if_pos ⟨h, h'⟩

/-- A word behind the header is a word of the record. -/
lemma readWord_drop (l : List UInt8) (n start : Nat) (h : n ≤ l.length) :
    readWord (l.drop n).toArray start = readWord l.toArray (n + start) := by
  have hiff : start + 4 ≤ l.length - n ↔ n + start + 4 ≤ l.length := by omega
  simp only [readWord, word32, field, List.size_toArray, List.length_drop, hiff,
    Array.toList_extract, List.extract_eq_take_drop, List.drop_drop, Nat.add_sub_cancel_left]

lemma parseWord_drop (l : List UInt8) (start : Nat) (h : 8 ≤ l.length) :
    parseWord (l.drop 8) start = ofExcept (readWord l.toArray (8 + start)) := by
  rw [parseWord, readWord_drop l 8 start h]

lemma parseRef_eq (l : List UInt8) (i : Nat) (h : 8 ≤ l.length) :
    parseRef (l.drop 8) i = ofExcept (readRef l.toArray i) := by
  simp only [parseRef, readRef, parseWord_drop _ _ h, pure_eq, ofExcept_bind, ← Nat.add_assoc]

/-- The range of a text has been checked before it is sliced. -/
lemma parseText_eq (record : List UInt8) (r : TextRef) :
    parseText record r = ofExcept (readText record.toArray r) := by
  simp only [parseText, readText, List.size_toArray, Array.toList_extract]
  split
  · rfl
  · next h =>
    rw [slice_eq (Nat.le_add_right _ _) (Nat.le_of_not_lt h), ok_bind]
    cases Utf8.toString? (record.extract r.offset.toNat (r.offset.toNat + r.length.toNat)) <;> rfl

lemma parseStack_eq (record : List UInt8) (r : TextRef) (count : UInt32) :
    parseStack record r count = ofExcept (readStack record.toArray r count) := by
  simp only [parseStack, readStack, parseText_eq, pure_eq, ofExcept_bind]
  split
  · rfl
  · cases readText record.toArray r <;> rfl

lemma parseAssertion_eq (record : List UInt8) (h : 8 ≤ record.length) :
    parseAssertion record (record.drop 8) = ofExcept (readAssertion record.toArray) := by
  simp only [parseAssertion, readAssertion, parseWord_drop _ _ h, parseRef_eq _ _ h, parseText_eq,
    parseStack_eq, pure_eq, ofExcept_bind]

lemma parseMessage_eq (detail : String → Event.Detail) (record : List UInt8)
    (h : 8 ≤ record.length) :
    parseMessage detail record (record.drop 8) = ofExcept (readMessage detail record.toArray) := by
  simp only [parseMessage, readMessage, parseWord_drop _ _ h, parseRef_eq _ _ h, parseText_eq,
    parseStack_eq, pure_eq, ofExcept_bind]

lemma parseEvent_eq (code : UInt32) (record : List UInt8) (h : 8 ≤ record.length) :
    parseEvent code record (record.drop 8) = ofExcept (readEvent code record.toArray) := by
  rw [parseEvent, readEvent]
  rcases EventKind.ofCode? code with invalid | kind
  · rfl
  · cases kind with
    | failedAssertion => exact parseAssertion_eq record h
    | uncaughtException => exact parseMessage_eq _ record h
    | inconclusiveness => exact parseMessage_eq _ record h
    | log => exact parseMessage_eq _ record h

/-- The size that a header states is none of a record. -/
abbrev BadSize (size : Nat) (bytes : List UInt8) : Prop :=
  size < 8 ∨ size % alignment ≠ 0 ∨ bytes.length < size

/-- What is decoded when the header can be read. -/
lemma decode_of_header {bytes : List UInt8} {code size : UInt32}
    (hcode : readWord (bytes.take 8).toArray 0 = .ok code)
    (hsize : readWord (bytes.take 8).toArray 4 = .ok size) :
    decode bytes = if BadSize size.toNat bytes then .error (.badSize size.toNat bytes.length)
      else (readEvent code (bytes.take size.toNat).toArray).map fun e => (e, size.toNat) := by
  simp only [decode, hcode, hsize, bind, Except.bind]
  by_cases h : BadSize size.toNat bytes
  · rw [if_pos h, if_pos h]
    rfl
  · rw [if_neg h, if_neg h]
    cases readEvent code (bytes.take size.toNat).toArray <;> rfl

/-- Whatever the bytes, no slice is out of range, and what is parsed is what is decoded. -/
theorem parse_eq (bytes : List UInt8) : parse bytes = ofExcept (decode bytes) := by
  rcases hcode : readWord (bytes.take 8).toArray 0 with why | code
  · simp only [parse, decode, parseWord, hcode]
    rfl
  rcases hsize : readWord (bytes.take 8).toArray 4 with why | size
  · simp only [parse, decode, parseWord, hcode, hsize]
    rfl
  rw [decode_of_header hcode hsize]
  simp only [parse, parseWord, hcode, hsize, ok_bind]
  by_cases h : BadSize size.toNat bytes
  · rw [if_pos h, if_pos h]
    rfl
  · -- the size is that of a range which has room for the header
    have hlen : (bytes.take size.toNat).length = size.toNat := by
      rw [List.length_take]
      omega
    have hmin : 8 ≤ (bytes.take size.toNat).length := by omega
    have hrecord : slice 0 size.toNat bytes = ofExcept (.ok (bytes.take size.toNat)) := by
      rw [slice_eq (Nat.zero_le _) (by omega), List.extract_eq_take_drop,
        List.drop_zero, Nat.sub_zero]
    have hbody : slice 8 (bytes.take size.toNat).length (bytes.take size.toNat) =
        ofExcept (.ok ((bytes.take size.toNat).drop 8)) := by
      rw [slice_eq hmin (Nat.le_refl _), List.extract_eq_take_drop, ← List.length_drop,
        List.take_length]
    rw [if_neg h, if_neg h, hrecord, ok_bind, hbody, ok_bind, parseEvent_eq _ _ hmin]
    cases readEvent code (bytes.take size.toNat).toArray <;> rfl

/-! ### The bytes of a record -/

lemma decode_eq_ok {bytes : List UInt8} {e : Event} {n : Nat} :
    decode bytes = .ok (e, n) ↔ ∃ code size, readWord (bytes.take 8).toArray 0 = .ok code ∧
      readWord (bytes.take 8).toArray 4 = .ok size ∧ size.toNat = n ∧ ¬ BadSize n bytes ∧
      readEvent code (bytes.take n).toArray = .ok e := by
  constructor
  · intro h
    rcases hcode : readWord (bytes.take 8).toArray 0 with why | code
    · simp [decode, hcode, bind, Except.bind] at h
    rcases hsize : readWord (bytes.take 8).toArray 4 with why | size
    · simp [decode, hcode, hsize, bind, Except.bind] at h
    rw [decode_of_header hcode hsize] at h
    split at h
    · cases h
    · next hbad =>
      rcases hread : readEvent code (bytes.take size.toNat).toArray with why | e'
      · rw [hread] at h
        cases h
      · rw [hread] at h
        obtain ⟨rfl, rfl⟩ := Prod.mk.inj (Except.ok.inj h)
        exact ⟨code, size, rfl, rfl, rfl, hbad, hread⟩
  · rintro ⟨code, size, hcode, hsize, rfl, hbad, hread⟩
    rw [decode_of_header hcode hsize, if_neg hbad, hread]
    rfl

/-- What is decoded is within the bytes, and is decoded alike from its own bytes alone. -/
theorem decode_eq_ok_iff {bytes : List UInt8} {e : Event} {n : Nat} :
    decode bytes = .ok (e, n) ↔ n ≤ bytes.length ∧ decode (bytes.take n) = .ok (e, n) := by
  -- the header belongs to the record, whose size has been checked
  have hheader (h : 8 ≤ n) : (bytes.take n).take 8 = bytes.take 8 := by
    rw [List.take_take, Nat.min_eq_left h]
  have hbad (h : n ≤ bytes.length) : BadSize n (bytes.take n) ↔ BadSize n bytes := by
    rw [BadSize, List.length_take, Nat.min_eq_left h]
    omega
  have htake : (bytes.take n).take n = bytes.take n := by rw [List.take_take, Nat.min_self]
  rw [decode_eq_ok, decode_eq_ok, htake]
  constructor
  · rintro ⟨code, size, hcode, hsize, hn, hgood, hread⟩
    have hmin : 8 ≤ n ∧ n ≤ bytes.length := by omega
    rw [hheader hmin.1, hbad hmin.2]
    exact ⟨hmin.2, code, size, hcode, hsize, hn, hgood, hread⟩
  · rintro ⟨hle, code, size, hcode, hsize, hn, hgood, hread⟩
    rw [hbad hle] at hgood
    rw [hheader (by omega)] at hcode hsize
    exact ⟨code, size, hcode, hsize, hn, hgood, hread⟩

lemma size_of_readWord {record : Array UInt8} {start : Nat} {w : UInt32}
    (h : readWord record start = .ok w) : start + 4 ≤ record.size := by
  by_contra hlt
  rw [readWord, word32, field, if_neg hlt] at h
  cases h

lemma size_of_readRef {record : Array UInt8} {i : Nat} {r : TextRef}
    (h : readRef record i = .ok r) : fixedSize i ≤ record.size := by
  obtain ⟨w, -, h⟩ := of_bind_ok h
  obtain ⟨v, hv, -⟩ := of_bind_ok h
  have hsize := size_of_readWord hv
  rw [fixedSize]
  omega

/-- A message is read from all of its references. -/
lemma size_of_readMessage {detail : String → Event.Detail} {record : Array UInt8} {e : Event}
    (h : readMessage detail record = .ok e) : fixedSize 1 ≤ record.size := by
  obtain ⟨count, -, h⟩ := of_bind_ok h
  obtain ⟨message, -, h⟩ := of_bind_ok h
  obtain ⟨stack, hstack, -⟩ := of_bind_ok h
  exact size_of_readRef hstack

/-- An assertion is read from all of its references. -/
lemma size_of_readAssertion {record : Array UInt8} {e : Event}
    (h : readAssertion record = .ok e) : fixedSize 3 ≤ record.size := by
  obtain ⟨line, -, h⟩ := of_bind_ok h
  obtain ⟨count, -, h⟩ := of_bind_ok h
  obtain ⟨file, -, h⟩ := of_bind_ok h
  obtain ⟨routine, -, h⟩ := of_bind_ok h
  obtain ⟨expression, -, h⟩ := of_bind_ok h
  obtain ⟨stack, hstack, -⟩ := of_bind_ok h
  exact size_of_readRef hstack

/-- An event is read from no fewer bytes than a message has words. -/
lemma size_of_readEvent {code : UInt32} {record : Array UInt8} {e : Event}
    (h : readEvent code record = .ok e) : fixedSize 1 ≤ record.size := by
  rw [readEvent] at h
  split at h
  · cases h
  · exact Nat.le_trans (by decide) (size_of_readAssertion h)
  all_goals exact size_of_readMessage h

lemma size_of_decode {bytes : List UInt8} {e : Event} {n : Nat} (h : decode bytes = .ok (e, n)) :
    32 ≤ n ∧ n % 8 = 0 ∧ n ≤ bytes.length := by
  obtain ⟨code, size, -, -, -, hgood, hread⟩ := decode_eq_ok.mp h
  have hsize := size_of_readEvent hread
  rw [List.size_toArray, List.length_take, fixedSize] at hsize
  rw [BadSize, alignment] at hgood
  omega

end Testbench.Record
