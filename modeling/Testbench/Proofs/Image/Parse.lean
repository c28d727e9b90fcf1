import Mathlib.Tactic.Lemma
import Testbench.Proofs.Image.Local

/-!
# Parsing images by slices

`decode` reads the words and the names of an image at their positions in it.  `parse` goes about it
as one does with bytes in memory: a record is split off the front of a slice, which leaves the slice
behind it for the next record; the records of a fixture are looked for in the slice that starts where
the image says; and a name is a slice again.  To take a slice that is no range of the bytes, or a
word that is not within its record, is a fault, for which no error stands.  `parse` also counts the
fixtures that it sets out to read.

There is never a fault, and the two readers agree.  An image may claim to have as many fixtures as a
word can count, but each of them takes a word off the table of positions before anything else is
read, so that the bytes run out after a quarter as many.
-/

namespace Testbench.Image

/-! ### Slices -/

/-- The steps of a parser that counts fixtures; nothing comes of them if a slice is no range. -/
abbrev Parse (α : Type) : Type := ExceptT DecodeError (StateT Nat Option) α

/-- A step that takes no slice and counts nothing. -/
def Parse.ofExcept {α : Type} (x : Except DecodeError α) : Parse α := .mk (pure x)

/-- The bytes from `start` up to `stop`. -/
def slice (start stop : Nat) (bytes : List UInt8) : Parse (List UInt8) :=
  if start ≤ stop ∧ stop ≤ bytes.length then return bytes.extract start stop else .mk fun _ => none

/-- A word of a record. -/
def within {α : Type} : Option α → Parse α
  | some w => return w
  | none => .mk fun _ => none

/-- Splits a record of `size` bytes off the front of some bytes. -/
def split (size : Nat) (bytes : List UInt8) : Parse (List UInt8 × List UInt8) := do
  if bytes.length < size then
    throw .cutOff
  let record ← slice 0 size bytes
  let rest ← slice size bytes.length bytes
  return (record, rest)

/-- The bytes from `offset` on. -/
def tail (bytes : List UInt8) (offset : Nat) : Parse (List UInt8) := do
  if bytes.length < offset then
    throw (.badOffset offset bytes.length)
  slice offset bytes.length bytes

/-- The name that starts at `offset` and takes `length` bytes. -/
def parseName (bytes : List UInt8) (offset length : UInt32) : Parse String := do
  let start := offset.toNat
  let stop := start + length.toNat
  if bytes.length < stop then
    throw (.badNameEnd stop bytes.length)
  match Utf8.toString? (← slice start stop bytes) with
  | .ok s => return s
  | .error why => throw (.notUtf8 why)

/-- The routine whose record is the next of some records, and the records behind it. -/
def parseEntry (bytes records : List UInt8) : Parse (EntryInfo × List UInt8) := do
  let (record, rest) ← split 16 records
  let code ← within (word32 0 record.toArray)
  let key ← within (word16 4 record.toArray)
  let name ← within (word32 8 record.toArray)
  let length ← within (word32 12 record.toArray)
  match Role.ofCode? code with
  | .error invalid => throw (.unknownRole invalid)
  | .ok role => return (⟨role, key, ← parseName bytes name length⟩, rest)

/-- The next `n` routines; `done` holds those before them, last first. -/
def parseEntries (bytes records : List UInt8) (done : List EntryInfo) :
    Nat → Parse (List EntryInfo)
  | 0 => return done.reverse
  | n + 1 => do
    let (e, rest) ← parseEntry bytes records
    parseEntries bytes rest (e :: done) n

/-- The fixture whose record is at `offset`. -/
def parseFixture (bytes : List UInt8) (offset : Nat) : Parse FixtureInfo := do
  let (record, records) ← split 12 (← tail bytes offset)
  let key ← within (word16 0 record.toArray)
  let count ← within (word16 2 record.toArray)
  let name ← within (word32 4 record.toArray)
  let length ← within (word32 8 record.toArray)
  let entries ← parseEntries bytes records [] count.toNat
  return ⟨key, ← parseName bytes name length, entries⟩

/-- The word at the front of some bytes, and the bytes behind it. -/
def parseWord (bytes : List UInt8) : Parse (UInt32 × List UInt8) := do
  let (record, rest) ← split 4 bytes
  return (← within (word32 0 record.toArray), rest)

/-- Counts a fixture. -/
def setOut : Parse Unit := .mk fun rounds => some (.ok (), rounds + 1)

/-- The next `n` fixtures of a table of positions; `done` holds those before them, last first. -/
def parseFixtures (bytes table : List UInt8) (done : List FixtureInfo) :
    Nat → Parse (List FixtureInfo)
  | 0 => return done.reverse
  | n + 1 => do
    setOut
    let (offset, rest) ← parseWord table
    let f ← parseFixture bytes offset.toNat
    parseFixtures bytes rest (f :: done) n

/-- The module of an image. -/
def parse (bytes : List UInt8) : Parse ModuleInfo := do
  let (count, table) ← parseWord bytes
  return ⟨← parseFixtures bytes table [] count.toNat⟩

/-! ### No fault -/

namespace Parse

variable {α β : Type}

lemma ok_bind (a : α) (f : α → Parse β) : (ofExcept (.ok a) >>= f) = f a := rfl

lemma pure_eq (a : α) : (pure a : Parse α) = ofExcept (.ok a) := rfl

/-- Steps that take no slice do so one after the other. -/
lemma ofExcept_bind {x : Except DecodeError α} {f : α → Parse β} {g : α → Except DecodeError β}
    (h : ∀ a, f a = ofExcept (g a)) : (ofExcept x >>= f) = ofExcept (x >>= g) := by
  rcases x with why | a
  · rfl
  · exact h a

/-- What is made of what a parser reads takes no more counting. -/
lemma run_bind_pure {p : Parse α} {x : Except DecodeError α} {rounds rounds' : Nat}
    (h : p.run.run rounds = some (x, rounds')) (f : α → β) :
    (p >>= fun a => return f a).run.run rounds
      = some (x >>= fun a => return f a, rounds') := by
  change (p.run.run rounds).bind _ = _
  rw [h]
  cases x <;> rfl

end Parse

open Parse

variable {bytes : List UInt8} {start size : Nat}

lemma slice_eq {stop : Nat} (h : start ≤ stop) (h' : stop ≤ bytes.length) :
    slice start stop bytes = ofExcept (.ok (bytes.extract start stop)) := if_pos ⟨h, h'⟩

/-- A record that is there is split off what starts with it. -/
lemma split_eq (h : start + size ≤ bytes.length) :
    split size (bytes.drop start)
      = ofExcept (.ok (bytes.extract start (start + size), bytes.drop (start + size))) := by
  have hlen : (bytes.drop start).length = bytes.length - start := List.length_drop
  rw [split, if_neg (by omega), slice_eq (Nat.zero_le _) (by omega), ok_bind,
    slice_eq (by omega) (Nat.le_refl _), ok_bind, pure_eq]
  simp only [List.extract_eq_take_drop, Nat.sub_zero, Nat.add_sub_cancel_left, ← List.length_drop,
    List.take_length, List.drop_drop, Nat.add_zero]

lemma split_short (h : start ≤ bytes.length) (h' : ¬ start + size ≤ bytes.length) :
    split size (bytes.drop start) = ofExcept (.error DecodeError.cutOff) := by
  rw [split, if_pos (by rw [List.length_drop]; omega)]
  rfl

/-- The words of a record are found in the bytes that it is part of. -/
lemma within_word16 (h : start + size ≤ bytes.length) {i : Nat} (hi : i + 2 ≤ size) :
    within (word16 i (bytes.extract start (start + size)).toArray)
      = ofExcept (read16 bytes.toArray (start + i)) := by
  rw [word16, field_extract bytes hi h, read16, word16, field,
    if_pos (by rw [List.size_toArray]; omega)]
  rfl

/-- The words of a record are found in the bytes that it is part of. -/
lemma within_word32 (h : start + size ≤ bytes.length) {i : Nat} (hi : i + 4 ≤ size) :
    within (word32 i (bytes.extract start (start + size)).toArray)
      = ofExcept (read32 bytes.toArray (start + i)) := by
  rw [word32, field_extract bytes hi h, read32, word32, field,
    if_pos (by rw [List.size_toArray]; omega)]
  rfl

/-- The range of a name has been checked before it is sliced. -/
lemma parseName_eq (offset length : UInt32) :
    parseName bytes offset length = ofExcept (readName bytes.toArray offset length) := by
  simp only [parseName, readName, List.size_toArray, Array.toList_extract]
  split
  · rfl
  · next h =>
    rw [slice_eq (Nat.le_add_right _ _) (Nat.le_of_not_lt h), ok_bind]
    cases Utf8.toString? (bytes.extract offset.toNat (offset.toNat + length.toNat)) <;> rfl

/-! ### Records that are cut off -/

/-- A reader that begins with a word and then fails for want of bytes fails for want of bytes. -/
lemma bind_cutOff {α β : Type} {x : Except DecodeError α} {f : α → Except DecodeError β}
    (hx : x = .error .cutOff ∨ ∃ w, x = .ok w) (hf : ∀ w, f w = .error .cutOff) :
    (x >>= f) = .error .cutOff := by
  rcases hx with rfl | ⟨w, rfl⟩
  · rfl
  · exact hf w

lemma read16_cases (start : Nat) : read16 bytes.toArray start = .error .cutOff ∨
    ∃ w, read16 bytes.toArray start = .ok w := by
  rw [read16]
  cases word16 start bytes.toArray with
  | none => exact .inl rfl
  | some w => exact .inr ⟨w, rfl⟩

lemma read32_cases (start : Nat) : read32 bytes.toArray start = .error .cutOff ∨
    ∃ w, read32 bytes.toArray start = .ok w := by
  rw [read32]
  cases word32 start bytes.toArray with
  | none => exact .inl rfl
  | some w => exact .inr ⟨w, rfl⟩

lemma read32_cutOff (h : ¬ start + 4 ≤ bytes.length) :
    read32 bytes.toArray start = .error .cutOff := by
  rw [read32, word32, field, if_neg (by rwa [List.size_toArray])]
  rfl

lemma readEntry_cutOff (h : ¬ start + 16 ≤ bytes.length) :
    readEntry bytes.toArray start = .error .cutOff := by
  refine bind_cutOff (read32_cases _) fun code => ?_
  refine bind_cutOff (read16_cases _) fun key => ?_
  refine bind_cutOff (read32_cases _) fun name => ?_
  rw [read32_cutOff (by omega)]
  rfl

lemma readFixture_cutOff (h : start ≤ bytes.length) (h' : ¬ start + 12 ≤ bytes.length) :
    readFixture bytes.toArray start = .error .cutOff := by
  rw [readFixture, if_neg (by rw [List.size_toArray]; omega)]
  refine bind_cutOff (read16_cases _) fun key => ?_
  refine bind_cutOff (read16_cases _) fun count => ?_
  refine bind_cutOff (read32_cases _) fun name => ?_
  rw [read32_cutOff (by omega)]
  rfl

/-! ### Records -/

lemma parseWord_eq (h : start ≤ bytes.length) :
    parseWord (bytes.drop start)
      = ofExcept (read32 bytes.toArray start >>= fun w => .ok (w, bytes.drop (start + 4))) := by
  by_cases hrecord : start + 4 ≤ bytes.length
  · rw [parseWord, split_eq hrecord, ok_bind]
    simp only [within_word32 hrecord (i := 0) (by omega)]
    exact ofExcept_bind fun w => rfl
  · rw [parseWord, split_short h hrecord, read32_cutOff hrecord]
    rfl

lemma parseEntry_eq (h : start ≤ bytes.length) :
    parseEntry bytes (bytes.drop start)
      = ofExcept (readEntry bytes.toArray start >>= fun e => .ok (e, bytes.drop (start + 16))) := by
  by_cases hrecord : start + 16 ≤ bytes.length
  · rw [parseEntry, split_eq hrecord, ok_bind]
    simp only [within_word32 hrecord (i := 0) (by omega), within_word16 hrecord (i := 4) (by omega),
      within_word32 hrecord (i := 8) (by omega), within_word32 hrecord (i := 12) (by omega),
      readEntry, bind_assoc]
    refine ofExcept_bind fun code => ?_
    refine ofExcept_bind fun key => ?_
    refine ofExcept_bind fun name => ?_
    refine ofExcept_bind fun length => ?_
    rcases Role.ofCode? code with invalid | role
    · rfl
    · simp only [parseName_eq, bind_assoc]
      exact ofExcept_bind fun text => rfl
  · rw [parseEntry, split_short h hrecord, readEntry_cutOff hrecord]
    rfl

lemma parseEntries_eq (h : start ≤ bytes.length) (done : List EntryInfo) (n : Nat) :
    parseEntries bytes (bytes.drop start) done n
      = ofExcept (readEntries bytes.toArray start done n) := by
  induction n generalizing start done with
  | zero => rfl
  | succ n ih =>
    rw [parseEntries, readEntries_succ, parseEntry_eq h]
    rcases he : readEntry bytes.toArray start with why | e
    · rfl
    · obtain ⟨name, length, -, hlength, -⟩ := of_readEntry he
      have hstop := stop_le_of_read32 hlength
      exact ih hstop (e :: done)

lemma parseFixture_eq (offset : Nat) :
    parseFixture bytes offset = ofExcept (readFixture bytes.toArray offset) := by
  by_cases hoffset : bytes.length < offset
  · rw [parseFixture, tail, readFixture, if_pos hoffset,
      if_pos (by rwa [List.size_toArray])]
    rfl
  have htail : tail bytes offset = ofExcept (.ok (bytes.drop offset)) := by
    rw [tail, if_neg hoffset, slice_eq (by omega) (Nat.le_refl _), List.extract_eq_take_drop,
      ← List.length_drop, List.take_length]
  rw [parseFixture, htail, ok_bind]
  by_cases hrecord : offset + 12 ≤ bytes.length
  · rw [split_eq hrecord, ok_bind, readFixture, if_neg (by rwa [List.size_toArray])]
    simp only [within_word16 hrecord (i := 0) (by omega), within_word16 hrecord (i := 2) (by omega),
      within_word32 hrecord (i := 4) (by omega), within_word32 hrecord (i := 8) (by omega),
      parseEntries_eq hrecord, parseName_eq]
    refine ofExcept_bind fun key => ?_
    refine ofExcept_bind fun count => ?_
    refine ofExcept_bind fun name => ?_
    refine ofExcept_bind fun length => ?_
    refine ofExcept_bind fun entries => ?_
    exact ofExcept_bind fun text => rfl
  · rw [split_short (by omega) hrecord, readFixture_cutOff (by omega) hrecord]
    rfl

/-! ### Rounds -/

/-- Every fixture that the parser sets out to read but the last has taken a word of the table. -/
lemma parseFixtures_eq (h : start ≤ bytes.length) (done : List FixtureInfo) (n rounds : Nat) :
    ∃ rounds', (parseFixtures bytes (bytes.drop start) done n).run.run rounds
        = some (readFixtures bytes.toArray start done n, rounds') ∧
      rounds' ≤ rounds + ((bytes.length - start) / 4 + 1) := by
  induction n generalizing start done rounds with
  | zero => exact ⟨rounds, rfl, Nat.le_add_right _ _⟩
  | succ n ih =>
    rw [parseFixtures, readFixtures_succ, parseWord_eq h]
    rcases hword : read32 bytes.toArray start with why | offset
    · exact ⟨rounds + 1, rfl, by omega⟩
    have hstop := stop_le_of_read32 hword
    -- the fixture is counted, and what comes of it decides whether there is another one
    change ∃ rounds', (parseFixture bytes offset.toNat >>= fun f =>
        parseFixtures bytes (bytes.drop (start + 4)) (f :: done) n).run.run (rounds + 1)
      = some (readFixture bytes.toArray offset.toNat >>= fun f =>
        readFixtures bytes.toArray (start + 4) (f :: done) n, rounds') ∧ _
    rw [parseFixture_eq]
    rcases readFixture bytes.toArray offset.toNat with why | f
    · exact ⟨rounds + 1, rfl, by omega⟩
    · obtain ⟨rounds', heq, hle⟩ := ih hstop (f :: done) (rounds + 1)
      exact ⟨rounds', heq, by omega⟩

lemma parse_eq (bytes : List UInt8) : ∃ rounds,
    (parse bytes).run.run 0 = some (decode bytes, rounds) ∧ rounds ≤ bytes.length / 4 := by
  have hword := parseWord_eq (Nat.zero_le bytes.length)
  rw [List.drop_zero, Nat.zero_add] at hword
  rw [parse, hword, decode, decodeArray]
  rcases hcount : read32 bytes.toArray 0 with why | count
  · exact ⟨0, rfl, Nat.zero_le _⟩
  have hstop := stop_le_of_read32 hcount
  obtain ⟨rounds, heq, hle⟩ := parseFixtures_eq hstop [] count.toNat 0
  refine ⟨rounds, ?_, by omega⟩
  exact run_bind_pure heq ModuleInfo.mk

/-- Whatever the bytes, and whatever counts, positions and lengths they hold: no slice is out of
range, what is parsed is what is decoded, and the parser sets out to read no more than a quarter as
many fixtures as there are bytes.  If it accepts them, it reads the same when others follow, and the
names that it reads are ranges of them. -/
theorem parse_local (bytes : List UInt8) :
    (∃ rounds, (parse bytes).run.run 0 = some (decode bytes, rounds) ∧
      rounds ≤ bytes.length / 4) ∧
    ∀ info, decode bytes = .ok info →
      (∀ rest, decode (bytes ++ rest) = .ok info) ∧
      ∀ f ∈ info.fixtures, Utf8.ofString f.name <:+: bytes ∧
        ∀ e ∈ f.entries, Utf8.ofString e.name <:+: bytes :=
  ⟨parse_eq bytes, fun _ h => ⟨fun rest => (decode_stays bytes rest).ok h, namedIn_of_decode h⟩⟩

end Testbench.Image
