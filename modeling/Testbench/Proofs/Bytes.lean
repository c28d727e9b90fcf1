import Mathlib.Tactic.Lemma
import Testbench.Bytes

/-!
# Reading back words

The readers of `Testbench.Bytes` work on arrays and the writers on lists.  `Lies` says that some
bytes are found at a position of a list, and is all that the layouts of records and images need: it
goes down to the parts of what lies there, and a word is read back from wherever it lies.
-/

namespace Testbench

/-- The bytes are found in the list from position `start` on. -/
def Lies (bytes : List UInt8) (start : Nat) (l : List UInt8) : Prop :=
  ∃ a c, l = a ++ (bytes ++ c) ∧ a.length = start

namespace Lies

variable {bytes b₁ b₂ l : List UInt8} {start : Nat}

lemma prefix_append (b c : List UInt8) : Lies b 0 (b ++ c) := ⟨[], c, rfl, rfl⟩

lemma self (b : List UInt8) : Lies b 0 b := ⟨[], [], (List.append_nil b).symm, rfl⟩

lemma left (h : Lies (b₁ ++ b₂) start l) : Lies b₁ start l := by
  obtain ⟨a, c, rfl, ha⟩ := h
  exact ⟨a, b₂ ++ c, by rw [List.append_assoc], ha⟩

lemma right (h : Lies (b₁ ++ b₂) start l) : Lies b₂ (start + b₁.length) l := by
  obtain ⟨a, c, rfl, rfl⟩ := h
  exact ⟨a ++ b₁, c, by simp only [List.append_assoc], List.length_append⟩

/-- Nothing is lost by bytes that follow. -/
lemma append_right (h : Lies bytes start l) (t : List UInt8) : Lies bytes start (l ++ t) := by
  obtain ⟨a, c, rfl, ha⟩ := h
  exact ⟨a, c ++ t, by simp only [List.append_assoc], ha⟩

lemma stop_le (h : Lies bytes start l) : start + bytes.length ≤ l.length := by
  obtain ⟨a, c, rfl, rfl⟩ := h
  simp only [List.length_append]
  omega

lemma extract_eq (h : Lies bytes start l) : l.extract start (start + bytes.length) = bytes := by
  obtain ⟨a, c, rfl, rfl⟩ := h
  rw [List.extract_eq_take_drop, Nat.add_sub_cancel_left, List.drop_left, List.take_left]

lemma field_eq (h : Lies bytes start l) : field bytes.length start l.toArray = some bytes := by
  rw [field, if_pos (by simpa only [List.size_toArray] using h.stop_le), Array.toList_extract,
    List.toList_toArray, h.extract_eq]

end Lies

/-! ### Words -/

@[simp] lemma length_le16 (w : UInt16) : (le16 w).length = 2 := rfl

@[simp] lemma length_le32 (w : UInt32) : (le32 w).length = 4 := rfl

@[simp] lemma length_le64 (w : UInt64) : (le64 w).length = 8 := rfl

lemma length_flatMap_le64 (as : List UInt64) : (as.flatMap le64).length = 8 * as.length := by
  induction as with
  | nil => rfl
  | cons a as ih =>
    rw [List.flatMap_cons, List.length_append, ih, length_le64, List.length_cons]
    omega

lemma littleEndian_le16 (w : UInt16) : littleEndian (le16 w) = w.toNat := by
  have h := w.toNat_lt
  simp only [littleEndian, le16, List.foldr_cons, List.foldr_nil, UInt16.toNat_toUInt8,
    UInt16.toNat_shiftRight, UInt16.reduceToNat, Nat.shiftRight_eq_div_pow, Nat.reduceMod,
    Nat.reducePow]
  omega

lemma littleEndian_le32 (w : UInt32) : littleEndian (le32 w) = w.toNat := by
  have h := w.toNat_lt
  simp only [littleEndian, le32, List.foldr_cons, List.foldr_nil, UInt32.toNat_toUInt8,
    UInt32.toNat_shiftRight, UInt32.reduceToNat, Nat.shiftRight_eq_div_pow, Nat.reduceMod,
    Nat.reducePow]
  omega

lemma littleEndian_le64 (w : UInt64) : littleEndian (le64 w) = w.toNat := by
  have h := w.toNat_lt
  simp only [littleEndian, le64, List.foldr_cons, List.foldr_nil, UInt64.toNat_toUInt8,
    UInt64.toNat_shiftRight, UInt64.reduceToNat, Nat.shiftRight_eq_div_pow, Nat.reduceMod,
    Nat.reducePow]
  omega

namespace Lies

variable {l : List UInt8} {start : Nat}

/-- A word is read back from where it lies. -/
lemma word16_eq {w : UInt16} (h : Lies (le16 w) start l) : word16 start l.toArray = some w := by
  have hf := h.field_eq
  rw [length_le16] at hf
  rw [word16, hf, Option.map_some, littleEndian_le16, UInt16.ofNat_toNat]

/-- A word is read back from where it lies. -/
lemma word32_eq {w : UInt32} (h : Lies (le32 w) start l) : word32 start l.toArray = some w := by
  have hf := h.field_eq
  rw [length_le32] at hf
  rw [word32, hf, Option.map_some, littleEndian_le32, UInt32.ofNat_toNat]

/-- A word is read back from where it lies. -/
lemma word64_eq {w : UInt64} (h : Lies (le64 w) start l) : word64 start l.toArray = some w := by
  have hf := h.field_eq
  rw [length_le64] at hf
  rw [word64, hf, Option.map_some, littleEndian_le64, UInt64.ofNat_toNat]

end Lies

/-! ### Readers -/

/-- The bytes of a part are those of the whole. -/
lemma field_extract (bytes : List UInt8) {width size start i : Nat} (hi : i + width ≤ size)
    (hsize : start + size ≤ bytes.length) :
    field width i (bytes.extract start (start + size)).toArray
      = field width (start + i) bytes.toArray := by
  have hlen : (bytes.extract start (start + size)).length = size := by
    rw [List.extract_eq_take_drop, List.length_take, List.length_drop]
    omega
  have hmin : min width (size - i) = width := by omega
  rw [field, field, if_pos (by rw [List.size_toArray, hlen]; exact hi),
    if_pos (by rw [List.size_toArray]; omega), Array.toList_extract, Array.toList_extract]
  simp only [List.extract_eq_take_drop, List.drop_take, List.take_take, List.drop_drop,
    Nat.add_sub_cancel_left, hmin]

/-- The bytes of a field that is there are there in more bytes. -/
lemma field_append {width start : Nat} {bytes : List UInt8} (h : start + width ≤ bytes.length)
    (t : List UInt8) :
    field width start (bytes ++ t).toArray = field width start bytes.toArray := by
  rw [field, field, if_pos (by rw [List.size_toArray, List.length_append]; omega),
    if_pos (by rwa [List.size_toArray]), Array.toList_extract, Array.toList_extract]
  simp only [List.extract_eq_take_drop]
  rw [List.drop_append_of_le_length (by omega),
    List.take_append_of_le_length (by rw [List.length_drop]; omega)]

/-- What a reader that succeeds has read first. -/
lemma of_bind_ok {ε α β : Type} {x : Except ε α} {f : α → Except ε β} {b : β}
    (h : (x >>= f) = .ok b) : ∃ a, x = .ok a ∧ f a = .ok b := by
  rcases x with why | a
  · cases h
  · exact ⟨a, rfl, h⟩

/-! ### Casts -/

lemma toNat_ofNat16 {n : Nat} (h : n < 0x10000) : (UInt16.ofNat n).toNat = n := by
  rw [UInt16.toNat_ofNat']
  exact Nat.mod_eq_of_lt h

lemma toNat_ofNat32 {n : Nat} (h : n < 0x100000000) : (UInt32.ofNat n).toNat = n := by
  rw [UInt32.toNat_ofNat']
  exact Nat.mod_eq_of_lt h

end Testbench
