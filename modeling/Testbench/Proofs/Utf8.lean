import Mathlib.Tactic.Lemma
import Testbench.Text.Utf8

/-!
# Reading back UTF-8

What `encode` writes, `decode` reads back, character by character: the bytes of a character are
among those that `decodeFrom` takes for one, and they stand for that character again.  It reads
nothing else, so that bytes which are read as a text are those of the text.  The last part is about
`cap`, which cuts text down to a number of bytes: what it leaves is the longest beginning of the text
that takes no more.
-/

namespace Testbench.Utf8

/-! ### Well-formed sequences -/

section Sequences

variable (index : Nat) (read : List Char) (l : List UInt8) {b₀ b₁ b₂ b₃ : UInt8}

lemma isContinuation_of_le (h : 0x80 ≤ b₀.toNat) (h' : b₀.toNat ≤ 0xbf) :
    isContinuation b₀ = true := by
  simp only [isContinuation, UInt8.le_iff_toNat_le, UInt8.reduceToNat, h, h', decide_true,
    Bool.and_self]

lemma decodeFrom_one (h₀ : b₀.toNat < 0x80) :
    decodeFrom index read (b₀ :: l) = decodeFrom (index + 1) (Char.ofNat b₀.toNat :: read) l := by
  have h : b₀ < 0x80 := UInt8.lt_iff_toNat_lt.mpr h₀
  rw [decodeFrom.eq_def]
  simp only [if_pos h]

lemma decodeFrom_two (h₀ : 0xc2 ≤ b₀.toNat) (h₀' : b₀.toNat < 0xe0)
    (h₁ : isContinuation b₁ = true) :
    decodeFrom index read (b₀ :: b₁ :: l) = decodeFrom (index + 2) (char₂ b₀ b₁ :: read) l := by
  rw [decodeFrom.eq_def]
  simp only [UInt8.lt_iff_toNat_lt, UInt8.reduceToNat, Bool.or_eq_true, decide_eq_true_eq]
  rw [if_neg (by omega), if_neg (by omega), if_pos h₀', if_pos h₁]

lemma decodeFrom_three (h₀ : 0xe0 ≤ b₀.toNat) (h₀' : b₀.toNat < 0xf0)
    (h₁ : isSecondOfThree b₀ b₁ = true) (h₂ : isContinuation b₂ = true) :
    decodeFrom index read (b₀ :: b₁ :: b₂ :: l) =
      decodeFrom (index + 3) (char₃ b₀ b₁ b₂ :: read) l := by
  rw [decodeFrom.eq_def]
  simp only [UInt8.lt_iff_toNat_lt, UInt8.reduceToNat, Bool.or_eq_true, decide_eq_true_eq, h₁, h₂]
  rw [if_neg (by omega), if_neg (by omega), if_neg (by omega), if_pos h₀']
  rfl

lemma decodeFrom_four (h₀ : 0xf0 ≤ b₀.toNat) (h₀' : b₀.toNat ≤ 0xf4)
    (h₁ : isSecondOfFour b₀ b₁ = true) (h₂ : isContinuation b₂ = true)
    (h₃ : isContinuation b₃ = true) :
    decodeFrom index read (b₀ :: b₁ :: b₂ :: b₃ :: l) =
      decodeFrom (index + 4) (char₄ b₀ b₁ b₂ b₃ :: read) l := by
  rw [decodeFrom.eq_def]
  simp only [UInt8.lt_iff_toNat_lt, UInt8.reduceToNat, Bool.or_eq_true, decide_eq_true_eq, h₁, h₂,
    h₃]
  rw [if_neg (by omega), if_neg (by omega), if_neg (by omega), if_neg (by omega)]
  rfl

end Sequences

/-! ### One character -/

/-- The code point of a character is no surrogate and no larger than the last one. -/
lemma codePoint_bounds (c : Char) :
    (c.val.toNat < 0xd800 ∨ 0xdfff < c.val.toNat) ∧ c.val.toNat < 0x110000 := by
  rcases c.valid with h | ⟨h, h'⟩
  · exact ⟨Or.inl h, Nat.lt_trans h (by decide)⟩
  · exact ⟨Or.inr h, h'⟩

/-- A number that is the code point of a character stands for it. -/
lemma ofNat_codePoint {c : Char} {n : Nat} (h : n = c.val.toNat) : Char.ofNat n = c := by
  rw [h]
  exact Char.ofNat_toNat c

/-- The lowest byte of a small number is the number. -/
lemma toNat_ofNat {n : Nat} (h : n < 0x100) : (UInt8.ofNat n).toNat = n := by
  rw [UInt8.toNat_ofNat']
  exact Nat.mod_eq_of_lt h

lemma isContinuation_ofNat (n : Nat) : isContinuation (UInt8.ofNat (n % 64 + 0x80)) = true := by
  have h : (UInt8.ofNat (n % 64 + 0x80)).toNat = n % 64 + 0x80 := toNat_ofNat (by omega)
  exact isContinuation_of_le (by omega) (by omega)

lemma low_ofNat (n : Nat) : low (UInt8.ofNat (n % 64 + 0x80)) = n % 64 := by
  rw [low, toNat_ofNat (by omega)]
  omega

/-- The first two of three bytes exclude what is written in fewer bytes, and surrogates. -/
lemma isSecondOfThree_ofNat {v : Nat} (hs : v < 0xd800 ∨ 0xdfff < v) (h : 0x7ff < v)
    (h' : v ≤ 0xffff) : isSecondOfThree (UInt8.ofNat (v / 4096 % 16 + 224))
      (UInt8.ofNat (v / 64 % 64 + 128)) = true := by
  have h₀ : (UInt8.ofNat (v / 4096 % 16 + 224)).toNat = v / 4096 % 16 + 224 :=
    toNat_ofNat (by omega)
  have h₁ : (UInt8.ofNat (v / 64 % 64 + 128)).toNat = v / 64 % 64 + 128 := toNat_ofNat (by omega)
  simp only [isSecondOfThree, isContinuation_ofNat, UInt8.lt_iff_toNat_lt, h₀, h₁,
    UInt8.reduceToNat, Bool.true_and, Bool.and_eq_true, Bool.not_eq_true',
    Bool.and_eq_false_iff, beq_eq_false_iff_ne, ne_eq, ← UInt8.toNat_inj,
    decide_eq_false_iff_not]
  omega

/-- The first two of four bytes exclude what is written in fewer bytes, and too large numbers. -/
lemma isSecondOfFour_ofNat {v : Nat} (h : 0xffff < v) (h' : v < 0x110000) :
    isSecondOfFour (UInt8.ofNat (v / 262144 % 8 + 240))
      (UInt8.ofNat (v / 4096 % 64 + 128)) = true := by
  have h₀ : (UInt8.ofNat (v / 262144 % 8 + 240)).toNat = v / 262144 % 8 + 240 :=
    toNat_ofNat (by omega)
  have h₁ : (UInt8.ofNat (v / 4096 % 64 + 128)).toNat = v / 4096 % 64 + 128 :=
    toNat_ofNat (by omega)
  simp only [isSecondOfFour, isContinuation_ofNat, UInt8.lt_iff_toNat_lt, h₀, h₁,
    UInt8.reduceToNat, Bool.true_and, Bool.and_eq_true, Bool.not_eq_true',
    Bool.and_eq_false_iff, beq_eq_false_iff_ne, ne_eq, ← UInt8.toNat_inj,
    decide_eq_false_iff_not]
  omega

/-- The bytes of a character are read as that character, whatever follows them. -/
lemma decodeFrom_encodeChar (index : Nat) (read : List Char) (c : Char) (l : List UInt8) :
    decodeFrom index read (String.utf8EncodeChar c ++ l) =
      decodeFrom (index + c.utf8Size) (c :: read) l := by
  obtain ⟨hs, hl⟩ := codePoint_bounds c
  rw [← String.length_utf8EncodeChar c]
  simp only [String.utf8EncodeChar]
  generalize hv : c.val.toNat = v at hs hl
  -- one case for every length that the sequence can have; its bytes are the digits of `v`
  split
  · -- one byte
    next h₁ =>
    have h₀ : (UInt8.ofNat v).toNat = v := toNat_ofNat (by omega)
    rw [List.singleton_append, decodeFrom_one _ _ _ (by omega), h₀, ofNat_codePoint hv.symm]
    rfl
  · split
    · -- two bytes
      next h₁ h₂ =>
      have h₀ : (UInt8.ofNat (v / 64 % 32 + 192)).toNat = v / 64 % 32 + 192 :=
        toNat_ofNat (by omega)
      have hc : char₂ (UInt8.ofNat (v / 64 % 32 + 192)) (UInt8.ofNat (v % 64 + 128)) = c := by
        rw [char₂, low_ofNat, h₀]
        exact ofNat_codePoint (by omega)
      simp only [List.cons_append, List.nil_append]
      rw [decodeFrom_two _ _ _ (by omega) (by omega) (isContinuation_ofNat v), hc]
      rfl
    · split
      · -- three bytes
        next h₁ h₂ h₃ =>
        have h₀ : (UInt8.ofNat (v / 4096 % 16 + 224)).toNat = v / 4096 % 16 + 224 :=
          toNat_ofNat (by omega)
        have hc : char₃ (UInt8.ofNat (v / 4096 % 16 + 224)) (UInt8.ofNat (v / 64 % 64 + 128))
            (UInt8.ofNat (v % 64 + 128)) = c := by
          rw [char₃, low_ofNat, low_ofNat, h₀]
          exact ofNat_codePoint (by omega)
        have hsecond := isSecondOfThree_ofNat hs (by omega) (by omega)
        simp only [List.cons_append, List.nil_append]
        rw [decodeFrom_three _ _ _ (by omega) (by omega) hsecond (isContinuation_ofNat v), hc]
        rfl
      · -- four bytes
        next h₁ h₂ h₃ =>
        have h₀ : (UInt8.ofNat (v / 262144 % 8 + 240)).toNat = v / 262144 % 8 + 240 :=
          toNat_ofNat (by omega)
        have hc : char₄ (UInt8.ofNat (v / 262144 % 8 + 240)) (UInt8.ofNat (v / 4096 % 64 + 128))
            (UInt8.ofNat (v / 64 % 64 + 128)) (UInt8.ofNat (v % 64 + 128)) = c := by
          rw [char₄, low_ofNat, low_ofNat, low_ofNat, h₀]
          exact ofNat_codePoint (by omega)
        have hsecond := isSecondOfFour_ofNat (by omega) hl
        simp only [List.cons_append, List.nil_append]
        rw [decodeFrom_four _ _ _ (by omega) (by omega) hsecond (isContinuation_ofNat _)
          (isContinuation_ofNat v), hc]
        rfl

/-! ### Text -/

lemma encode_nil : encode [] = [] := rfl

lemma encode_cons (c : Char) (cs : List Char) :
    encode (c :: cs) = String.utf8EncodeChar c ++ encode cs := List.flatMap_cons

lemma decodeFrom_encode (cs read : List Char) (index : Nat) :
    decodeFrom index read (encode cs) = .ok (read.reverse ++ cs) := by
  induction cs generalizing index read with
  | nil => rw [encode_nil, decodeFrom, List.append_nil]
  | cons c cs ih =>
    rw [encode_cons, decodeFrom_encodeChar, ih, List.reverse_cons, List.append_assoc,
      List.singleton_append]

/-- Text is read back from its bytes. -/
theorem decode_encode (cs : List Char) : decode (encode cs) = .ok cs := decodeFrom_encode cs [] 0

lemma toString?_encode (cs : List Char) : toString? (encode cs) = .ok (String.ofList cs) := by
  rw [toString?, decode_encode]
  rfl

lemma toString?_ofString (s : String) : toString? (ofString s) = .ok s := by
  rw [ofString, toString?_encode, String.ofList_toList]

@[simp] lemma size_nil : size [] = 0 := rfl

@[simp] lemma size_cons (c : Char) (cs : List Char) : size (c :: cs) = c.utf8Size + size cs := rfl

lemma size_append (p q : List Char) : size (p ++ q) = size p + size q := by
  induction p with
  | nil => rw [List.nil_append, size_nil, Nat.zero_add]
  | cons c p ih => rw [List.cons_append, size_cons, size_cons, ih, Nat.add_assoc]

@[simp] lemma length_encode (cs : List Char) : (encode cs).length = size cs := by
  induction cs with
  | nil => rfl
  | cons c cs ih => rw [encode_cons, List.length_append, String.length_utf8EncodeChar, ih, size_cons]

/-- The bytes of a string are as many as the string says. -/
lemma length_ofString (s : String) : (ofString s).length = s.utf8ByteSize := by
  have h : s.toList.utf8Encode.size = s.toByteArray.size := by rw [String.utf8Encode_toList]
  rwa [List.utf8Encode, List.size_toByteArray] at h

lemma length_le_size (cs : List Char) : cs.length ≤ size cs := by
  induction cs with
  | nil => exact Nat.le_refl 0
  | cons c cs ih =>
    have h := c.utf8Size_pos
    rw [size_cons, List.length_cons]
    omega

/-! ### Nothing but text -/

/-- A number that is a code point is that of the character it stands for. -/
lemma val_ofNat {n : Nat} (h : n.isValidChar) : (Char.ofNat n).val.toNat = n := by
  rw [Char.ofNat, dif_pos h]
  exact UInt32.toNat_ofNatLT

lemma toNat_bounds_of_isContinuation {b : UInt8} (h : isContinuation b = true) :
    0x80 ≤ b.toNat ∧ b.toNat ≤ 0xbf := by
  simpa [isContinuation, UInt8.le_iff_toNat_le] using h

/-- A byte is known by its number. -/
lemma ofNat_eq {n : Nat} (b : UInt8) (h : n = b.toNat) : UInt8.ofNat n = b := by
  rw [h, UInt8.ofNat_toNat]

section

variable {b₀ b₁ b₂ b₃ : UInt8}

lemma encodeChar_one (h₀ : b₀.toNat < 0x80) :
    String.utf8EncodeChar (Char.ofNat b₀.toNat) = [b₀] := by
  have hv := val_ofNat (n := b₀.toNat) (.inl (by omega))
  simp only [String.utf8EncodeChar, hv]
  rw [if_pos (by omega), ofNat_eq b₀ rfl]

lemma encodeChar_two (h₀ : 0xc2 ≤ b₀.toNat) (h₀' : b₀.toNat < 0xe0)
    (h₁ : isContinuation b₁ = true) : String.utf8EncodeChar (char₂ b₀ b₁) = [b₀, b₁] := by
  have hb₁ := toNat_bounds_of_isContinuation h₁
  have hv := val_ofNat (n := b₀.toNat % 32 * 64 + low b₁) (.inl (by rw [low]; omega))
  rw [low] at hv
  simp only [String.utf8EncodeChar, char₂, low, hv]
  rw [if_neg (by omega), if_pos (by omega), ofNat_eq b₀ (by omega), ofNat_eq b₁ (by omega)]

lemma encodeChar_three (h₀ : 0xe0 ≤ b₀.toNat) (h₀' : b₀.toNat < 0xf0)
    (h₁ : isSecondOfThree b₀ b₁ = true) (h₂ : isContinuation b₂ = true) :
    String.utf8EncodeChar (char₃ b₀ b₁ b₂) = [b₀, b₁, b₂] := by
  simp only [isSecondOfThree, Bool.and_eq_true, Bool.not_eq_true', Bool.and_eq_false_iff,
    beq_eq_false_iff_ne, ne_eq, decide_eq_false_iff_not, UInt8.lt_iff_toNat_lt,
    ← UInt8.toNat_inj, UInt8.reduceToNat] at h₁
  obtain ⟨⟨h₁, hshort⟩, hsurrogate⟩ := h₁
  have hb₁ := toNat_bounds_of_isContinuation h₁
  have hb₂ := toNat_bounds_of_isContinuation h₂
  have hv := val_ofNat (n := (b₀.toNat % 16 * 64 + low b₁) * 64 + low b₂)
    (by rw [Nat.isValidChar, low, low]; omega)
  rw [low, low] at hv
  simp only [String.utf8EncodeChar, char₃, low, hv]
  rw [if_neg (by omega), if_neg (by omega), if_pos (by omega), ofNat_eq b₀ (by omega),
    ofNat_eq b₁ (by omega), ofNat_eq b₂ (by omega)]

lemma encodeChar_four (h₀ : 0xf0 ≤ b₀.toNat) (h₀' : b₀.toNat ≤ 0xf4)
    (h₁ : isSecondOfFour b₀ b₁ = true) (h₂ : isContinuation b₂ = true)
    (h₃ : isContinuation b₃ = true) :
    String.utf8EncodeChar (char₄ b₀ b₁ b₂ b₃) = [b₀, b₁, b₂, b₃] := by
  simp only [isSecondOfFour, Bool.and_eq_true, Bool.not_eq_true', Bool.and_eq_false_iff,
    beq_eq_false_iff_ne, ne_eq, decide_eq_false_iff_not, UInt8.lt_iff_toNat_lt,
    ← UInt8.toNat_inj, UInt8.reduceToNat] at h₁
  obtain ⟨⟨h₁, hshort⟩, hlast⟩ := h₁
  have hb₁ := toNat_bounds_of_isContinuation h₁
  have hb₂ := toNat_bounds_of_isContinuation h₂
  have hb₃ := toNat_bounds_of_isContinuation h₃
  have hv := val_ofNat (n := ((b₀.toNat % 8 * 64 + low b₁) * 64 + low b₂) * 64 + low b₃)
    (by rw [Nat.isValidChar, low, low, low]; omega)
  rw [low, low, low] at hv
  simp only [String.utf8EncodeChar, char₄, low, hv]
  rw [if_neg (by omega), if_neg (by omega), if_neg (by omega), ofNat_eq b₀ (by omega),
    ofNat_eq b₁ (by omega), ofNat_eq b₂ (by omega), ofNat_eq b₃ (by omega)]

end

/-- A sequence that is read as a character is that of the character. -/
lemma encode_reverse_cons {c : Char} {read cs : List Char} {sequence rest : List UInt8}
    (hc : String.utf8EncodeChar c = sequence)
    (h : encode cs = encode (c :: read).reverse ++ rest) :
    encode cs = encode read.reverse ++ (sequence ++ rest) := by
  rw [h, List.reverse_cons, encode, List.flatMap_append, ← encode, List.flatMap_singleton, hc,
    List.append_assoc]

lemma lead_bounds {b : UInt8} (h : ¬ (decide (b < 0xc2) || decide (0xf4 < b)) = true) :
    0xc2 ≤ b.toNat ∧ b.toNat ≤ 0xf4 := by
  simpa [UInt8.lt_iff_toNat_lt] using h

/-- Bytes are read as text only if they are those of the text. -/
lemma encode_decodeFrom {index : Nat} {read cs : List Char} {l : List UInt8}
    (h : decodeFrom index read l = .ok cs) : encode cs = encode read.reverse ++ l := by
  -- along the reading, which goes on after a sequence of one to four bytes and else fails
  fun_induction decodeFrom index read l with
  | case1 =>
    obtain rfl := Except.ok.inj h
    rw [List.append_nil]
  | case2 index read b₀ rest h₀ ih =>
    exact encode_reverse_cons (encodeChar_one (UInt8.lt_iff_toNat_lt.mp h₀)) (ih h)
  | case5 index read b₀ h₀ hlead b₁ rest hless hb₁ ih =>
    exact encode_reverse_cons
      (encodeChar_two (lead_bounds hlead).1 (UInt8.lt_iff_toNat_lt.mp hless) hb₁) (ih h)
  | case9 index read b₀ h₀ hlead b₁ hmore hless hb₁ b₂ rest hb₂ ih =>
    exact encode_reverse_cons (encodeChar_three (UInt8.le_iff_toNat_le.mp (UInt8.not_lt.mp hmore))
      (UInt8.lt_iff_toNat_lt.mp hless) (by simpa using hb₁) hb₂) (ih h)
  | case15 index read b₀ h₀ hlead b₁ hmore hmore' hb₁ b₂ hb₂ b₃ rest hb₃ ih =>
    exact encode_reverse_cons (encodeChar_four (UInt8.le_iff_toNat_le.mp (UInt8.not_lt.mp hmore'))
      (lead_bounds hlead).2 (by simpa using hb₁) (by simpa using hb₂) hb₃) (ih h)
  | _ => cases h

/-- A string is read from its own bytes and from no others. -/
lemma ofString_of_toString? {l : List UInt8} {s : String} (h : toString? l = .ok s) :
    ofString s = l := by
  rw [toString?] at h
  rcases hcs : decode l with why | cs
  · rw [hcs] at h
    cases h
  · rw [hcs] at h
    obtain rfl := Except.ok.inj h
    have := encode_decodeFrom hcs
    rw [ofString, String.toList_ofList, this]
    rfl

/-! ### Cutting text down -/

/-- `p` is the longest beginning of `cs` that takes at most `limit` bytes: it is one, and every
other one is a beginning of it. -/
structure IsCap (limit : Nat) (cs p : List Char) : Prop where
  isPrefix : p <+: cs
  size_le : size p ≤ limit
  longest : ∀ q, q <+: cs → size q ≤ limit → q <+: p

lemma capFrom_eq (limit : Nat) (taken cs : List Char) :
    capFrom limit taken cs = taken.reverse ++ cap limit cs := by
  induction cs generalizing limit taken with
  | nil => simp only [cap, capFrom, List.reverse_nil, List.append_nil]
  | cons c cs ih =>
    simp only [cap, capFrom]
    split
    · rw [ih, ih _ [c], List.reverse_cons, List.append_assoc, List.reverse_singleton]
    · rw [List.reverse_nil, List.append_nil]

lemma cap_cons (limit : Nat) (c : Char) (cs : List Char) :
    cap limit (c :: cs) =
      if c.utf8Size ≤ limit then c :: cap (limit - c.utf8Size) cs else [] := by
  rw [cap, capFrom]
  split
  · rw [capFrom_eq, List.reverse_singleton, List.singleton_append]
  · rfl

/-- What `cap` leaves of a text is its longest beginning of that size. -/
theorem isCap_cap (limit : Nat) (cs : List Char) : IsCap limit cs (cap limit cs) := by
  induction cs generalizing limit with
  | nil => exact ⟨List.nil_prefix, Nat.zero_le _, fun q hq _ => hq⟩
  | cons c cs ih =>
    rw [cap_cons]
    split
    · -- the character fits, and every longest beginning starts with it
      next hc =>
      obtain ⟨hp, hs, hlong⟩ := ih (limit - c.utf8Size)
      refine ⟨List.cons_prefix_cons.mpr ⟨rfl, hp⟩, ?_, ?_⟩
      · rw [size_cons]
        omega
      · intro q hq hqs
        rcases List.prefix_cons_iff.mp hq with rfl | ⟨q', rfl, hq'⟩
        · exact List.nil_prefix
        · rw [size_cons] at hqs
          exact List.cons_prefix_cons.mpr ⟨rfl, hlong q' hq' (by omega)⟩
    · -- the character does not fit, so that nothing does but the empty beginning
      next hc =>
      refine ⟨List.nil_prefix, Nat.zero_le _, ?_⟩
      intro q hq hqs
      rcases List.prefix_cons_iff.mp hq with rfl | ⟨q', rfl, -⟩
      · exact List.nil_prefix
      · rw [size_cons] at hqs
        omega

/-- There is one longest beginning of a size. -/
lemma IsCap.eq_cap {limit : Nat} {cs p : List Char} (h : IsCap limit cs p) : p = cap limit cs := by
  obtain ⟨hp, hs, hlong⟩ := isCap_cap limit cs
  exact (hlong p h.isPrefix h.size_le).eq_of_length_le (h.longest _ hp hs).length_le

lemma size_cap_le (limit : Nat) (cs : List Char) : size (cap limit cs) ≤ limit :=
  (isCap_cap limit cs).size_le

/-- A beginning that takes all the bytes there are is the longest. -/
lemma isCap_of_size_eq {limit : Nat} {p : List Char} (h : size p = limit) (r : List Char) :
    IsCap limit (p ++ r) p := by
  refine ⟨List.prefix_append p r, Nat.le_of_eq h, fun q hq hsize => ?_⟩
  rcases List.prefix_or_prefix_of_prefix hq (List.prefix_append p r) with hqp | ⟨t, rfl⟩
  · exact hqp
  · -- what goes on behind it takes no byte, so that there is nothing
    have ht := length_le_size t
    rw [size_append] at hsize
    obtain rfl : t = [] := List.eq_nil_of_length_eq_zero (by omega)
    simp

/-- Text that fits is left as it is. -/
lemma cap_of_size_le {limit : Nat} {cs : List Char} (h : size cs ≤ limit) :
    cap limit cs = cs := by
  obtain ⟨hp, -, hlong⟩ := isCap_cap limit cs
  exact hp.eq_of_length_le (hlong cs List.prefix_rfl h).length_le

end Testbench.Utf8
