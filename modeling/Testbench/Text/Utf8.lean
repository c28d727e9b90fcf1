import Testbench.Text.Cause

/-!
# UTF-8

Text travels between the two sides of a driver as UTF-8. `encode` writes it; `decode` reads it and,
where the bytes are no UTF-8, says where the first malformed sequence starts and how many of its
bytes are the beginning of some well-formed sequence.
-/

namespace Testbench.Utf8

/-- The bytes of some text. -/
def encode (cs : List Char) : List UInt8 := cs.flatMap String.utf8EncodeChar

/-- The bytes of a string. -/
def ofString (s : String) : List UInt8 := encode s.toList

/-- The number of bytes of some text. -/
def size (cs : List Char) : Nat := cs.foldr (fun c n => c.utf8Size + n) 0

/-- Why some bytes are not UTF-8. -/
inductive DecodeError
  /-- The `length` bytes from `index` on belong to no well-formed sequence. -/
  | invalid (length index : Nat)
  /-- The bytes end inside the sequence that starts at `index`. -/
  | incomplete (index : Nat)
deriving DecidableEq, Repr

instance : Text.Explained DecodeError where
  cause
    | .invalid length index =>
      ⟨"Utf8Error", "invalid utf-8 sequence of " ++ toString length ++ " bytes from index "
        ++ toString index⟩
    | .incomplete index =>
      ⟨"Utf8Error", "incomplete utf-8 byte sequence from index " ++ toString index⟩
  sources _ := []

/-- A byte that continues a sequence. -/
def isContinuation (b : UInt8) : Bool := 0x80 ≤ b && b ≤ 0xbf

/-- A byte that may follow `lead` in a sequence of three: neither an overlong form nor a
surrogate begins with the two. -/
def isSecondOfThree (lead b : UInt8) : Bool :=
  isContinuation b && !(lead == 0xe0 && b < 0xa0) && !(lead == 0xed && 0x9f < b)

/-- A byte that may follow `lead` in a sequence of four: neither an overlong form nor a code point
past the last one begins with the two. -/
def isSecondOfFour (lead b : UInt8) : Bool :=
  isContinuation b && !(lead == 0xf0 && b < 0x90) && !(lead == 0xf4 && 0x8f < b)

/-- The payload bits of a continuation byte. -/
def low (b : UInt8) : Nat := b.toNat % 64

/-- The character of a sequence of two. -/
def char₂ (b₀ b₁ : UInt8) : Char := Char.ofNat (b₀.toNat % 32 * 64 + low b₁)

/-- The character of a sequence of three. -/
def char₃ (b₀ b₁ b₂ : UInt8) : Char := Char.ofNat ((b₀.toNat % 16 * 64 + low b₁) * 64 + low b₂)

/-- The character of a sequence of four. -/
def char₄ (b₀ b₁ b₂ b₃ : UInt8) : Char :=
  Char.ofNat (((b₀.toNat % 8 * 64 + low b₁) * 64 + low b₂) * 64 + low b₃)

/-- Reads on from byte `index`; `read` holds the characters read so far, last first. -/
def decodeFrom (index : Nat) (read : List Char) : List UInt8 → Except DecodeError (List Char)
  | [] => .ok read.reverse
  | b₀ :: rest =>
    if b₀ < 0x80 then decodeFrom (index + 1) (Char.ofNat b₀.toNat :: read) rest
    else if b₀ < 0xc2 || 0xf4 < b₀ then .error (.invalid 1 index)
    else match rest with
      | [] => .error (.incomplete index)
      | b₁ :: rest =>
        if b₀ < 0xe0 then
          if isContinuation b₁ then decodeFrom (index + 2) (char₂ b₀ b₁ :: read) rest
          else .error (.invalid 1 index)
        else if b₀ < 0xf0 then
          if !isSecondOfThree b₀ b₁ then .error (.invalid 1 index)
          else match rest with
            | [] => .error (.incomplete index)
            | b₂ :: rest =>
              if isContinuation b₂ then decodeFrom (index + 3) (char₃ b₀ b₁ b₂ :: read) rest
              else .error (.invalid 2 index)
        else if !isSecondOfFour b₀ b₁ then .error (.invalid 1 index)
        else match rest with
          | [] => .error (.incomplete index)
          | b₂ :: rest =>
            if !isContinuation b₂ then .error (.invalid 2 index)
            else match rest with
              | [] => .error (.incomplete index)
              | b₃ :: rest =>
                if isContinuation b₃ then decodeFrom (index + 4) (char₄ b₀ b₁ b₂ b₃ :: read) rest
                else .error (.invalid 3 index)

/-- Reads bytes that are to be UTF-8 from end to end. -/
def decode (bytes : List UInt8) : Except DecodeError (List Char) := decodeFrom 0 [] bytes

/-- Reads bytes as a string. -/
def toString? (bytes : List UInt8) : Except DecodeError String :=
  (decode bytes).map String.ofList

/-- Goes on taking characters while they fit into `limit` bytes; `taken` holds the characters taken
so far, last first. -/
def capFrom (limit : Nat) (taken : List Char) : List Char → List Char
  | [] => taken.reverse
  | c :: cs =>
    if c.utf8Size ≤ limit then capFrom (limit - c.utf8Size) (c :: taken) cs else taken.reverse

/-- The longest beginning of some text that takes at most `limit` bytes. -/
def cap (limit : Nat) (cs : List Char) : List Char := capFrom limit [] cs

end Testbench.Utf8
