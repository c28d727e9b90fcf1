import Mathlib.Data.List.Forall2
import Testbench.Proofs.Bytes
import Testbench.Proofs.Record.Kept

/-!
# Reading back event records

A record is its words, then the references to its texts, then the texts themselves.  The references
are right as soon as the record is shorter than an offset reaches, which it always is, and every
reader finds what it looks for at a fixed distance from the start.  So `decode` gives back, from the
record of an event and whatever follows it, the event that a record keeps and the size of the
record.
-/

namespace Testbench.Record

/-! ### References -/

/-- Where some texts that lie back to back from `start` on begin and how long they are, as numbers
of any size; an empty text lies nowhere, at zero. -/
def spans (start : Nat) : List (List UInt8) → List (Nat × Nat)
  | [] => []
  | t :: ts => (if t.isEmpty then (0, 0) else (start, t.length)) :: spans (start + t.length) ts

/-- The numbers in a reference. -/
def TextRef.span (r : TextRef) : Nat × Nat := (r.offset.toNat, r.length.toNat)

/-- As long as the texts end before the reach of an offset, the references are as they should be. -/
lemma map_span_place {start : Nat} {ts : List (List UInt8)}
    (h : start + ts.flatten.length < 0x100000000) :
    (place start ts).map TextRef.span = spans start ts := by
  induction ts generalizing start with
  | nil => rfl
  | cons t ts ih =>
    rw [List.flatten_cons, List.length_append] at h
    rw [place, spans, List.map_cons, ih (by omega)]
    congr 1
    split
    · rfl
    · rw [TextRef.span, toNat_ofNat32 (by omega), toNat_ofNat32 (by omega)]

@[simp] lemma length_place (start : Nat) (ts : List (List UInt8)) :
    (place start ts).length = ts.length := by
  induction ts generalizing start with
  | nil => rfl
  | cons t ts ih => rw [place, List.length_cons, List.length_cons, ih]

/-- A reference that is right: the text is found where it points to. -/
structure TextRef.Holds (r : TextRef) (record text : List UInt8) : Prop where
  lies : Lies text r.offset.toNat record
  length_eq : r.length.toNat = text.length

/-- Each of some texts that lie back to back in a record is where its reference says. -/
lemma place_holds {record : List UInt8} {start : Nat} {ts : List (List UInt8)}
    (h : start + ts.flatten.length < 0x100000000) (hts : Lies ts.flatten start record) :
    List.Forall₂ (fun r t => r.Holds record t) (place start ts) ts := by
  induction ts generalizing start with
  | nil => exact .nil
  | cons t ts ih =>
    rw [List.flatten_cons] at h hts
    rw [List.length_append] at h
    refine .cons ?_ (ih (by omega) hts.right)
    split
    · -- an empty text is found anywhere
      next ht =>
      obtain rfl := List.isEmpty_iff.mp ht
      exact ⟨.prefix_append [] record, rfl⟩
    · refine ⟨?_, toNat_ofNat32 (by omega)⟩
      rw [toNat_ofNat32 (by omega)]
      exact hts.left

/-! ### The parts of a record -/

/-- The words of a record before its references. -/
def words (e : Event) : List UInt8 :=
  le32 e.kind.code ++ (le32 (UInt32.ofNat (padded (unpaddedSize e)))
    ++ (le32 (leadWord e.detail) ++ le32 (UInt32.ofNat (writtenFrames e))))

/-- The references of a record. -/
def refs (e : Event) : List TextRef := place (fixedSize (texts e.detail).length) (pieces e)

/-- The zeros at the end of a record. -/
def padding (e : Event) : List UInt8 :=
  List.replicate (padded (unpaddedSize e) - unpaddedSize e) 0

lemma encode_eq (e : Event) :
    encode e = words e ++ ((refs e).flatMap TextRef.bytes ++ ((pieces e).flatten ++ padding e)) := by
  simp only [encode, words, refs, padding, List.append_assoc]

@[simp] lemma length_words (e : Event) : (words e).length = 16 := rfl

@[simp] lemma length_flatMap_bytes (rs : List TextRef) :
    (rs.flatMap TextRef.bytes).length = 8 * rs.length := by
  induction rs with
  | nil => rfl
  | cons r rs ih =>
    rw [List.flatMap_cons, List.length_append, ih, List.length_cons]
    simp only [TextRef.bytes, List.length_append, length_le32]
    omega

@[simp] lemma length_pieces (e : Event) : (pieces e).length = (texts e.detail).length + 1 := by
  simp only [pieces, List.length_append, List.length_map, List.length_singleton]

@[simp] lemma length_refs (e : Event) : (refs e).length = (texts e.detail).length + 1 := by
  rw [refs, length_place, length_pieces]

lemma le_padded (n : Nat) : n ≤ padded n := by
  rw [padded, alignment]
  omega

lemma padded_le (n : Nat) : padded n ≤ n + 7 := by
  rw [padded, alignment]
  omega

lemma padded_mod (n : Nat) : padded n % alignment = 0 := Nat.mul_mod_left _ _

lemma length_encode (e : Event) : (encode e).length = padded (unpaddedSize e) := by
  have h := le_padded (unpaddedSize e)
  rw [encode_eq]
  simp only [List.length_append, length_words, length_flatMap_bytes, length_refs, padding,
    List.length_replicate]
  rw [unpaddedSize, fixedSize] at h ⊢
  omega

lemma length_piece_le {e : Event} {p : List UInt8} (h : p ∈ pieces e) : p.length ≤ maxText := by
  simp only [pieces, List.mem_append, List.mem_map, List.mem_singleton] at h
  rcases h with ⟨s, -, rfl⟩ | rfl
  · rw [Utf8.length_encode]
    exact Utf8.size_cap_le _ _
  · -- the last text is that of the stack, empty if there is none
    rw [Utf8.length_encode, stackOf]
    split
    · exact Nat.zero_le _
    · exact Utf8.size_cap_le _ _

lemma length_flatten_le {ps : List (List UInt8)} (h : ∀ p ∈ ps, p.length ≤ maxText) :
    ps.flatten.length ≤ maxText * ps.length := by
  induction ps with
  | nil => exact Nat.le_refl 0
  | cons p ps ih =>
    have hp := h p List.mem_cons_self
    have hps := ih fun q hq => h q (List.mem_cons_of_mem p hq)
    rw [List.flatten_cons, List.length_append, List.length_cons, Nat.mul_succ]
    omega

lemma length_texts_le (d : Event.Detail) : (texts d).length ≤ 3 := by
  cases d <;> simp [texts]

/-- Every record is far shorter than an offset reaches. -/
lemma unpaddedSize_lt (e : Event) : unpaddedSize e < 0x100000 := by
  have h := length_flatten_le fun p => length_piece_le (e := e) (p := p)
  have ht := length_texts_le e.detail
  -- four texts of `maxText` bytes at most
  rw [length_pieces, maxText] at h
  rw [unpaddedSize, fixedSize]
  omega

lemma length_encode_lt (e : Event) : (encode e).length < 0x100000000 := by
  have h := padded_le (unpaddedSize e)
  have h' := unpaddedSize_lt e
  rw [length_encode]
  omega

/-! ### Reading the parts -/

lemma lies_words (e : Event) : Lies (words e) 0 (encode e) :=
  ⟨[], _, encode_eq e, rfl⟩

lemma lies_refs (e : Event) : Lies ((refs e).flatMap TextRef.bytes) 16 (encode e) :=
  ⟨words e, _, encode_eq e, length_words e⟩

lemma lies_pieces (e : Event) :
    Lies (pieces e).flatten (fixedSize (texts e.detail).length) (encode e) := by
  refine ⟨words e ++ (refs e).flatMap TextRef.bytes, padding e, ?_, ?_⟩
  · rw [encode_eq, List.append_assoc]
  · rw [List.length_append, length_words, length_flatMap_bytes, length_refs]
    rfl

lemma readWord_eq {l : List UInt8} {start : Nat} {w : UInt32} (h : Lies (le32 w) start l) :
    readWord l.toArray start = .ok w := by
  rw [readWord, h.word32_eq]

lemma readWord_size (e : Event) :
    readWord (encode e).toArray 4 = .ok (UInt32.ofNat (padded (unpaddedSize e))) :=
  readWord_eq (lies_words e).right.left

lemma readWord_lead (e : Event) : readWord (encode e).toArray 8 = .ok (leadWord e.detail) :=
  readWord_eq (lies_words e).right.right.left

lemma readWord_frames (e : Event) :
    readWord (encode e).toArray 12 = .ok (UInt32.ofNat (writtenFrames e)) :=
  readWord_eq (lies_words e).right.right.right

/-- The bytes of references that lie back to back are found one by one. -/
lemma lies_ref {l : List UInt8} {start i : Nat} {rs : List TextRef} {r : TextRef}
    (h : Lies (rs.flatMap TextRef.bytes) start l) (hr : rs[i]? = some r) :
    Lies r.bytes (start + 8 * i) l := by
  induction rs generalizing start i with
  | nil => simp at hr
  | cons q rs ih =>
    rw [List.flatMap_cons] at h
    cases i with
    | zero =>
      obtain rfl : q = r := by simpa using hr
      exact h.left
    | succ i =>
      have hi := ih h.right (by simpa using hr)
      rwa [show start + q.bytes.length + 8 * i = start + 8 * (i + 1) by
        simp only [TextRef.bytes, List.length_append, length_le32]; omega] at hi

/-- The references of a record are read back by their number. -/
lemma readRef_eq {e : Event} {i : Nat} {r : TextRef} (hr : (refs e)[i]? = some r) :
    readRef (encode e).toArray i = .ok r := by
  have h := lies_ref (lies_refs e) hr
  have ho : readWord (encode e).toArray (16 + 8 * i) = .ok r.offset := readWord_eq h.left
  have hl := h.right
  rw [length_le32, Nat.add_right_comm] at hl
  have hn : readWord (encode e).toArray (20 + 8 * i) = .ok r.length := readWord_eq hl
  rw [readRef, ho, hn]
  rfl

/-- A text is read back through a reference that is right. -/
lemma readText_eq {record : List UInt8} {r : TextRef} {cs : List Char}
    (h : r.Holds record (Utf8.encode cs)) :
    readText record.toArray r = .ok (String.ofList cs) := by
  obtain ⟨hlies, hlen⟩ := h
  have hstop := hlies.stop_le
  simp only [readText, List.size_toArray, Array.toList_extract, hlen]
  rw [if_neg (by omega), hlies.extract_eq, Utf8.toString?_encode]

/-- The references of a record are right. -/
lemma refs_holds (e : Event) :
    List.Forall₂ (fun r t => r.Holds (encode e) t) (refs e) (pieces e) :=
  place_holds (Nat.lt_trans (unpaddedSize_lt e) (by decide)) (lies_pieces e)

/-! ### Reading events -/

lemma frameCount_le {text : List Char} (h : Utf8.size text ≤ maxText) :
    frameCount text ≤ maxText + 1 := by
  have h₁ := length_lines_le text
  have h₂ := Utf8.length_le_size text
  have h₃ : frameCount text ≤ (lines text).length := List.countP_le_length
  omega

lemma size_stackText_le (t : StackTrace) : Utf8.size (stackText t) ≤ maxText :=
  Utf8.size_cap_le _ _

/-- The stack of an event is read back through a reference that is right. -/
lemma readStack_eq {e : Event} {r : TextRef} (h : r.Holds (encode e) (Utf8.encode (stackOf e))) :
    readStack (encode e).toArray r (UInt32.ofNat (writtenFrames e)) = .ok (keptStack e.stack) := by
  have ht := readText_eq h
  rw [readStack, ht]
  rcases hs : e.stack with - | t
  · simp only [writtenFrames, hs]
    rfl
  · have hlt : frameCount (stackText t) < 0x100000000 :=
      Nat.lt_of_le_of_lt (frameCount_le (size_stackText_le t)) (by decide)
    -- the count of the frames is not taken for zero where it is not
    have hz : UInt32.ofNat (frameCount (stackText t)) = 0 ↔ frameCount (stackText t) = 0 := by
      rw [← UInt32.toNat_inj, toNat_ofNat32 hlt]
      rfl
    simp only [writtenFrames, stackOf, hs, keptStack, hz]
    split
    · rfl
    · simp only [Except.map, String.toList_ofList]

lemma ofCode?_code (k : EventKind) : EventKind.ofCode? k.code = .ok k := by
  cases k <;> rfl

/-- A record with one text is read as a message. -/
lemma readMessage_eq {e : Event} {s : String} (detail : String → Event.Detail)
    (ht : texts e.detail = [s]) :
    readMessage detail (encode e).toArray = .ok ⟨detail (keptText s), keptStack e.stack⟩ := by
  have hp : pieces e = [Utf8.encode (capped s), Utf8.encode (stackOf e)] := by
    rw [pieces, ht]
    rfl
  -- there are as many references as texts, and they are read in the same order
  have h := refs_holds e
  rw [hp] at h
  obtain ⟨r₀, l, h₀, hl, hr⟩ := List.forall₂_cons_right_iff.mp h
  obtain ⟨r₁, l', h₁, hl', rfl⟩ := List.forall₂_cons_right_iff.mp hl
  obtain rfl := List.forall₂_nil_right_iff.mp hl'
  have href₀ : readRef (encode e).toArray 0 = .ok r₀ := readRef_eq (by rw [hr]; rfl)
  have href₁ : readRef (encode e).toArray 1 = .ok r₁ := readRef_eq (by rw [hr]; rfl)
  rw [readMessage, readWord_frames, href₀, href₁]
  simp only [bind, Except.bind, readText_eq h₀, readStack_eq h₁]
  rfl

/-- The record of an assertion is read as an assertion. -/
lemma readAssertion_eq {e : Event} {file routine expression : String} {line : UInt32}
    (hd : e.detail = .failedAssertion file routine line expression) :
    readAssertion (encode e).toArray = .ok ⟨.failedAssertion (keptText file) (keptText routine) line
      (keptText expression), keptStack e.stack⟩ := by
  have hp : pieces e = [Utf8.encode (capped file), Utf8.encode (capped routine),
      Utf8.encode (capped expression), Utf8.encode (stackOf e)] := by
    rw [pieces, hd]
    rfl
  have h := refs_holds e
  rw [hp] at h
  obtain ⟨r₀, l, h₀, hl, hr⟩ := List.forall₂_cons_right_iff.mp h
  obtain ⟨r₁, l₁, h₁, hl₁, rfl⟩ := List.forall₂_cons_right_iff.mp hl
  obtain ⟨r₂, l₂, h₂, hl₂, rfl⟩ := List.forall₂_cons_right_iff.mp hl₁
  obtain ⟨r₃, l₃, h₃, hl₃, rfl⟩ := List.forall₂_cons_right_iff.mp hl₂
  obtain rfl := List.forall₂_nil_right_iff.mp hl₃
  have href₀ : readRef (encode e).toArray 0 = .ok r₀ := readRef_eq (by rw [hr]; rfl)
  have href₁ : readRef (encode e).toArray 1 = .ok r₁ := readRef_eq (by rw [hr]; rfl)
  have href₂ : readRef (encode e).toArray 2 = .ok r₂ := readRef_eq (by rw [hr]; rfl)
  have href₃ : readRef (encode e).toArray 3 = .ok r₃ := readRef_eq (by rw [hr]; rfl)
  rw [readAssertion, readWord_lead, readWord_frames, href₀, href₁, href₂, href₃, hd]
  simp only [bind, Except.bind, readText_eq h₀, readText_eq h₁, readText_eq h₂, readStack_eq h₃]
  rfl

/-- The whole record of an event is read as the event that it keeps. -/
lemma readEvent_encode (e : Event) : readEvent e.kind.code (encode e).toArray = .ok (kept e) := by
  rw [readEvent, ofCode?_code]
  cases hd : e.detail with
  | failedAssertion file routine line expression =>
    simp only [Event.kind, hd, kept, keptDetail]
    exact readAssertion_eq hd
  | uncaughtException message =>
    simp only [Event.kind, hd, kept, keptDetail]
    exact readMessage_eq _ (by rw [hd]; rfl)
  | inconclusiveness message =>
    simp only [Event.kind, hd, kept, keptDetail]
    exact readMessage_eq _ (by rw [hd]; rfl)
  | log message =>
    simp only [Event.kind, hd, kept, keptDetail]
    exact readMessage_eq _ (by rw [hd]; rfl)

/-! ### Reading records -/

/-- The word that says how long a record is. -/
lemma toNat_sizeWord (e : Event) :
    (UInt32.ofNat (padded (unpaddedSize e))).toNat = (encode e).length := by
  rw [length_encode, toNat_ofNat32]
  rw [← length_encode]
  exact length_encode_lt e

/-- A record is read from the start of some bytes, whatever follows it: as the event it keeps. -/
theorem decode_encode_append (e : Event) (t : List UInt8) :
    decode (encode e ++ t) = .ok (kept e, (encode e).length) := by
  have hmin := (lies_words e).stop_le
  rw [length_words] at hmin
  have hmod : (encode e).length % alignment = 0 := by
    rw [length_encode]
    exact padded_mod _
  -- the two words that are read first make up the first eight bytes
  have hhead : (encode e ++ t).take 8
      = le32 e.kind.code ++ le32 (UInt32.ofNat (padded (unpaddedSize e))) := by
    rw [encode_eq]
    rfl
  have hlies := Lies.self (le32 e.kind.code ++ le32 (UInt32.ofNat (padded (unpaddedSize e))))
  have hcode := readWord_eq hlies.left
  have hsize := readWord_eq hlies.right
  rw [length_le32, Nat.zero_add] at hsize
  simp only [decode, hhead, hcode, hsize, bind, Except.bind, toNat_sizeWord, hmod]
  rw [if_neg (by simp only [List.length_append]; omega), List.take_left, readEvent_encode]
  rfl

/-- The spans of the texts are what the references of a record hold. -/
lemma map_span_refs (e : Event) :
    (refs e).map TextRef.span = spans (fixedSize (texts e.detail).length) (pieces e) :=
  map_span_place (Nat.lt_trans (unpaddedSize_lt e) (by decide))

lemma readRef_span {e : Event} {i : Nat} {s : Nat × Nat}
    (hs : (spans (fixedSize (texts e.detail).length) (pieces e))[i]? = some s) :
    ∃ r, readRef (encode e).toArray i = .ok r ∧ r.span = s := by
  rw [← map_span_refs, List.getElem?_map, Option.map_eq_some_iff] at hs
  obtain ⟨r, hr, hrs⟩ := hs
  exact ⟨r, readRef_eq hr, hrs⟩

/-- Every event comes back from its record as the event that a record keeps, whatever bytes follow
the record, and reading takes exactly the record.  The size of the record, a multiple of the
alignment, stands in it, and so do the positions and the lengths of its texts, none of them changed
by the width of a word. -/
theorem decode_encode_keeps (e : Event) (t : List UInt8) :
    (∀ k n, decode (encode e ++ t) = .ok (k, n) ↔ Keeps e k ∧ n = (encode e).length) ∧
    (∃ k, Keeps e k) ∧
    (encode e).length % alignment = 0 ∧
    (∃ w, readWord (encode e).toArray 4 = .ok w ∧ w.toNat = (encode e).length) ∧
    ∀ i s, (spans (fixedSize (texts e.detail).length) (pieces e))[i]? = some s →
      ∃ r, readRef (encode e).toArray i = .ok r ∧ (r.offset.toNat, r.length.toNat) = s := by
  refine ⟨?_, ⟨kept e, keeps_kept e⟩, ?_, ?_, fun i s hs => readRef_span hs⟩
  · -- what is read is the one event that a record keeps
    intro k n
    rw [decode_encode_append, Except.ok.injEq, Prod.mk.injEq]
    constructor
    · rintro ⟨rfl, rfl⟩
      exact ⟨keeps_kept e, rfl⟩
    · rintro ⟨hk, rfl⟩
      exact ⟨hk.eq_kept.symm, rfl⟩
  · rw [length_encode]
    exact padded_mod _
  · exact ⟨_, readWord_size e, toNat_sizeWord e⟩

end Testbench.Record
