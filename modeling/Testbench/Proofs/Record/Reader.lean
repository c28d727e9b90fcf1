import Testbench.Proofs.Channel
import Testbench.Proofs.Record.Parse

/-!
# Reading records one by one

A reader holds some bytes and where it goes on.  Asked for the next record it parses what is left,
and goes on behind the record, or at the end of the bytes if there is none that can be read.
`reader_exact` says what comes of asking it until it has nothing more to give, for all bytes: what
`readAll` has, one by one.  The records lie back to back, each is what its own bytes say, and of a
beginning of the bytes those are read that lie in it.

The proof goes along the reading as a relation: `Reads` has a constructor for the end, for a record
and for what is none, and a reading is found for all bytes because no record is empty.
-/

namespace Testbench.Record

/-! ### The reader -/

/-- A reader of some bytes. -/
structure Reader where
  /-- All bytes. -/
  buffer : List UInt8
  /-- The position of the next record. -/
  offset : Nat

/-- What a reader gives: a record, or why there is none. -/
abbrev Item : Type := Except DecodeError Placed

/-- What a reading gives one by one. -/
def Reading.items (s : Reading) : List Item := s.records.map .ok ++ s.failure.toList.map .error

namespace Reader

/-- A reader at the start of some bytes. -/
def new (b : List UInt8) : Reader := ⟨b, 0⟩

/-- A reader at the end of some bytes. -/
def finished (b : List UInt8) : Reader := ⟨b, b.length⟩

/-- What a reader gives next, if anything, and the reader after that; there is neither if a slice is
no range. -/
def next (r : Reader) : Option (Option Item × Reader) :=
  if r.buffer.length ≤ r.offset then some (none, r)
  else do
    match ← (slice r.offset r.buffer.length r.buffer >>= parse).run with
    | .ok (event, size) =>
      return (some (.ok ⟨r.offset, size, event⟩), { r with offset := r.offset + size })
    | .error why => return (some (.error why), { r with offset := r.buffer.length })

/-- A reader gives some items, then nothing, and is another reader by then. -/
inductive Yields : Reader → List Item → Reader → Prop
  | done {r r' : Reader} : r.next = some (none, r') → Yields r [] r'
  | more {r r' r'' : Reader} {x : Item} {xs : List Item} :
      r.next = some (some x, r') → Yields r' xs r'' → Yields r (x :: xs) r''

/-- What a reader gives is determined. -/
lemma Yields.unique {r r' r'' : Reader} {xs ys : List Item} (h : Yields r xs r')
    (h' : Yields r ys r'') : xs = ys ∧ r' = r'' := by
  induction h generalizing ys with
  | done hnext =>
    cases h' with
    | done hnext' =>
      obtain ⟨-, rfl⟩ := Prod.mk.inj (Option.some.inj (hnext.symm.trans hnext'))
      exact ⟨rfl, rfl⟩
    | more hnext' _ => exact nomatch hnext.symm.trans hnext'
  | more hnext _ ih =>
    cases h' with
    | done hnext' => exact nomatch hnext.symm.trans hnext'
    | more hnext' hrest =>
      obtain ⟨hx, rfl⟩ := Prod.mk.inj (Option.some.inj (hnext.symm.trans hnext'))
      obtain ⟨rfl, rfl⟩ := ih hrest
      exact ⟨congrArg (· :: _) (Option.some.inj hx), rfl⟩

lemma next_of_le {b : List UInt8} {offset : Nat} (h : b.length ≤ offset) :
    next ⟨b, offset⟩ = some (none, ⟨b, offset⟩) := if_pos h

lemma next_of_lt {b : List UInt8} {offset : Nat} (h : offset < b.length) :
    next ⟨b, offset⟩ = some (match decode (b.drop offset) with
      | .ok (event, size) => (some (.ok ⟨offset, size, event⟩), ⟨b, offset + size⟩)
      | .error why => (some (.error why), finished b)) := by
  have hrest : slice offset b.length b >>= parse = .ofExcept (decode (b.drop offset)) := by
    rw [slice_eq (Nat.le_of_lt h) (Nat.le_refl _), Parse.ok_bind, parse_eq,
      List.extract_eq_take_drop, ← List.length_drop, List.take_length]
  rw [next, if_neg (Nat.not_le.mpr h)]
  simp only [hrest]
  rcases decode (b.drop offset) with why | ⟨event, size⟩ <;> rfl

end Reader

/-! ### Readings -/

/-- What is read of some bytes that start at a position: the records up to the end or to what is no
record. -/
inductive Reads : Nat → List UInt8 → List Placed → Option DecodeError → Prop
  | done {offset : Nat} : Reads offset [] [] none
  | stop {offset : Nat} {b : List UInt8} {why : DecodeError} :
      b ≠ [] → decode b = .error why → Reads offset b [] (some why)
  | more {offset : Nat} {b : List UInt8} {e : Event} {n : Nat} {rs : List Placed}
      {failure : Option DecodeError} : decode b = .ok (e, n) →
      Reads (offset + n) (b.drop n) rs failure → Reads offset b (⟨offset, n, e⟩ :: rs) failure

lemma readFrom_of_ok {b : List UInt8} {e : Event} {n : Nat} (h : decode b = .ok (e, n))
    (offset : Nat) (read : List Placed) :
    readFrom offset read b = readFrom (offset + n) (⟨offset, n, e⟩ :: read) (b.drop n) := by
  obtain ⟨hmin, -, hle⟩ := size_of_decode h
  have hne : b ≠ [] := List.ne_nil_of_length_pos (by omega)
  rw [readFrom, if_neg hne, h]
  exact dif_pos ⟨by omega, by omega⟩

/-- All bytes have a reading. -/
lemma exists_reads (offset : Nat) (b : List UInt8) : ∃ rs failure, Reads offset b rs failure := by
  -- on the number of bytes, as a record takes some of them
  induction hlen : b.length using Nat.strongRecOn generalizing offset b with
  | ind len ih =>
    by_cases hne : b = []
    · subst hne
      exact ⟨[], none, .done⟩
    rcases h : decode b with why | ⟨e, n⟩
    · exact ⟨[], some why, .stop hne h⟩
    · obtain ⟨hmin, -, hle⟩ := size_of_decode h
      have hless : (b.drop n).length < len := by
        rw [List.length_drop]
        omega
      obtain ⟨rs, failure, hrest⟩ := ih _ hless (offset + n) (b.drop n) rfl
      exact ⟨_, failure, .more h hrest⟩

/-- A reading is what `readFrom` goes on with. -/
lemma Reads.readFrom_eq {offset : Nat} {b : List UInt8} {rs : List Placed}
    {failure : Option DecodeError} (h : Reads offset b rs failure) (read : List Placed) :
    readFrom offset read b = ⟨read.reverse ++ rs, failure⟩ := by
  induction h generalizing read with
  | done => rw [readFrom, if_pos rfl, List.append_nil]
  | stop hne hstop => rw [readFrom, if_neg hne, hstop, List.append_nil]
  | more hrecord _ ih =>
    rw [readFrom_of_ok hrecord, ih, List.reverse_cons, List.append_assoc, List.singleton_append]

lemma Reads.readAll_eq {b : List UInt8} {rs : List Placed} {failure : Option DecodeError}
    (h : Reads 0 b rs failure) : readAll b = ⟨rs, failure⟩ := h.readFrom_eq []

lemma reads_readAll (b : List UInt8) : Reads 0 b (readAll b).records (readAll b).failure := by
  obtain ⟨rs, failure, h⟩ := exists_reads 0 b
  rw [h.readAll_eq]
  exact h

/-- How many bytes some records take. -/
def covered : List Placed → Nat
  | [] => 0
  | r :: rs => r.size + covered rs

@[simp] lemma covered_nil : covered [] = 0 := rfl

@[simp] lemma covered_cons (offset n : Nat) (e : Event) (rs : List Placed) :
    covered (⟨offset, n, e⟩ :: rs) = n + covered rs := rfl

namespace Reads

variable {offset : Nat} {b : List UInt8} {rs : List Placed} {failure : Option DecodeError}

/-- A reader that goes on where a reading starts gives what is read. -/
lemma yields (all : List UInt8) (h : Reads offset (all.drop offset) rs failure)
    (hle : offset ≤ all.length) :
    Reader.Yields ⟨all, offset⟩ (Reading.items ⟨rs, failure⟩) (.finished all) := by
  generalize hb : all.drop offset = b at h
  induction h with
  | @done offset =>
    have hend : offset = all.length := Nat.le_antisymm hle (List.drop_eq_nil_iff.mp hb)
    subst hend
    exact .done (Reader.next_of_le (Nat.le_refl _))
  | @stop offset b why hne hstop =>
    subst hb
    have hlt : offset < all.length := Nat.lt_of_not_le fun h => hne (List.drop_of_length_le h)
    refine .more ?_ (.done (Reader.next_of_le (Nat.le_refl all.length)))
    rw [Reader.next_of_lt hlt, hstop]
    rfl
  | @more offset b e n rs failure hrecord _ ih =>
    subst hb
    obtain ⟨hmin, -, hn⟩ := size_of_decode hrecord
    rw [List.length_drop] at hn
    refine .more ?_ (ih (by omega) (List.drop_drop ..).symm)
    rw [Reader.next_of_lt (by omega), hrecord]

end Reads

/-- What is read of some bytes that start at a position: records that lie back to back and are at
most what there is, each of them what is read of its own bytes. -/
structure Exact (offset : Nat) (b : List UInt8) (rs : List Placed) (failure : Option DecodeError) :
    Prop where
  few : 32 * rs.length ≤ covered rs
  within : covered rs ≤ b.length
  abut : Channel.Abut offset (offset + covered rs) rs
  aligned : ∀ r ∈ rs, r.size % 8 = 0
  alone : ∀ r ∈ rs, offset ≤ r.offset ∧
    decode ((b.drop (r.offset - offset)).take r.size) = .ok (r.event, r.size)
  complete : failure = none ↔ covered rs = b.length

namespace Reads

variable {offset : Nat} {b : List UInt8} {rs : List Placed} {failure : Option DecodeError}

lemma exact (h : Reads offset b rs failure) : Exact offset b rs failure := by
  induction h with
  | done => exact ⟨Nat.le_refl _, Nat.le_refl _, rfl, nofun, nofun, iff_of_true rfl rfl⟩
  | stop hne _ =>
    have hlen := List.length_pos_of_ne_nil hne
    refine ⟨Nat.le_refl _, Nat.zero_le _, rfl, nofun, nofun, iff_of_false nofun ?_⟩
    rw [covered_nil]
    omega
  | @more offset b e n rs failure hrecord _ ih =>
    obtain ⟨hmin, hmod, hle⟩ := size_of_decode hrecord
    obtain ⟨hfew, hwithin, habut, haligned, halone, hcomplete⟩ := ih
    rw [List.length_drop] at hwithin hcomplete
    refine ⟨?_, ?_, ⟨rfl, ?_⟩, ?_, ?_, ?_⟩
    · rw [covered_cons, List.length_cons]
      omega
    · rw [covered_cons]
      omega
    · rw [covered_cons, ← Nat.add_assoc]
      exact habut
    · exact List.forall_mem_cons.mpr ⟨hmod, haligned⟩
    · refine List.forall_mem_cons.mpr ⟨⟨Nat.le_refl _, ?_⟩, fun r hr => ?_⟩
      · rw [Nat.sub_self, List.drop_zero]
        exact (decode_eq_ok_iff.mp hrecord).2
      · obtain ⟨hoffset, hdecode⟩ := halone r hr
        rw [List.drop_drop, show n + (r.offset - (offset + n)) = r.offset - offset by omega]
          at hdecode
        exact ⟨by omega, hdecode⟩
    · rw [hcomplete, covered_cons]
      omega

/-- Every record ends behind the position where reading starts. -/
lemma lt_stop (h : Reads offset b rs failure) {r : Placed} (hr : r ∈ rs) :
    offset < r.offset + r.size := by
  obtain ⟨hoffset, hdecode⟩ := h.exact.alone r hr
  have hsize := (size_of_decode hdecode).1
  omega

/-- No record lies before the position where reading starts. -/
lemma filter_eq_nil (h : Reads offset b rs failure) {stop : Nat} (hstop : stop ≤ offset) :
    rs.filter (fun r => r.offset + r.size ≤ stop) = [] := by
  refine List.filter_eq_nil_iff.mpr fun r hr hle => ?_
  have hlt := h.lt_stop hr
  have hle := of_decide_eq_true hle
  omega

/-- Of a beginning of bytes that can be read to their end, the records are read that lie in it, and
reading fails unless it ends with one of them. -/
lemma beginning {p t : List UInt8} (h : Reads offset (p ++ t) rs failure) (hnone : failure = none) :
    ∃ failure', Reads offset p (rs.filter fun r => r.offset + r.size ≤ offset + p.length) failure' ∧
      (failure' = none ↔ p = [] ∨ ∃ r ∈ rs, r.offset + r.size = offset + p.length) := by
  generalize hb : p ++ t = b at h
  induction h generalizing p with
  | done =>
    obtain ⟨rfl, -⟩ := List.append_eq_nil_iff.mp hb
    exact ⟨none, .done, iff_of_true rfl (.inl rfl)⟩
  | stop => cases hnone
  | @more offset b e n rs failure hrecord hrest ih =>
    obtain ⟨hmin, -, hle⟩ := size_of_decode hrecord
    by_cases hnil : p = []
    · -- nothing is read of nothing
      subst hnil
      rw [List.length_nil, Nat.add_zero, (Reads.more hrecord hrest).filter_eq_nil (Nat.le_refl _)]
      exact ⟨none, .done, iff_of_true rfl (.inl rfl)⟩
    subst hb
    by_cases hlen : n ≤ p.length
    · -- the first record is there, and the others as far as they are
      have hfirst : decode p = .ok (e, n) := by
        refine decode_eq_ok_iff.mpr ⟨hlen, ?_⟩
        rw [← List.take_append_of_le_length hlen]
        exact (decode_eq_ok_iff.mp hrecord).2
      obtain ⟨failure', hreads, hfailure⟩ :=
        ih hnone (List.drop_append_of_le_length hlen).symm
      have hstop : offset + n + (p.drop n).length = offset + p.length := by
        rw [List.length_drop]
        omega
      rw [hstop] at hreads hfailure
      refine ⟨failure', ?_, ?_⟩
      · rw [List.filter_cons, if_pos (decide_eq_true (Nat.add_le_add_left hlen offset))]
        exact .more hfirst hreads
      · have hend : p.drop n = [] ↔ offset + n = offset + p.length := by
          rw [List.drop_eq_nil_iff]
          omega
        simp only [hfailure, hend, hnil, false_or, List.mem_cons, exists_eq_or_imp]
    · -- there is no record, as it would be another one at the start of all bytes
      have hcut (r : Placed) (hr : r ∈ rs) : offset + n < r.offset + r.size := hrest.lt_stop hr
      rcases hdecode : decode p with why | ⟨e', n'⟩
      · refine ⟨some why, ?_, iff_of_false nofun ?_⟩
        · rw [List.filter_cons, if_neg (by simpa using hlen), hrest.filter_eq_nil (by omega)]
          exact .stop hnil hdecode
        · rintro (h | ⟨r, hr, hstop⟩)
          · exact hnil h
          · rcases List.mem_cons.mp hr with rfl | hr
            · exact hlen (Nat.le_of_eq (Nat.add_left_cancel hstop))
            · have := hcut r hr
              omega
      · obtain ⟨hle', hdecode⟩ := decode_eq_ok_iff.mp hdecode
        rw [← List.take_append_of_le_length hle'] at hdecode
        have hsame := (decode_eq_ok_iff.mpr ⟨by rw [List.length_append]; omega, hdecode⟩).symm.trans
          hrecord
        obtain ⟨-, rfl⟩ := Prod.mk.inj (Except.ok.inj hsame)
        exact absurd hle' hlen

end Reads

/-- What is read of a beginning of some bytes that hold these records: those that lie in it, and
then no more if it ends with one of them, and a failure if not. -/
structure ReadsWithin (rs : List Placed) (p : List UInt8) : Prop where
  records_eq : (readAll p).records = rs.filter fun r => r.offset + r.size ≤ p.length
  failure_eq_none_iff : (readAll p).failure = none ↔
    p = [] ∨ ∃ r ∈ rs, r.offset + r.size = p.length

/-- Whatever the bytes, a reader of them never takes a slice out of range.  Asked until there is no
more it gives what `readAll` has and nothing else: at most one record for every 32 bytes, then a
failure if there is one.  The records lie back to back from the start, each is what is read of its
own bytes alone, and there is no failure just if they are all bytes.  In that case a beginning of
the bytes has those of the records that lie in it. -/
theorem reader_exact (b : List UInt8) :
    (∀ l, parse l = .ofExcept (decode l)) ∧
    (∀ xs r, (Reader.new b).Yields xs r ↔ xs = (readAll b).items ∧ r = .finished b) ∧
    (Reader.finished b).next = some (none, .finished b) ∧
    (readAll b).records.length ≤ b.length / 32 ∧
    Exact 0 b (readAll b).records (readAll b).failure ∧
    ((readAll b).failure = none → ∀ p, p <+: b → ReadsWithin (readAll b).records p) := by
  have hreads := reads_readAll b
  have hyields := hreads.yields b (Nat.zero_le _)
  refine ⟨parse_eq, fun xs r => ⟨?_, ?_⟩, Reader.next_of_le (Nat.le_refl _), ?_, hreads.exact, ?_⟩
  · exact fun h => h.unique hyields
  · rintro ⟨rfl, rfl⟩
    exact hyields
  · have hfew := hreads.exact.few
    have hwithin := hreads.exact.within
    omega
  · rintro hnone p ⟨t, rfl⟩
    obtain ⟨failure, hp, hfailure⟩ := hreads.beginning hnone
    rw [Nat.zero_add] at hp hfailure
    exact ⟨by rw [hp.readAll_eq], by rw [hp.readAll_eq]; exact hfailure⟩

end Testbench.Record
