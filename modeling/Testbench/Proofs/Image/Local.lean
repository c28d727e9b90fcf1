import Testbench.Catalog.Image
import Testbench.Proofs.Bytes
import Testbench.Proofs.Utf8

/-!
# What reading an image depends on

A reader of images looks for its records and names wherever the bytes say.  `Stays` compares what it
finds in some bytes with what it finds when others follow them: it either runs into the end of the
first ones, and says so, or finds the same.  This holds of a word and of a name, and goes on from
there through everything that is read, in particular through records that overlap or that lie in
front of those that point to them.

What has been read is there: the words of a record are, and the name that it points to is a range of
the bytes.
-/

namespace Testbench.Image

variable {α β : Type}

/-! ### Readers that run into the end -/

/-- Something was looked for behind the end of the bytes. -/
inductive DecodeError.Short : DecodeError → Prop
  | cutOff : Short .cutOff
  | badOffset (offset length : Nat) : Short (.badOffset offset length)
  | badNameEnd (stop length : Nat) : Short (.badNameEnd stop length)

/-- What is read from some bytes, `x`, is what is read if others follow, `y`, unless the bytes end
too early. -/
def Stays (x y : Except DecodeError α) : Prop := (∃ why, x = .error why ∧ why.Short) ∨ x = y

namespace Stays

variable {x y : Except DecodeError α} {f g : α → Except DecodeError β}

lemma refl (x : Except DecodeError α) : Stays x x := .inr rfl

lemma of_short {why : DecodeError} (h : why.Short) (y : Except DecodeError α) :
    Stays (.error why) y := .inl ⟨why, rfl, h⟩

/-- Readers that stay as they are do so one after the other. -/
lemma bind (h : Stays x y) (hfg : ∀ a, Stays (f a) (g a)) : Stays (x >>= f) (y >>= g) := by
  rcases h with ⟨why, rfl, hwhy⟩ | rfl
  · exact of_short hwhy _
  · rcases x with why | a
    · exact refl _
    · exact hfg a

/-- A reader that succeeds reads the same if other bytes follow. -/
lemma ok (h : Stays x y) {a : α} (hx : x = .ok a) : y = .ok a := by
  rcases h with ⟨why, hwhy, -⟩ | rfl
  · rw [hx] at hwhy
    cases hwhy
  · exact hx

/-- A reader that does not succeed while it would if other bytes followed runs into the end. -/
lemma short_of_ne (h : Stays x y) (hne : ∀ a, x ≠ .ok a) {b : α} (hy : y = .ok b) :
    ∃ why, x = .error why ∧ why.Short := by
  rcases h with hshort | rfl
  · exact hshort
  · exact absurd hy (hne b)

end Stays

/-! ### Readers one after the other -/

lemma readEntries_succ (bytes : Array UInt8) (start : Nat) (done : List EntryInfo) (n : Nat) :
    readEntries bytes start done (n + 1)
      = readEntry bytes start >>= fun e => readEntries bytes (start + 16) (e :: done) n := by
  rw [readEntries]
  cases readEntry bytes start <;> rfl

lemma readFixtures_succ (bytes : Array UInt8) (start : Nat) (done : List FixtureInfo) (n : Nat) :
    readFixtures bytes start done (n + 1)
      = read32 bytes start >>= fun position => readFixture bytes position.toNat >>= fun f =>
        readFixtures bytes (start + 4) (f :: done) n := by
  rw [readFixtures]
  rcases read32 bytes start with why | position
  · rfl
  · simp only [bind, Except.bind]
    cases readFixture bytes position.toNat <;> rfl

section

variable (p t : List UInt8)

lemma read16_stays (start : Nat) :
    Stays (read16 p.toArray start) (read16 (p ++ t).toArray start) := by
  rw [read16, read16, word16, word16]
  by_cases h : start + 2 ≤ p.length
  · rw [field_append h]
    exact .refl _
  · rw [field, if_neg (by rwa [List.size_toArray])]
    exact .of_short .cutOff _

lemma read32_stays (start : Nat) :
    Stays (read32 p.toArray start) (read32 (p ++ t).toArray start) := by
  rw [read32, read32, word32, word32]
  by_cases h : start + 4 ≤ p.length
  · rw [field_append h]
    exact .refl _
  · rw [field, if_neg (by rwa [List.size_toArray])]
    exact .of_short .cutOff _

lemma readName_stays (offset length : UInt32) :
    Stays (readName p.toArray offset length) (readName (p ++ t).toArray offset length) := by
  simp only [readName, List.size_toArray, List.length_append, Array.toList_extract]
  by_cases h : p.length < offset.toNat + length.toNat
  · rw [if_pos h]
    exact .of_short (.badNameEnd _ _) _
  · -- the range is within the first bytes, so that it is a range of all of them
    rw [if_neg h, if_neg (by omega), List.extract_eq_take_drop, List.extract_eq_take_drop,
      List.drop_append_of_le_length (by omega),
      List.take_append_of_le_length (by rw [List.length_drop]; omega)]
    exact .refl _

lemma readEntry_stays (start : Nat) :
    Stays (readEntry p.toArray start) (readEntry (p ++ t).toArray start) := by
  refine (read32_stays p t _).bind fun code => ?_
  refine (read16_stays p t _).bind fun key => ?_
  refine (read32_stays p t _).bind fun name => ?_
  refine (read32_stays p t _).bind fun length => ?_
  rcases Role.ofCode? code with invalid | role
  · exact .refl _
  · exact (readName_stays p t name length).bind fun _ => .refl _

lemma readEntries_stays (start : Nat) (done : List EntryInfo) (n : Nat) :
    Stays (readEntries p.toArray start done n) (readEntries (p ++ t).toArray start done n) := by
  induction n generalizing start done with
  | zero => exact .refl _
  | succ n ih =>
    rw [readEntries_succ, readEntries_succ]
    exact (readEntry_stays p t start).bind fun e => ih (start + 16) (e :: done)

lemma readFixture_stays (start : Nat) :
    Stays (readFixture p.toArray start) (readFixture (p ++ t).toArray start) := by
  simp only [readFixture, List.size_toArray, List.length_append]
  by_cases h : p.length < start
  · rw [if_pos h]
    exact .of_short (.badOffset _ _) _
  · rw [if_neg h, if_neg (by omega)]
    refine (read16_stays p t _).bind fun key => ?_
    refine (read16_stays p t _).bind fun count => ?_
    refine (read32_stays p t _).bind fun name => ?_
    refine (read32_stays p t _).bind fun length => ?_
    refine (readEntries_stays p t _ [] _).bind fun entries => ?_
    exact (readName_stays p t name length).bind fun _ => .refl _

lemma readFixtures_stays (start : Nat) (done : List FixtureInfo) (n : Nat) :
    Stays (readFixtures p.toArray start done n) (readFixtures (p ++ t).toArray start done n) := by
  induction n generalizing start done with
  | zero => exact .refl _
  | succ n ih =>
    rw [readFixtures_succ, readFixtures_succ]
    refine (read32_stays p t start).bind fun position => ?_
    exact (readFixture_stays p t position.toNat).bind fun f => ih (start + 4) (f :: done)

/-- Bytes that follow change nothing but that a reader need not run into the end. -/
lemma decode_stays : Stays (decode p) (decode (p ++ t)) :=
  (read32_stays p t 0).bind fun count =>
    (readFixtures_stays p t 4 [] count.toNat).bind fun _ => .refl _

end

/-! ### What has been read is there -/

variable {bytes : List UInt8} {start : Nat}

lemma stop_le_of_read32 {w : UInt32} (h : read32 bytes.toArray start = .ok w) :
    start + 4 ≤ bytes.length := by
  by_cases hstop : start + 4 ≤ bytes.length
  · exact hstop
  · rw [read32, word32, field, if_neg (by rwa [List.size_toArray])] at h
    cases h

lemma of_readName {offset length : UInt32} {s : String}
    (h : readName bytes.toArray offset length = .ok s) :
    offset.toNat + length.toNat ≤ bytes.length ∧
      Utf8.ofString s = bytes.extract offset.toNat (offset.toNat + length.toNat) := by
  simp only [readName, List.size_toArray, Array.toList_extract] at h
  split at h
  · cases h
  next hstop =>
  split at h
  · next s' hs =>
    obtain rfl := Except.ok.inj h
    exact ⟨Nat.le_of_not_lt hstop, Utf8.ofString_of_toString? hs⟩
  · cases h

/-- A routine is read from its record and the name that it points to. -/
lemma of_readEntry {e : EntryInfo} (h : readEntry bytes.toArray start = .ok e) :
    ∃ name length, read32 bytes.toArray (start + 8) = .ok name ∧
      read32 bytes.toArray (start + 12) = .ok length ∧
      readName bytes.toArray name length = .ok e.name := by
  obtain ⟨code, -, h⟩ := of_bind_ok h
  obtain ⟨key, -, h⟩ := of_bind_ok h
  obtain ⟨name, hname, h⟩ := of_bind_ok h
  obtain ⟨length, hlength, h⟩ := of_bind_ok h
  rcases hrole : Role.ofCode? code with invalid | role
  · rw [hrole] at h
    cases h
  · rw [hrole] at h
    obtain ⟨text, htext, h⟩ := of_bind_ok h
    obtain rfl := Except.ok.inj h
    exact ⟨name, length, hname, hlength, htext⟩

/-- A fixture is read from its record, the name that this points to and the routines behind it. -/
lemma of_readFixture {f : FixtureInfo} (h : readFixture bytes.toArray start = .ok f) :
    ∃ count name length, read16 bytes.toArray (start + 2) = .ok count ∧
      read32 bytes.toArray (start + 4) = .ok name ∧
      read32 bytes.toArray (start + 8) = .ok length ∧
      readEntries bytes.toArray (start + 12) [] count.toNat = .ok f.entries ∧
      readName bytes.toArray name length = .ok f.name := by
  rw [readFixture] at h
  split at h
  · cases h
  obtain ⟨key, -, h⟩ := of_bind_ok h
  obtain ⟨count, hcount, h⟩ := of_bind_ok h
  obtain ⟨name, hname, h⟩ := of_bind_ok h
  obtain ⟨length, hlength, h⟩ := of_bind_ok h
  obtain ⟨entries, hentries, h⟩ := of_bind_ok h
  obtain ⟨text, htext, h⟩ := of_bind_ok h
  obtain rfl := Except.ok.inj h
  exact ⟨count, name, length, hcount, hname, hlength, hentries, htext⟩

/-- The bytes of a name are a range of those it is read from. -/
lemma isInfix_of_readName {offset length : UInt32} {s : String}
    (h : readName bytes.toArray offset length = .ok s) : Utf8.ofString s <:+: bytes := by
  rw [(of_readName h).2, List.extract_eq_take_drop]
  exact (List.take_prefix _ _).isInfix.trans (List.drop_suffix _ _).isInfix

lemma isInfix_of_readEntries {done es : List EntryInfo} {n : Nat}
    (h : readEntries bytes.toArray start done n = .ok es)
    (hdone : ∀ e ∈ done, Utf8.ofString e.name <:+: bytes) :
    ∀ e ∈ es, Utf8.ofString e.name <:+: bytes := by
  induction n generalizing start done with
  | zero =>
    obtain rfl := Except.ok.inj h
    intro e he
    exact hdone e (List.mem_reverse.mp he)
  | succ n ih =>
    rw [readEntries_succ] at h
    obtain ⟨e, he, h⟩ := of_bind_ok h
    obtain ⟨name, length, -, -, hname⟩ := of_readEntry he
    exact ih h (List.forall_mem_cons.mpr ⟨isInfix_of_readName hname, hdone⟩)

/-- The names of a fixture and of its routines are ranges of some bytes. -/
def FixtureInfo.NamedIn (bytes : List UInt8) (f : FixtureInfo) : Prop :=
  Utf8.ofString f.name <:+: bytes ∧ ∀ e ∈ f.entries, Utf8.ofString e.name <:+: bytes

lemma namedIn_of_readFixtures {done fs : List FixtureInfo} {n : Nat}
    (h : readFixtures bytes.toArray start done n = .ok fs)
    (hdone : ∀ f ∈ done, f.NamedIn bytes) : ∀ f ∈ fs, f.NamedIn bytes := by
  induction n generalizing start done with
  | zero =>
    obtain rfl := Except.ok.inj h
    intro f hf
    exact hdone f (List.mem_reverse.mp hf)
  | succ n ih =>
    rw [readFixtures_succ] at h
    obtain ⟨position, -, h⟩ := of_bind_ok h
    obtain ⟨f, hf, h⟩ := of_bind_ok h
    obtain ⟨count, name, length, -, -, -, hentries, hname⟩ := of_readFixture hf
    have hnamed : f.NamedIn bytes :=
      ⟨isInfix_of_readName hname, isInfix_of_readEntries hentries fun e he => by cases he⟩
    exact ih h (List.forall_mem_cons.mpr ⟨hnamed, hdone⟩)

lemma namedIn_of_decode {info : ModuleInfo} (h : decode bytes = .ok info) :
    ∀ f ∈ info.fixtures, f.NamedIn bytes := by
  obtain ⟨count, -, h⟩ := of_bind_ok h
  obtain ⟨fixtures, hfixtures, h⟩ := of_bind_ok h
  obtain rfl := Except.ok.inj h
  exact namedIn_of_readFixtures hfixtures fun f hf => by cases hf

end Testbench.Image
