import Testbench.Proofs.Image.Draft

/-!
# Reading back images

An image is what its module says, whatever follows it: every record lies where the position table
points to, every name where its record points to, and the numbers in them are small enough for the
words that hold them.  The keys that a reader finds are those by which the numbered module looks up
its routines, so the two sides of the border agree on what a pair of keys means.
-/

namespace Testbench

variable {ρ : Type}

/-! ### Numbered modules -/

namespace Keyed

/-- The numbered routines of a fixture. -/
def groupOf (f : Fixture ρ) : Group ρ := ⟨f.name, (entriesOf f).toArray⟩

lemma groupsOf?_ok {fs : List (Fixture ρ)} {done gs : List (Group ρ)}
    (h : groupsOf? fs done = .ok gs) :
    gs = done.reverse ++ fs.map groupOf ∧ ∀ f ∈ fs, (entriesOf f).length ≤ maxKeys := by
  induction fs generalizing done with
  | nil =>
    obtain rfl := Except.ok.inj h
    simp only [List.map_nil, List.append_nil, List.not_mem_nil, false_implies, implies_true,
      and_self]
  | cons f fs ih =>
    simp only [groupsOf?] at h
    split at h
    · cases h
    · next hf =>
      obtain ⟨rfl, hfs⟩ := ih h
      rw [List.size_toArray] at hf
      refine ⟨?_, ?_⟩
      · rw [List.reverse_cons, List.append_assoc, List.singleton_append, List.map_cons, groupOf]
      · rintro f' (_ | ⟨_, hf'⟩)
        · omega
        · exact hfs f' hf'

/-- A numbered module: it has the routines of the module in the order of their keys, and neither
keys nor positions run out. -/
structure Numbers (m : Module ρ) (k : Keyed ρ) : Prop where
  groups_eq : k.groups.toList = m.fixtures.map groupOf
  groups_le : k.groups.toList.length ≤ maxKeys
  entries_le : ∀ g ∈ k.groups.toList, g.entries.toList.length ≤ maxKeys
  size_le : k.size ≤ 0xffffffff

lemma numbers_of_ok {m : Module ρ} {k : Keyed ρ} (h : ofModule? m = .ok k) : Numbers m k := by
  rw [ofModule?] at h
  split at h
  · cases h
  next hm =>
  split at h
  · cases h
  next gs hgs =>
  simp only [] at h
  split at h
  · cases h
  next hsize =>
  obtain rfl := Except.ok.inj h
  obtain ⟨rfl, hfs⟩ := groupsOf?_ok hgs
  refine ⟨rfl, ?_, ?_, Nat.le_of_not_lt hsize⟩
  · simp only [List.reverse_nil, List.nil_append, List.length_map]
    omega
  · simp only [List.reverse_nil, List.nil_append, List.mem_map]
    rintro _ ⟨f, hf, rfl⟩
    exact hfs f hf

end Keyed

namespace Image

open Keyed

/-! ### What a reader finds -/

/-- Routines as a reader finds them, of which the first has the key `key`. -/
def entryInfos (key : Nat) : List (Entry ρ) → List EntryInfo
  | [] => []
  | e :: es => ⟨e.role, UInt16.ofNat key, e.name⟩ :: entryInfos (key + 1) es

/-- Fixtures as a reader finds them, of which the first has the key `key`. -/
def groupInfos (key : Nat) : List (Keyed.Group ρ) → List FixtureInfo
  | [] => []
  | g :: gs =>
    ⟨UInt16.ofNat key, g.name, entryInfos 0 g.entries.toList⟩ :: groupInfos (key + 1) gs

@[simp] lemma length_entryInfos (key : Nat) (es : List (Entry ρ)) :
    (entryInfos key es).length = es.length := by
  induction es generalizing key with
  | nil => rfl
  | cons e es ih => rw [entryInfos, List.length_cons, ih, List.length_cons]

@[simp] lemma length_groupInfos (key : Nat) (gs : List (Keyed.Group ρ)) :
    (groupInfos key gs).length = gs.length := by
  induction gs generalizing key with
  | nil => rfl
  | cons g gs ih => rw [groupInfos, List.length_cons, ih, List.length_cons]

lemma getElem?_entryInfos (key i : Nat) (es : List (Entry ρ)) :
    (entryInfos key es)[i]? = es[i]?.map fun e => ⟨e.role, UInt16.ofNat (key + i), e.name⟩ := by
  induction es generalizing key i with
  | nil => rfl
  | cons e es ih =>
    cases i with
    | zero => rfl
    | succ i =>
      rw [entryInfos, List.getElem?_cons_succ, List.getElem?_cons_succ, ih, Nat.add_assoc,
        Nat.add_comm 1 i]

lemma getElem?_groupInfos (key i : Nat) (gs : List (Keyed.Group ρ)) :
    (groupInfos key gs)[i]? = gs[i]?.map fun g =>
      ⟨UInt16.ofNat (key + i), g.name, entryInfos 0 g.entries.toList⟩ := by
  induction gs generalizing key i with
  | nil => rfl
  | cons g gs ih =>
    cases i with
    | zero => rfl
    | succ i =>
      rw [groupInfos, List.getElem?_cons_succ, List.getElem?_cons_succ, ih, Nat.add_assoc,
        Nat.add_comm 1 i]

/-! ### Reading the parts -/

lemma ofCode?_code (r : Role) : Role.ofCode? r.code = .ok r := by
  cases r <;> rfl

section

variable {img : List UInt8} {start : Nat} (rest : List UInt8)

lemma read16_eq {w : UInt16} (h : Lies (le16 w) start img) :
    read16 (img ++ rest).toArray start = .ok w := by
  rw [read16, (h.append_right rest).word16_eq]

lemma read32_eq {w : UInt32} (h : Lies (le32 w) start img) :
    read32 (img ++ rest).toArray start = .ok w := by
  rw [read32, (h.append_right rest).word32_eq]

variable (himg : img.length ≤ 0xffffffff)
include himg

/-- A position inside an image is not changed by the width of a word. -/
lemma toNat_position {bytes : List UInt8} (h : Lies bytes start img) :
    (UInt32.ofNat start).toNat = start := by
  have := h.stop_le
  exact toNat_ofNat32 (by omega)

lemma readName_eq {s : String} (h : Lies (Utf8.ofString s) start img) :
    readName (img ++ rest).toArray (UInt32.ofNat start) (UInt32.ofNat s.utf8ByteSize) = .ok s := by
  have hstop := h.stop_le
  have hlen := Utf8.length_ofString s
  have hext := (h.append_right rest).extract_eq
  rw [hlen] at hext
  simp only [readName, toNat_position himg h, toNat_ofNat32 (n := s.utf8ByteSize) (by omega),
    List.size_toArray, List.length_append, Array.toList_extract, hext, Utf8.toString?_ofString]
  rw [if_neg (by omega)]

lemma readEntry_eq {key name : Nat} {e : Entry ρ}
    (h : Lies (Draft.entryRecord key name e) start img) (hname : Lies (Utf8.ofString e.name) name img) :
    readEntry (img ++ rest).toArray start = .ok ⟨e.role, UInt16.ofNat key, e.name⟩ := by
  rw [Draft.entryRecord] at h
  have hlength : read32 (img ++ rest).toArray (start + 12) = .ok _ := read32_eq rest h.right
  have hposition : read32 (img ++ rest).toArray (start + 8) = .ok _ := read32_eq rest h.left.right
  have hkey : read16 (img ++ rest).toArray (start + 4) = .ok _ :=
    read16_eq rest h.left.left.left.right
  have hcode : read32 (img ++ rest).toArray start = .ok _ := read32_eq rest h.left.left.left.left
  simp only [readEntry, hcode, hkey, hposition, hlength, ofCode?_code,
    readName_eq rest himg hname, bind, Except.bind]
  rfl

/-- Records that lie back to back are read one by one. -/
lemma readEntries_eq {key name : Nat} {es : List (Entry ρ)} (done : List EntryInfo)
    (h : Lies (entryRecords key name es) start img) (hnames : Lies (entryNames es) name img) :
    readEntries (img ++ rest).toArray start done es.length
      = .ok (done.reverse ++ entryInfos key es) := by
  induction es generalizing start key name done with
  | nil => rw [List.length_nil, readEntries, entryInfos, List.append_nil]
  | cons e es ih =>
    rw [entryRecords] at h
    rw [entryNames, List.flatMap_cons, ← entryNames] at hnames
    have hrest := ih (⟨e.role, UInt16.ofNat key, e.name⟩ :: done) h.right hnames.right
    rw [length_entryRecord, List.reverse_cons, List.append_assoc] at hrest
    rw [List.length_cons, readEntries, readEntry_eq rest himg h.left hnames.left]
    exact hrest

omit himg in
/-- The number of routines is no larger than the word for it can hold. -/
lemma toNat_entries {g : Keyed.Group ρ} (hg : g.entries.toList.length ≤ maxKeys) :
    (UInt16.ofNat g.entries.size).toNat = g.entries.toList.length := by
  rw [Array.length_toList] at hg ⊢
  rw [maxKeys] at hg
  exact toNat_ofNat16 (by omega)

lemma readFixture_eq {key name : Nat} {g : Keyed.Group ρ}
    (hg : g.entries.toList.length ≤ maxKeys) (h : Lies (groupBlock key name g) start img)
    (hnames : Lies (groupNames [g]) name img) :
    readFixture (img ++ rest).toArray start
      = .ok ⟨UInt16.ofNat key, g.name, entryInfos 0 g.entries.toList⟩ := by
  have hstop := h.stop_le
  rw [groupBlock, Draft.groupRecord] at h
  rw [groupNames_singleton] at hnames
  have hlength : read32 (img ++ rest).toArray (start + 8) = .ok _ := read32_eq rest h.left.right
  have hposition : read32 (img ++ rest).toArray (start + 4) = .ok _ :=
    read32_eq rest h.left.left.right
  have hcount : read16 (img ++ rest).toArray (start + 2) = .ok _ :=
    read16_eq rest h.left.left.left.right
  have hkey : read16 (img ++ rest).toArray start = .ok _ := read16_eq rest h.left.left.left.left
  have hentries : readEntries (img ++ rest).toArray (start + 12) [] g.entries.toList.length
      = .ok _ := readEntries_eq rest himg [] h.right hnames.right
  simp only [readFixture, List.size_toArray, List.length_append, bind, Except.bind, hkey, hcount,
    hposition, hlength, toNat_entries hg, hentries, readName_eq rest himg hnames.left]
  rw [if_neg (by omega)]
  rfl

/-- The positions in the table lead to the records one by one. -/
lemma readFixtures_eq {position key name : Nat} {gs : List (Keyed.Group ρ)}
    (hgs : ∀ g ∈ gs, g.entries.toList.length ≤ maxKeys) (done : List FixtureInfo)
    (htable : Lies (positions position gs) start img)
    (h : Lies (groupBlocks key name gs) position img) (hnames : Lies (groupNames gs) name img) :
    readFixtures (img ++ rest).toArray start done gs.length
      = .ok (done.reverse ++ groupInfos key gs) := by
  induction gs generalizing start position key name done with
  | nil => rw [List.length_nil, readFixtures, groupInfos, List.append_nil]
  | cons g gs ih =>
    rw [positions] at htable
    rw [groupBlocks] at h
    rw [groupNames_cons] at hnames
    have hfixture := readFixture_eq rest himg (hgs g List.mem_cons_self) h.left hnames.left
    have hblocks := h.right
    rw [length_groupBlock] at hblocks
    have hrest := ih (fun g' hg' => hgs g' (List.mem_cons_of_mem g hg'))
      (⟨UInt16.ofNat key, g.name, entryInfos 0 g.entries.toList⟩ :: done) htable.right hblocks
      hnames.right
    rw [length_le32, List.reverse_cons, List.append_assoc] at hrest
    rw [List.length_cons, readFixtures, read32_eq rest htable.left]
    simp only [toNat_position himg h, hfixture]
    exact hrest

end

/-- The count, the table, the records and the names lie one behind the other. -/
lemma lies_image (k : Keyed ρ) :
    Lies (le32 (UInt32.ofNat k.groups.toList.length)) 0 (image k) ∧
      Lies (positions (4 + 4 * k.groups.toList.length) k.groups.toList) 4 (image k) ∧
      Lies (groupBlocks 0 k.recordsSize k.groups.toList) (4 + 4 * k.groups.toList.length)
        (image k) ∧
      Lies (groupNames k.groups.toList) k.recordsSize (image k) := by
  have hparts : Lies (numbers k ++ groupNames k.groups.toList) 0 (image k) := .self _
  have hnames := hparts.right
  rw [length_numbers, Nat.zero_add] at hnames
  have hnumbers := hparts.left
  rw [numbers] at hnumbers
  have htable := hnumbers.right.left
  have hblocks := hnumbers.right.right
  rw [length_le32, Nat.zero_add] at htable hblocks
  rw [length_positions] at hblocks
  exact ⟨hnumbers.left, htable, hblocks, hnames⟩

lemma length_image_le {m : Module ρ} {k : Keyed ρ} (h : Numbers m k) :
    (image k).length ≤ 0xffffffff := by
  rw [length_image]
  exact h.size_le

/-- What a reader makes of the image of a numbered module, whatever follows it. -/
lemma decode_image {m : Module ρ} {k : Keyed ρ} (h : Numbers m k) (rest : List UInt8) :
    decode (image k ++ rest) = .ok ⟨groupInfos 0 k.groups.toList⟩ := by
  have himg := length_image_le h
  obtain ⟨hcountLies, htable, hblocks, hnames⟩ := lies_image k
  have hcount : read32 (image k ++ rest).toArray 0 = .ok _ := read32_eq rest hcountLies
  have hle := h.groups_le
  rw [maxKeys] at hle
  have hfixtures := readFixtures_eq rest himg h.entries_le [] htable hblocks hnames
  rw [decode, decodeArray, hcount]
  simp only [bind, Except.bind, toNat_ofNat32 (n := k.groups.toList.length) (by omega)]
  rw [hfixtures]
  rfl

/-! ### Keys -/

/-- The routines of a fixture in the order of their keys, each with its role and its name. -/
def slots (f : Fixture ρ) : List (Role × String × ρ) :=
  f.setup.toList.map (.setup, "Setup", ·) ++ f.before.toList.map (.before, "Before", ·)
    ++ f.after.toList.map (.after, "After", ·)
    ++ f.cases.map (fun c => (.testCase, c.name, c.routine))
    ++ f.teardown.toList.map (.teardown, "Teardown", ·)

/-- A reader finds in an image what the module says: its fixtures and their routines in order,
numbered from zero, under the keys that lead to these routines and to no others. -/
structure Describes (m : Module ρ) (k : Keyed ρ) (info : ModuleInfo) : Prop where
  length_eq : info.fixtures.length = m.fixtures.length
  fixture : ∀ i f, m.fixtures[i]? = some f → ∃ g : FixtureInfo, info.fixtures[i]? = some g ∧
    g.key.toNat = i ∧ g.name = f.name ∧ g.entries.length = (slots f).length ∧
    ∀ j role name r, (slots f)[j]? = some (role, name, r) → ∃ e : EntryInfo,
      g.entries[j]? = some e ∧ e.role = role ∧ e.key.toNat = j ∧ e.name = name ∧
      k.routine? g.key e.key = some r
  routine_none : ∀ a b, k.routine? a b = none ↔
    ∀ g ∈ info.fixtures, g.key = a → ∀ e ∈ g.entries, e.key ≠ b

lemma entriesOf_eq (f : Fixture ρ) :
    entriesOf f = (slots f).map fun s => ⟨s.1, s.2.1, s.2.2⟩ := by
  have hoptional (role : Role) (name : String) (r : Option ρ) :
      optional role name r = (r.toList.map (role, name, ·)).map fun s => ⟨s.1, s.2.1, s.2.2⟩ := by
    cases r <;> rfl
  simp only [entriesOf, slots, hoptional, List.map_append, List.map_map, Function.comp_def]

lemma routine?_eq (k : Keyed ρ) (a b : UInt16) :
    k.routine? a b = (k.groups.toList[a.toNat]?.bind fun g => g.entries.toList[b.toNat]?).map
      (·.routine) := by
  rw [routine?, Array.getElem?_toList]
  cases k.groups[a.toNat]? with
  | none => rfl
  | some g =>
    simp only [Array.getElem?_toList, bind, Option.bind_some]
    cases g.entries[b.toNat]? <;> rfl

lemma mem_groupInfos {gs : List (Keyed.Group ρ)} (hgs : gs.length ≤ maxKeys) {g : FixtureInfo}
    (h : g ∈ groupInfos 0 gs) :
    ∃ g', gs[g.key.toNat]? = some g' ∧ g.entries = entryInfos 0 g'.entries.toList := by
  obtain ⟨i, hi⟩ := List.mem_iff_getElem?.mp h
  rw [getElem?_groupInfos, Option.map_eq_some_iff] at hi
  obtain ⟨g', hg', rfl⟩ := hi
  have hlt := (List.getElem?_eq_some_iff.mp hg').1
  rw [maxKeys] at hgs
  refine ⟨g', ?_, rfl⟩
  rwa [Nat.zero_add, toNat_ofNat16 (by omega)]

lemma mem_entryInfos {es : List (Entry ρ)} (hes : es.length ≤ maxKeys) {e : EntryInfo}
    (h : e ∈ entryInfos 0 es) : ∃ e', es[e.key.toNat]? = some e' := by
  obtain ⟨i, hi⟩ := List.mem_iff_getElem?.mp h
  rw [getElem?_entryInfos, Option.map_eq_some_iff] at hi
  obtain ⟨e', he', rfl⟩ := hi
  have hlt := (List.getElem?_eq_some_iff.mp he').1
  rw [maxKeys] at hes
  refine ⟨e', ?_⟩
  rwa [Nat.zero_add, toNat_ofNat16 (by omega)]

/-- The keys of a numbered module are those that a reader finds. -/
lemma describes_groupInfos {m : Module ρ} {k : Keyed ρ} (h : Numbers m k) :
    Describes m k ⟨groupInfos 0 k.groups.toList⟩ where
  length_eq := by rw [length_groupInfos, h.groups_eq, List.length_map]
  fixture i f hf := by
    have hg : k.groups.toList[i]? = some (groupOf f) := by
      rw [h.groups_eq, List.getElem?_map, hf, Option.map_some]
    have hlt := (List.getElem?_eq_some_iff.mp hg).1
    have hle := h.groups_le
    have hentries := h.entries_le (groupOf f) (List.mem_of_getElem? hg)
    rw [maxKeys] at hle hentries
    have hkey : (UInt16.ofNat i).toNat = i := toNat_ofNat16 (by omega)
    refine ⟨⟨UInt16.ofNat i, f.name, entryInfos 0 (groupOf f).entries.toList⟩, ?_, hkey, rfl, ?_, ?_⟩
    · rw [getElem?_groupInfos, hg, Option.map_some, Nat.zero_add]
      rfl
    · rw [length_entryInfos, groupOf, entriesOf_eq, List.length_map]
    · intro j role name r hs
      have he : (groupOf f).entries.toList[j]? = some ⟨role, name, r⟩ := by
        rw [groupOf, entriesOf_eq, List.getElem?_map, hs, Option.map_some]
      have hj := (List.getElem?_eq_some_iff.mp he).1
      have hkey' : (UInt16.ofNat j).toNat = j := toNat_ofNat16 (by omega)
      refine ⟨⟨role, UInt16.ofNat j, name⟩, ?_, rfl, hkey', rfl, ?_⟩
      · rw [getElem?_entryInfos, he, Option.map_some, Nat.zero_add]
      · rw [routine?_eq, hkey, hkey', hg, Option.bind_some, he, Option.map_some]
  routine_none a b := by
    -- a pair of keys stands in the image if and only if both positions exist
    rw [routine?_eq, Option.map_eq_none_iff, Option.bind_eq_none_iff]
    constructor
    · rintro hnone g hg rfl e he rfl
      obtain ⟨g', hg', hentries⟩ := mem_groupInfos h.groups_le hg
      rw [hentries] at he
      obtain ⟨e', he'⟩ := mem_entryInfos (h.entries_le g' (List.mem_of_getElem? hg')) he
      rw [hnone g' hg'] at he'
      cases he'
    · intro hnone g' hg'
      refine Option.eq_none_iff_forall_ne_some.mpr fun e' he' => ?_
      have hg := getElem?_groupInfos 0 a.toNat k.groups.toList
      have he := getElem?_entryInfos 0 b.toNat g'.entries.toList
      rw [hg', Option.map_some, Nat.zero_add, UInt16.ofNat_toNat] at hg
      rw [he', Option.map_some, Nat.zero_add, UInt16.ofNat_toNat] at he
      exact hnone _ (List.mem_of_getElem? hg) rfl _ (List.mem_of_getElem? he) rfl

/-- A module that can be numbered has an image.  Any buffer that is large enough takes it: the image
goes over as many bytes as it is said to need, whatever they were, and no write reaches any further,
so that the bytes behind it stay.  Whatever follows it, reading gives back the fixtures and routines
of the module under the keys by which the numbered module finds its routines. -/
theorem decode_writeInto {m : Module ρ} {k : Keyed ρ} (hk : ofModule? m = .ok k) :
    ∃ img info, img.length = k.size ∧
      (∀ buffer : List UInt8, k.size ≤ buffer.length →
        writeInto k buffer = .ok (k.size, img ++ buffer.drop k.size)) ∧
      (∀ w ∈ writes k, w.stop ≤ k.size) ∧
      (∀ rest, decode (img ++ rest) = .ok info) ∧
      Describes m k info := by
  have h := numbers_of_ok hk
  exact ⟨image k, ⟨groupInfos 0 k.groups.toList⟩, length_image k, fun _ => writeInto_eq k,
    fun _ => write_stop_le k, decode_image h, describes_groupInfos h⟩

/-- A module of a fixture without routines and one whose test case has no name. -/
def shelves : Module Nat :=
  ⟨"shelves", [.blank "empty", ⟨"", some 1, some 2, none, some 3, [⟨"", 4⟩], {}, none⟩]⟩

theorem decode_writeInto_shelves : ∃ k, ofModule? shelves = .ok k ∧
    ∃ img info, img.length = k.size ∧
      (∀ buffer : List UInt8, k.size ≤ buffer.length →
        writeInto k buffer = .ok (k.size, img ++ buffer.drop k.size)) ∧
      (∀ w ∈ writes k, w.stop ≤ k.size) ∧
      (∀ rest, decode (img ++ rest) = .ok info) ∧
      Describes shelves k info :=
  have hk : ofModule? shelves = .ok ⟨(shelves.fixtures.map groupOf).toArray⟩ := rfl
  ⟨_, hk, decode_writeInto hk⟩

end Image

end Testbench
