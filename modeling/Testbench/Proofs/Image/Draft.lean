import Testbench.Catalog.Image
import Testbench.Proofs.Bytes
import Testbench.Proofs.Utf8

/-!
# How an image gets into a buffer

A draft writes numbers and names turn by turn, each to a place of its own, into a buffer that holds
whatever it held before.  `Laid` is what all of this keeps: the numbers written so far stand at the
start of the buffer, the names at `base`, and every other byte is the one that was there.  Once the
numbers reach `base`, nothing is left between the two, and the image is complete.
-/

namespace Testbench.Image

open Keyed

variable {ρ : Type}

/-! ### Putting bytes over others -/

namespace Write

lemma size_overwrite (buffer : Array UInt8) (start : Nat) (bs : List UInt8) :
    (overwrite buffer start bs).size = buffer.size := by
  induction bs generalizing buffer start with
  | nil => rfl
  | cons b bs ih => rw [overwrite, ih, Array.size_setIfInBounds]

lemma toList_overwrite (bs : List UInt8) {buffer : Array UInt8} {start : Nat}
    (h : start + bs.length ≤ buffer.size) :
    (overwrite buffer start bs).toList =
      buffer.toList.take start ++ (bs ++ buffer.toList.drop (start + bs.length)) := by
  induction bs generalizing buffer start with
  | nil => simp only [overwrite, List.nil_append, List.length_nil, Nat.add_zero,
      List.take_append_drop]
  | cons b bs ih =>
    rw [List.length_cons] at h
    have hlt : start < buffer.toList.length := by
      rw [Array.length_toList]
      omega
    have hlen : (buffer.toList.take start).length = start := by
      rw [List.length_take]
      omega
    -- the first byte ends up behind those before it and in front of the others
    rw [overwrite, ih (by rw [Array.size_setIfInBounds]; omega), Array.toList_setIfInBounds,
      List.drop_set_of_lt (by omega), List.take_set, List.length_cons, List.take_add_one,
      List.getElem?_eq_getElem hlt, Option.toList_some, List.set_append_right _ _ (by omega),
      hlen, Nat.sub_self, List.set_cons_zero, List.append_assoc, List.singleton_append, List.cons_append,
      Nat.add_right_comm start 1, Nat.add_assoc start bs.length 1]

end Write

/-! ### What a draft leaves of a buffer -/

lemma length_extract {l : List UInt8} {a b : Nat} (h : b ≤ l.length) :
    (l.extract a b).length = b - a := by
  rw [List.extract_eq_take_drop, List.length_take, List.length_drop]
  omega

lemma extract_append_extract (l : List UInt8) {a b c : Nat} (hab : a ≤ b) (hbc : b ≤ c) :
    l.extract a b ++ l.extract b c = l.extract a c := by
  obtain ⟨i, rfl⟩ := Nat.exists_eq_add_of_le hab
  obtain ⟨j, rfl⟩ := Nat.exists_eq_add_of_le hbc
  simp only [List.extract_eq_take_drop, Nat.add_sub_cancel_left]
  rw [Nat.add_assoc a i j, Nat.add_sub_cancel_left, List.take_add, List.drop_drop]

lemma extract_append_drop (l : List UInt8) {a b : Nat} (h : a ≤ b) :
    l.extract a b ++ l.drop b = l.drop a := by
  obtain ⟨i, rfl⟩ := Nat.exists_eq_add_of_le h
  rw [List.extract_eq_take_drop, Nat.add_sub_cancel_left, ← List.drop_drop,
    List.take_append_drop]

namespace Draft

/-- What a buffer holds after the writes of a draft. -/
def fill (d : Draft) (old : List UInt8) : List UInt8 :=
  (d.writes.reverse.foldl Write.into old.toArray).toList

/-- One more write goes over as many bytes of what the others left. -/
lemma fill_cons {d e : Draft} {w : Write} (he : e.writes = w :: d.writes)
    {old before gone after : List UInt8} (hd : d.fill old = before ++ (gone ++ after))
    (hbefore : before.length = w.start) (hgone : gone.length = w.bytes.length) :
    e.fill old = before ++ (w.bytes ++ after) := by
  have hfit : w.start + w.bytes.length ≤
      (d.writes.reverse.foldl Write.into old.toArray).size := by
    rw [← Array.length_toList, ← fill, hd]
    simp only [List.length_append]
    omega
  rw [fill, he, List.reverse_cons, List.foldl_append, List.foldl_cons, List.foldl_nil, Write.into,
    Write.toList_overwrite _ hfit, ← fill, hd, ← hbefore, ← hgone, List.take_left,
    ← List.drop_drop, List.drop_left, List.drop_left]

/-- The numbers of a draft stand at the start of any buffer large enough for it and the names at
`base`, and nothing else of the buffer was touched. -/
structure Laid (base : Nat) (d : Draft) (numbers names : List UInt8) : Prop where
  number_eq : d.number = numbers.length
  name_eq : d.name = base + names.length
  number_le : numbers.length ≤ base
  stop_le : ∀ w ∈ d.writes, w.stop ≤ base + names.length
  fill_eq : ∀ old : List UInt8, base + names.length ≤ old.length →
    d.fill old = numbers ++ (old.extract numbers.length base
      ++ (names ++ old.drop (base + names.length)))

variable {base : Nat} {d : Draft} {numbers names : List UInt8}

lemma laid_nil (base : Nat) : Laid base ⟨0, base, []⟩ [] [] where
  number_eq := rfl
  name_eq := rfl
  number_le := Nat.zero_le _
  stop_le := by simp only [List.not_mem_nil, false_implies, implies_true]
  fill_eq old _ := by
    simp only [fill, List.reverse_nil, List.foldl_nil, List.length_nil, List.nil_append,
      Nat.add_zero, extract_append_drop old base.zero_le, List.drop_zero]

/-- Numbers fit as long as they do not reach the names. -/
lemma Laid.put (h : Laid base d numbers names) (bytes : List UInt8)
    (hbytes : numbers.length + bytes.length ≤ base) :
    Laid base (d.put bytes) (numbers ++ bytes) names where
  number_eq := by rw [Draft.put, h.number_eq, List.length_append]
  name_eq := h.name_eq
  number_le := by rwa [List.length_append]
  stop_le w hw := by
    rcases List.mem_cons.mp hw with rfl | hw
    · change d.number + bytes.length ≤ _
      have := h.number_eq
      omega
    · exact h.stop_le w hw
  fill_eq old hold := by
    have hfill := h.fill_eq old hold
    -- the bytes between numbers and names make room for the new ones
    have hgone : (old.extract numbers.length (numbers.length + bytes.length)).length
        = bytes.length := by
      rw [length_extract (by omega), Nat.add_sub_cancel_left]
    rw [← extract_append_extract old (Nat.le_add_right _ bytes.length) hbytes,
      List.append_assoc] at hfill
    rw [fill_cons rfl hfill h.number_eq.symm hgone, List.length_append, List.append_assoc]

/-- Names can always be added, since they go behind everything else. -/
lemma Laid.putName (h : Laid base d numbers names) (s : String) :
    Laid base (d.putName s) numbers (names ++ Utf8.ofString s) where
  number_eq := h.number_eq
  name_eq := by
    rw [List.length_append, Utf8.length_ofString, ← Nat.add_assoc, ← h.name_eq, Draft.putName]
  number_le := h.number_le
  stop_le w hw := by
    rw [List.length_append]
    rcases List.mem_cons.mp hw with rfl | hw
    · change d.name + (Utf8.ofString s).length ≤ _
      have := h.name_eq
      omega
    · have := h.stop_le w hw
      omega
  fill_eq old hold := by
    rw [List.length_append] at hold
    have hle := h.number_le
    have hfill := h.fill_eq old (by omega)
    have hbefore : (numbers ++ (old.extract numbers.length base ++ names)).length = d.name := by
      rw [h.name_eq, List.length_append, List.length_append, length_extract (by omega)]
      omega
    -- the bytes behind the names make room for the new name
    have hgone : (old.extract (base + names.length)
        (base + names.length + (Utf8.ofString s).length)).length = (Utf8.ofString s).length := by
      rw [length_extract (by omega), Nat.add_sub_cancel_left]
    rw [← extract_append_drop old (Nat.le_add_right (base + names.length)
        (Utf8.ofString s).length),
      ← List.append_assoc (old.extract _ _) names, ← List.append_assoc numbers] at hfill
    rw [fill_cons rfl hfill hbefore hgone, List.length_append, ← Nat.add_assoc base]
    simp only [List.append_assoc]

end Draft

/-! ### What is written -/

/-- The positions of the records of some fixtures, the first of them at `position`. -/
def positions (position : Nat) : List (Keyed.Group ρ) → List UInt8
  | [] => []
  | g :: gs => le32 (UInt32.ofNat position) ++ positions (position + (12 + 16 * g.entries.size)) gs

/-- The names of some routines. -/
def entryNames (es : List (Entry ρ)) : List UInt8 := es.flatMap fun e => Utf8.ofString e.name

/-- The names of some fixtures and their routines. -/
def groupNames (gs : List (Keyed.Group ρ)) : List UInt8 :=
  gs.flatMap fun g => Utf8.ofString g.name ++ entryNames g.entries.toList

/-- The records of some routines, of which the first has the key `key` and a name at `name`. -/
def entryRecords (key name : Nat) : List (Entry ρ) → List UInt8
  | [] => []
  | e :: es => Draft.entryRecord key name e
      ++ entryRecords (key + 1) (name + (Utf8.ofString e.name).length) es

/-- The record of a fixture with those of its routines, whose names start behind its own. -/
def groupBlock (key name : Nat) (g : Keyed.Group ρ) : List UInt8 :=
  Draft.groupRecord key name g
    ++ entryRecords 0 (name + (Utf8.ofString g.name).length) g.entries.toList

/-- The records of some fixtures, of which the first has the key `key` and a name at `name`. -/
def groupBlocks (key name : Nat) : List (Keyed.Group ρ) → List UInt8
  | [] => []
  | g :: gs => groupBlock key name g
      ++ groupBlocks (key + 1) (name + (groupNames [g]).length) gs

/-- All numbers of an image. -/
def numbers (k : Keyed ρ) : List UInt8 :=
  le32 (UInt32.ofNat k.groups.toList.length)
    ++ (positions (4 + 4 * k.groups.toList.length) k.groups.toList
    ++ groupBlocks 0 k.recordsSize k.groups.toList)

/-- The image of a module: its numbers and then its names. -/
def image (k : Keyed ρ) : List UInt8 := numbers k ++ groupNames k.groups.toList

@[simp] lemma length_positions (position : Nat) (gs : List (Keyed.Group ρ)) :
    (positions position gs).length = 4 * gs.length := by
  induction gs generalizing position with
  | nil => rfl
  | cons g gs ih =>
    rw [positions, List.length_append, length_le32, ih, List.length_cons]
    omega

@[simp] lemma length_entryRecord (key name : Nat) (e : Entry ρ) :
    (Draft.entryRecord key name e).length = 16 := rfl

@[simp] lemma length_groupRecord (key name : Nat) (g : Keyed.Group ρ) :
    (Draft.groupRecord key name g).length = 12 := rfl

@[simp] lemma length_entryRecords (key name : Nat) (es : List (Entry ρ)) :
    (entryRecords key name es).length = 16 * es.length := by
  induction es generalizing key name with
  | nil => rfl
  | cons e es ih =>
    rw [entryRecords, List.length_append, length_entryRecord, ih, List.length_cons]
    omega

@[simp] lemma length_groupBlock (key name : Nat) (g : Keyed.Group ρ) :
    (groupBlock key name g).length = 12 + 16 * g.entries.size := by
  rw [groupBlock, List.length_append, length_groupRecord, length_entryRecords,
    Array.length_toList]

lemma groupNames_singleton (g : Keyed.Group ρ) :
    groupNames [g] = Utf8.ofString g.name ++ entryNames g.entries.toList := by
  rw [groupNames, List.flatMap_singleton]

lemma groupNames_cons (g : Keyed.Group ρ) (gs : List (Keyed.Group ρ)) :
    groupNames (g :: gs) = groupNames [g] ++ groupNames gs := by
  rw [groupNames_singleton, groupNames, List.flatMap_cons, ← groupNames]

/-- The counted size of the numbers is that of the numbers. -/
lemma length_numbers (k : Keyed ρ) : (numbers k).length = k.recordsSize := by
  have h (key name : Nat) (gs : List (Keyed.Group ρ)) :
      4 * gs.length + (groupBlocks key name gs).length
        = gs.foldr (fun g n => 16 + 16 * g.entries.size + n) 0 := by
    induction gs generalizing key name with
    | nil => rfl
    | cons g gs ih =>
      rw [groupBlocks, List.foldr_cons, ← ih (key + 1) (name + (groupNames [g]).length),
        List.length_append, length_groupBlock,
        List.length_cons]
      omega
  rw [recordsSize, ← h 0 k.recordsSize, numbers, List.length_append, List.length_append,
    length_le32, length_positions]

/-- The counted size of the names is that of the names. -/
lemma length_groupNames (k : Keyed ρ) : (groupNames k.groups.toList).length = k.namesSize := by
  have hes (n : Nat) (es : List (Entry ρ)) :
      n + (entryNames es).length = es.foldr (fun e n => e.name.utf8ByteSize + n) n := by
    induction es with
    | nil => rfl
    | cons e es ih =>
      rw [List.foldr_cons, ← ih, entryNames, List.flatMap_cons, ← entryNames,
        List.length_append, Utf8.length_ofString]
      omega
  have hgs (gs : List (Keyed.Group ρ)) :
      (groupNames gs).length = gs.foldr (fun g n => g.namesSize + n) 0 := by
    induction gs with
    | nil => rfl
    | cons g gs ih =>
      rw [List.foldr_cons, ← ih, groupNames_cons, groupNames_singleton, List.length_append,
        List.length_append, hes, Group.namesSize, Utf8.length_ofString]
  rw [namesSize, hgs]

lemma length_image (k : Keyed ρ) : (image k).length = k.size := by
  rw [image, List.length_append, length_numbers, length_groupNames, Keyed.size]

/-! ### The draft of a module -/

namespace Draft

variable {base : Nat} {d : Draft} {numbers names : List UInt8}

lemma Laid.putPositions (h : Laid base d numbers names) (position : Nat)
    (gs : List (Keyed.Group ρ)) (hgs : numbers.length + (positions position gs).length ≤ base) :
    Laid base (d.putPositions position gs) (numbers ++ positions position gs) names := by
  induction gs generalizing d numbers position with
  | nil => rwa [Image.positions, List.append_nil]
  | cons g gs ih =>
    rw [Image.positions, List.length_append] at hgs
    rw [Draft.putPositions, Image.positions, ← List.append_assoc]
    exact ih (h.put _ (by omega)) _ (by rw [List.length_append]; omega)

lemma Laid.putEntries (h : Laid base d numbers names) (key : Nat) (es : List (Entry ρ))
    (hes : numbers.length + 16 * es.length ≤ base) :
    Laid base (d.putEntries key es) (numbers ++ entryRecords key (base + names.length) es)
      (names ++ entryNames es) := by
  induction es generalizing d numbers names key with
  | nil => rwa [Draft.putEntries, entryRecords, entryNames, List.flatMap_nil, List.append_nil,
      List.append_nil]
  | cons e es ih =>
    rw [List.length_cons] at hes
    have h' := (h.putName e.name).put (entryRecord key d.name e)
      (by rw [length_entryRecord]; omega)
    have := ih h' (key + 1) (by rw [List.length_append, length_entryRecord]; omega)
    rw [List.length_append, ← Nat.add_assoc, List.append_assoc, List.append_assoc, h.name_eq]
      at this
    rw [Draft.putEntries, h.name_eq]
    exact this

lemma Laid.putGroup (h : Laid base d numbers names) (key : Nat) (g : Keyed.Group ρ)
    (hg : numbers.length + (12 + 16 * g.entries.size) ≤ base) :
    Laid base (((d.putName g.name).put (groupRecord key d.name g)).putEntries 0 g.entries.toList)
      (numbers ++ groupBlock key (base + names.length) g) (names ++ groupNames [g]) := by
  have hsize : g.entries.toList.length = g.entries.size := Array.length_toList
  have h' := ((h.putName g.name).put (groupRecord key d.name g)
    (by rw [length_groupRecord]; omega)).putEntries 0 g.entries.toList
    (by rw [List.length_append, length_groupRecord]; omega)
  rw [List.length_append, ← Nat.add_assoc, List.append_assoc, List.append_assoc, h.name_eq] at h'
  rw [h.name_eq, groupNames_singleton]
  exact h'

lemma Laid.putGroups (h : Laid base d numbers names) (key : Nat) (gs : List (Keyed.Group ρ))
    (hgs : numbers.length + (groupBlocks key (base + names.length) gs).length ≤ base) :
    Laid base (d.putGroups key gs) (numbers ++ groupBlocks key (base + names.length) gs)
      (names ++ groupNames gs) := by
  induction gs generalizing d numbers names key with
  | nil => rwa [Draft.putGroups, groupBlocks, groupNames, List.flatMap_nil, List.append_nil,
      List.append_nil]
  | cons g gs ih =>
    rw [groupBlocks, List.length_append, length_groupBlock] at hgs
    -- the names of the next fixture start where those of this one end
    have hstart : base + (names ++ groupNames [g]).length
        = base + names.length + (groupNames [g]).length := by
      rw [List.length_append, Nat.add_assoc]
    have h' := ih (h.putGroup key g (by omega)) (key + 1)
    rw [hstart, List.append_assoc, List.append_assoc, List.length_append, length_groupBlock] at h'
    rw [Draft.putGroups, groupBlocks, groupNames_cons g gs]
    exact h' (by omega)

end Draft

/-- All numbers and all names of a module are written, and nothing else. -/
lemma laid_draft (k : Keyed ρ) :
    (draft k).Laid k.recordsSize (numbers k) (groupNames k.groups.toList) := by
  have hlen := length_numbers k
  rw [numbers, List.length_append, List.length_append] at hlen
  have h := (((Draft.laid_nil k.recordsSize).put (le32 (UInt32.ofNat k.groups.toList.length))
    (by rw [List.length_nil]; omega)).putPositions (4 + 4 * k.groups.toList.length)
    k.groups.toList (by rw [List.nil_append]; omega)).putGroups 0 k.groups.toList
    (by rw [List.length_append, List.nil_append, List.length_nil, Nat.add_zero]; omega)
  rw [List.nil_append, List.length_nil, Nat.add_zero, List.nil_append, List.append_assoc] at h
  exact h

lemma write_stop_le (k : Keyed ρ) {w : Write} (hw : w ∈ writes k) : w.stop ≤ k.size := by
  have h := (laid_draft k).stop_le w (List.mem_reverse.mp hw)
  rwa [length_groupNames] at h

/-- An image overwrites just as much of a buffer as it is long. -/
lemma writeInto_eq (k : Keyed ρ) {buffer : List UInt8} (h : k.size ≤ buffer.length) :
    writeInto k buffer = .ok (k.size, image k ++ buffer.drop k.size) := by
  have hfill := (laid_draft k).fill_eq buffer (by rw [length_groupNames]; exact h)
  rw [length_numbers, length_groupNames, ← Keyed.size, List.extract_eq_take_drop, Nat.sub_self,
    List.take_zero, List.nil_append, ← List.append_assoc, ← image] at hfill
  rw [writeInto, if_neg (Nat.not_lt.mpr h), writes, ← hfill, Draft.fill]

end Testbench.Image
