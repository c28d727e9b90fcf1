import Testbench.Proofs.Image
import Testbench.Proofs.Image.Local

/-!
# Images that are cut off

Nothing in an image says how long it is, so that a reader of a part of it notices only because it
looks for something that is not there.  It has to look at the very last byte for that.  Each part of
an image starts where another one ends, and a reader looks at the last byte of every part that has
one: a word is read whole, and a name is known to end within the bytes even if it is empty.  So if
the bytes `Reach` the start of a part and the part is read from them, they reach its end, and from
there the next part; it does not matter which of them are empty.
-/

namespace Testbench.Image

open Keyed

variable {ρ : Type} {p t : List UInt8}

/-- If bytes reach the start of a part, they reach its end. -/
def Reach (p : List UInt8) (start size : Nat) : Prop := start ≤ p.length → start + size ≤ p.length

namespace Reach

variable {start size m n : Nat}

lemma empty (p : List UInt8) (start : Nat) : Reach p start 0 := id

lemma of_stop_le (h : start + size ≤ p.length) : Reach p start size := fun _ => h

/-- A part is reached to its end if it consists of two that are. -/
lemma append (h : Reach p start m) (h' : Reach p (start + m) n) : Reach p start (m + n) := by
  intro hstart
  rw [← Nat.add_assoc]
  exact h' (h hstart)

end Reach

/-! ### The parts of an image -/

section

variable {start : Nat}

/-- A word that is read from a part of an image is that of the image. -/
lemma read32_part {v w : UInt32} (h : read32 p.toArray start = .ok v)
    (hlies : Lies (le32 w) start (p ++ t)) : v = w := by
  have hv := (read32_stays p t start).ok h
  rw [read32, hlies.word32_eq] at hv
  exact (Except.ok.inj hv).symm

lemma read16_part {v w : UInt16} (h : read16 p.toArray start = .ok v)
    (hlies : Lies (le16 w) start (p ++ t)) : v = w := by
  have hv := (read16_stays p t start).ok h
  rw [read16, hlies.word16_eq] at hv
  exact (Except.ok.inj hv).symm

variable (himg : (p ++ t).length ≤ 0xffffffff)
include himg

/-- A name that is read is there to its end. -/
lemma reach_of_readName {s r : String} (hlies : Lies (Utf8.ofString s) start (p ++ t))
    (h : readName p.toArray (UInt32.ofNat start) (UInt32.ofNat s.utf8ByteSize) = .ok r) :
    Reach p start (Utf8.ofString s).length := by
  have hstop := hlies.stop_le
  have hlen := Utf8.length_ofString s
  have hread := (of_readName h).1
  rw [toNat_position himg hlies, toNat_ofNat32 (by omega)] at hread
  exact .of_stop_le (by rwa [hlen])

lemma reach_of_readEntry {key name : Nat} {e : Entry ρ} {info : EntryInfo}
    (hlies : Lies (Draft.entryRecord key name e) start (p ++ t))
    (hname : Lies (Utf8.ofString e.name) name (p ++ t))
    (h : readEntry p.toArray start = .ok info) :
    Reach p start 16 ∧ Reach p name (Utf8.ofString e.name).length := by
  obtain ⟨v, w, hv, hw, hread⟩ := of_readEntry h
  rw [Draft.entryRecord] at hlies
  obtain rfl := read32_part hv hlies.left.right
  obtain rfl := read32_part hw hlies.right
  exact ⟨.of_stop_le (stop_le_of_read32 hw), reach_of_readName himg hname hread⟩

lemma reach_of_readEntries {key name : Nat} {es : List (Entry ρ)} {done infos : List EntryInfo}
    (hlies : Lies (entryRecords key name es) start (p ++ t))
    (hnames : Lies (entryNames es) name (p ++ t))
    (h : readEntries p.toArray start done es.length = .ok infos) :
    Reach p start (entryRecords key name es).length ∧ Reach p name (entryNames es).length := by
  induction es generalizing start key name done with
  | nil => exact ⟨.empty p start, .empty p name⟩
  | cons e es ih =>
    rw [entryRecords] at hlies
    rw [entryNames, List.flatMap_cons, ← entryNames] at hnames
    rw [List.length_cons, readEntries_succ] at h
    obtain ⟨info, hinfo, h⟩ := of_bind_ok h
    have hfirst := reach_of_readEntry himg hlies.left hnames.left hinfo
    have hrest := ih hlies.right hnames.right h
    rw [length_entryRecord] at hrest
    rw [entryRecords, entryNames, List.flatMap_cons, ← entryNames, List.length_append,
      List.length_append, length_entryRecord]
    exact ⟨hfirst.1.append hrest.1, hfirst.2.append hrest.2⟩

lemma reach_of_readFixture {key name : Nat} {g : Keyed.Group ρ} {info : FixtureInfo}
    (hg : g.entries.toList.length ≤ maxKeys) (hlies : Lies (groupBlock key name g) start (p ++ t))
    (hnames : Lies (groupNames [g]) name (p ++ t)) (h : readFixture p.toArray start = .ok info) :
    Reach p start (groupBlock key name g).length ∧ Reach p name (groupNames [g]).length := by
  obtain ⟨count, v, w, hcount, hv, hw, hentries, hname⟩ := of_readFixture h
  rw [groupBlock, Draft.groupRecord] at hlies
  rw [groupNames_singleton] at hnames
  obtain rfl := read16_part hcount hlies.left.left.left.right
  obtain rfl := read32_part hv hlies.left.left.right
  obtain rfl := read32_part hw hlies.left.right
  rw [toNat_entries hg] at hentries
  have hrecord : Reach p start 12 := .of_stop_le (stop_le_of_read32 hw)
  have hrest := reach_of_readEntries himg hlies.right hnames.right hentries
  rw [groupBlock, groupNames_singleton, List.length_append, List.length_append]
  exact ⟨hrecord.append hrest.1, (reach_of_readName himg hnames.left hname).append hrest.2⟩

/-- The table, the records and the names are read side by side, each up to its end. -/
lemma reach_of_readFixtures {position key name : Nat} {gs : List (Keyed.Group ρ)}
    {done infos : List FixtureInfo} (hgs : ∀ g ∈ gs, g.entries.toList.length ≤ maxKeys)
    (htable : Lies (positions position gs) start (p ++ t))
    (hlies : Lies (groupBlocks key name gs) position (p ++ t))
    (hnames : Lies (groupNames gs) name (p ++ t))
    (h : readFixtures p.toArray start done gs.length = .ok infos) :
    Reach p start (positions position gs).length ∧
      Reach p position (groupBlocks key name gs).length ∧ Reach p name (groupNames gs).length := by
  induction gs generalizing start position key name done with
  | nil => exact ⟨.empty p start, .empty p position, .empty p name⟩
  | cons g gs ih =>
    rw [positions] at htable
    rw [groupBlocks] at hlies
    rw [groupNames_cons] at hnames
    rw [List.length_cons, readFixtures_succ] at h
    obtain ⟨word, hword, hrest⟩ := of_bind_ok h
    obtain rfl := read32_part hword htable.left
    rw [toNat_position himg hlies] at hrest
    obtain ⟨info, hinfo, hrest⟩ := of_bind_ok hrest
    have hposition : Reach p start 4 := .of_stop_le (stop_le_of_read32 hword)
    have hfirst := reach_of_readFixture himg (hgs g List.mem_cons_self) hlies.left hnames.left hinfo
    have hblocks := hlies.right
    rw [length_groupBlock] at hblocks
    obtain ⟨h₁, h₂, h₃⟩ := ih (fun g' hg' => hgs g' (List.mem_cons_of_mem g hg')) htable.right
      hblocks hnames.right hrest
    rw [positions, groupBlocks, groupNames_cons g gs, List.length_append, List.length_append,
      List.length_append, length_groupBlock]
    rw [length_groupBlock] at hfirst
    exact ⟨hposition.append h₁, hfirst.1.append h₂, hfirst.2.append h₃⟩

end

/-! ### Images -/

/-- Bytes that a module is read from, and that an image goes on from, reach the end of it. -/
lemma length_le_of_decode {m : Module ρ} {k : Keyed ρ} (hk : Numbers m k) {info : ModuleInfo}
    (hp : image k = p ++ t) (h : decode p = .ok info) : (image k).length ≤ p.length := by
  have himg := length_image_le hk
  obtain ⟨hcountLies, htable, hblocks, hnames⟩ := lies_image k
  rw [hp] at himg hcountLies htable hblocks hnames
  obtain ⟨count, hcount, hrest⟩ := of_bind_ok h
  obtain rfl := read32_part hcount hcountLies
  have hle := hk.groups_le
  rw [maxKeys] at hle
  rw [toNat_ofNat32 (by omega)] at hrest
  obtain ⟨fixtures, hfixtures, -⟩ := of_bind_ok hrest
  obtain ⟨h₁, h₂, h₃⟩ := reach_of_readFixtures himg hk.entries_le htable hblocks hnames hfixtures
  have hword : Reach p 0 4 := .of_stop_le (stop_le_of_read32 hcount)
  rw [length_positions] at h₁
  have hnumbers : Reach p 0 (numbers k).length := by
    rw [numbers, ← List.append_assoc, List.length_append, List.length_append, length_le32,
      length_positions]
    exact (hword.append h₁).append (by rwa [Nat.zero_add])
  rw [image, List.length_append, ← Nat.zero_add ((numbers k).length + _)]
  exact hnumbers.append (by rwa [Nat.zero_add, length_numbers]) (Nat.zero_le _)

/-- A module that can be numbered has an image, which is written into every buffer that is large
enough for it and which can be read.  No beginning of it but the whole of it can: a reader always
runs into the end, and says so. -/
theorem decode_cutOff {m : Module ρ} {k : Keyed ρ} (hk : ofModule? m = .ok k) :
    ∃ img, img.length = k.size ∧
      (∀ buffer : List UInt8, k.size ≤ buffer.length →
        writeInto k buffer = .ok (k.size, img ++ buffer.drop k.size)) ∧
      (∃ info, decode img = .ok info) ∧
      ∀ p, p <+: img → p ≠ img → ∃ why, decode p = .error why ∧ why.Short := by
  have h := numbers_of_ok hk
  have hdecode := decode_image h []
  rw [List.append_nil] at hdecode
  refine ⟨image k, length_image k, fun _ => writeInto_eq k, ⟨_, hdecode⟩, ?_⟩
  rintro p ⟨t, ht⟩ hne
  have hstays := decode_stays p t
  rw [ht] at hstays
  refine hstays.short_of_ne (fun info hinfo => hne ?_) hdecode
  -- what reaches the end of the image is the image
  have hlength := length_le_of_decode h ht.symm hinfo
  exact List.IsPrefix.eq_of_length_le ⟨t, ht⟩ hlength

theorem decode_cutOff_shelves : ∃ k, ofModule? shelves = .ok k ∧
    ∃ img, img.length = k.size ∧
      (∀ buffer : List UInt8, k.size ≤ buffer.length →
        writeInto k buffer = .ok (k.size, img ++ buffer.drop k.size)) ∧
      (∃ info, decode img = .ok info) ∧
      ∀ p, p <+: img → p ≠ img → ∃ why, decode p = .error why ∧ why.Short :=
  have hk : ofModule? shelves = .ok ⟨(shelves.fixtures.map groupOf).toArray⟩ := rfl
  ⟨_, hk, decode_cutOff hk⟩

end Testbench.Image
