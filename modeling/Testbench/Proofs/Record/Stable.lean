import Testbench.Proofs.Record.Frames

/-!
# Records of what records keep

What is read from a record is put into a record again, and the second record is the first one.  That
texts are cut down twice makes no difference, as the first cut leaves nothing to the second.  The
stack is another matter: its text is cut anywhere, read as lines, counted by lines and joined from
them again, so that there must not be more lines than a record has room for, nor a text that is left
out because nothing in it counts.  Where each frame makes one line there is neither: a beginning of
the joined frames has no more line breaks than there are between the frames, even if it ends with
one, and it starts with a line that is not empty.
-/

namespace Testbench.Record

/-! ### Texts -/

/-- What is left of a text is not cut down any further. -/
lemma cap_cap (limit : Nat) (cs : List Char) :
    Utf8.cap limit (Utf8.cap limit cs) = Utf8.cap limit cs :=
  Utf8.cap_of_size_le (Utf8.size_cap_le limit cs)

lemma capped_keptText (s : String) : capped (keptText s) = capped s := by
  rw [keptText, capped, String.toList_ofList, capped, cap_cap]

lemma texts_keptDetail (d : Event.Detail) : texts (keptDetail d) = (texts d).map keptText := by
  cases d <;> rfl

lemma leadWord_keptDetail (d : Event.Detail) : leadWord (keptDetail d) = leadWord d := by
  cases d <;> rfl

lemma kind_kept (e : Event) : (kept e).kind = e.kind := by
  obtain ⟨detail, stack⟩ := e
  cases detail <;> rfl

/-! ### Stacks -/

/-- A text has one line more than it has line breaks. -/
lemma length_lines (cs : List Char) : (lines cs).length = cs.count '\n' + 1 := by
  induction cs with
  | nil => rfl
  | cons c cs ih =>
    by_cases hc : c = '\n'
    · rw [hc, lines_break, List.length_cons, ih, List.count_cons_self]
    · obtain ⟨l, ls, hls⟩ := List.exists_cons_of_ne_nil (lines_ne_nil cs)
      rw [lines_cons hc hls, List.count_cons_of_ne hc, ← ih, hls, List.length_cons,
        List.length_cons]

/-- Lines that are put together have a break between any two of them and no others. -/
lemma count_intercalate {fs : List (List Char)} (hfs : ∀ f ∈ fs, '\n' ∉ f) :
    (List.intercalate ['\n'] fs).count '\n' = fs.length - 1 := by
  induction fs with
  | nil => rfl
  | cons f fs ih =>
    have hf : f.count '\n' = 0 := List.count_eq_zero.mpr (hfs f List.mem_cons_self)
    have hrest := ih fun g hg => hfs g (List.mem_cons_of_mem f hg)
    by_cases hnil : fs = []
    · subst hnil
      simpa [List.intercalate] using hf
    · have hpos := List.length_pos_of_ne_nil hnil
      rw [intercalate_cons _ _ hnil, List.count_append, List.count_append, hf, hrest,
        List.count_singleton_self, List.length_cons]
      omega

variable {t : StackTrace}

/-- However the text of a stack is cut, it has no more lines than a record has room for frames. -/
lemma length_lines_stackText_le (ht : t.Plain) : (lines (stackText t)).length ≤ maxFrames := by
  have hprefix : stackText t <+: joinedFrames t := (Utf8.isCap_cap _ _).isPrefix
  have hcount := hprefix.sublist.count_le '\n'
  rw [joinedFrames, count_intercalate fun l hl => (plain_lines ht l hl).2, List.length_map,
    List.length_take] at hcount
  rw [length_lines, maxFrames] at *
  omega

/-- A text of a stack starts with a frame, which is counted. -/
lemma frameCount_pos (ht : t.Plain) (hne : stackText t ≠ []) : 0 < frameCount (stackText t) := by
  have hprefix : stackText t <+: joinedFrames t := (Utf8.isCap_cap _ _).isPrefix
  obtain ⟨ls, hls, hpos, -, ⟨-, hlines⟩ | ⟨-, hlines⟩⟩ :=
    lines_of_prefix (plain_lines ht) hprefix hne
  · rwa [frameCount_of_lines ls [] hls nofun (by rw [hlines, List.append_nil])]
  · rwa [frameCount_of_lines ls [[]] hls (fun l hl => List.mem_singleton.mp hl) hlines]

/-- A text that fits is put together again from its lines. -/
lemma stackText_lines {p : List Char} (hsize : Utf8.size p ≤ maxText)
    (hlines : (lines p).length ≤ maxFrames) :
    stackText ⟨(lines p).map String.ofList⟩ = p := by
  have hback : ((lines p).map String.ofList).map String.toList = lines p := by
    rw [List.map_map, show String.toList ∘ String.ofList = id from funext fun _ =>
      String.toList_ofList, List.map_id]
  rw [stackText, List.take_of_length_le (by rwa [List.length_map]), hback, (isLines_lines p).joined,
    Utf8.cap_of_size_le hsize]

/-- A stack has the same text in the next record, and as many frames are counted. -/
lemma stack_kept {e : Event} (he : e.Plain) :
    stackOf (kept e) = stackOf e ∧ writtenFrames (kept e) = writtenFrames e := by
  obtain ⟨detail, stack⟩ := e
  cases stack with
  | none => exact ⟨rfl, rfl⟩
  | some t =>
    have ht : t.Plain := he t rfl
    simp only [stackOf, writtenFrames, kept, keptStack]
    by_cases hcount : frameCount (stackText t) = 0
    · -- a text without a frame is none, and so it may be left out
      have hnil : stackText t = [] := by
        by_contra hne
        exact absurd hcount (Nat.ne_of_gt (frameCount_pos ht hne))
      rw [if_pos hcount]
      exact ⟨hnil.symm, hcount.symm⟩
    · have htext := stackText_lines (size_stackText_le t) (length_lines_stackText_le ht)
      rw [if_neg hcount]
      exact ⟨htext, congrArg frameCount htext⟩

/-! ### Records -/

/-- A record is made of nothing but these parts of its event. -/
lemma encode_congr {e e' : Event} (hkind : e.kind = e'.kind)
    (hlead : leadWord e.detail = leadWord e'.detail)
    (hframes : writtenFrames e = writtenFrames e')
    (htexts : (texts e.detail).length = (texts e'.detail).length) (hpieces : pieces e = pieces e') :
    encode e = encode e' := by
  simp only [encode, unpaddedSize, hkind, hlead, hframes, htexts, hpieces]

lemma pieces_kept {e : Event} (hstack : stackOf (kept e) = stackOf e) :
    pieces (kept e) = pieces e := by
  rw [pieces, pieces, hstack, kept, texts_keptDetail, List.map_map]
  simp only [Function.comp_def, capped_keptText]

/-- The event that is read from the record of an event with plain frames has the same record, byte
for byte. -/
theorem encode_stable (e : Event) (he : e.Plain) (rest : List UInt8) :
    ∃ k, decode (encode e ++ rest) = .ok (k, (encode e).length) ∧ encode k = encode e := by
  obtain ⟨hstack, hframes⟩ := stack_kept he
  refine ⟨kept e, decode_encode_append e rest, encode_congr (kind_kept e) ?_ hframes ?_ ?_⟩
  · exact leadWord_keptDetail e.detail
  · rw [kept, texts_keptDetail, List.length_map]
  · exact pieces_kept hstack

/-- A stack with more frames than a record has room for, of which fifteen fill the text of a record
to its last byte, their line breaks included. -/
def deep : Event :=
  ⟨.log "", some ⟨List.replicate 40 (String.ofList (List.replicate 4368 'a'))⟩⟩

theorem encode_stable_deep : deep.Plain ∧
    ∃ k, decode (encode deep ++ []) = .ok (k, (encode deep).length) ∧ encode k = encode deep := by
  have hplain : deep.Plain := by
    intro t ht f hf
    obtain rfl := Option.some.inj ht
    obtain rfl := List.eq_of_mem_replicate hf
    rw [String.toList_ofList]
    refine ⟨fun h => ?_, newline_notMem_replicate _⟩
    exact absurd (String.ofList_eq_empty_iff.mp h) (List.cons_ne_nil 'a' _)
  exact ⟨hplain, encode_stable deep hplain []⟩

end Testbench.Record
