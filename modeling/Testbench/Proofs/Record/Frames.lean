import Testbench.Proofs.Record

/-!
# Counting frames

A record says how many frames its stack has, and the text of the stack has the frames themselves, a
line each.  The writer counts the lines that are not empty, but the reader returns them all.  Where
no frame is empty or has line breaks of its own, the text that a record holds has at most one empty
line: the last one, if the text was cut down right behind a line break.  The count leaves that line
out, and in no other case are the two numbers apart.
-/

namespace Testbench

/-- Each frame of a stack makes one line. -/
def StackTrace.Plain (t : StackTrace) : Prop := ∀ f ∈ t.frames, f ≠ "" ∧ '\n' ∉ f.toList

/-- The frames of the stack that an event has; none if it has no stack. -/
def Event.frames (e : Event) : List String := (e.stack.map StackTrace.frames).getD []

/-- Each frame of an event makes one line. -/
def Event.Plain (e : Event) : Prop := ∀ t, e.stack = some t → t.Plain

namespace Record

/-- What a record holds of the frames of an event ends with a line break. -/
def CutAtBreak (e : Event) : Prop :=
  ∃ t p, e.stack = some t ∧ Utf8.IsCap maxText (joinedFrames t) p ∧ p.getLast? = some '\n'

/-! ### Lines of a beginning -/

/-- A beginning of two texts that are put together ends in the first or goes on in the second. -/
lemma prefix_append_cases {α : Type} {p a b : List α} (h : p <+: a ++ b) :
    p <+: a ∨ ∃ q, p = a ++ q ∧ q <+: b := by
  rcases Nat.le_total p.length a.length with hle | hle
  · exact .inl (List.prefix_of_prefix_length_le h (List.prefix_append a b) hle)
  · obtain ⟨q, rfl⟩ := List.prefix_of_prefix_length_le (List.prefix_append a b) h hle
    exact .inr ⟨q, rfl, (List.prefix_append_right_inj a).mp h⟩

/-- A text that is not empty and has no line break is one line, which does not end with a break. -/
lemma lines_of_ne_nil {p : List Char} (hne : p ≠ []) (hbreak : '\n' ∉ p) :
    ∃ ls, (∀ l ∈ ls, l ≠ []) ∧ ls.length = 1 ∧ p.getLast? ≠ some '\n' ∧ lines p = ls := by
  refine ⟨[p], ?_, rfl, ?_, lines_of_unbroken hbreak⟩
  · intro l hl
    obtain rfl := List.mem_singleton.mp hl
    exact hne
  · exact fun hlast => hbreak (List.mem_of_getLast? hlast)

/-- A beginning of some lines put together has those lines, of which only the last may be cut down,
and an empty one behind them if it ends with a line break. -/
lemma lines_of_prefix {fs : List (List Char)} (hfs : ∀ f ∈ fs, f ≠ [] ∧ '\n' ∉ f) {p : List Char}
    (hp : p <+: List.intercalate ['\n'] fs) (hne : p ≠ []) :
    ∃ ls, (∀ l ∈ ls, l ≠ []) ∧ 0 < ls.length ∧ ls.length ≤ fs.length ∧
      (p.getLast? ≠ some '\n' ∧ lines p = ls ∨ p.getLast? = some '\n' ∧ lines p = ls ++ [[]]) := by
  -- along the lines, of which the beginning has some as a whole
  induction fs generalizing p with
  | nil => exact absurd (List.prefix_nil.mp hp) hne
  | cons f fs ih =>
    obtain ⟨hf, hfbreak⟩ := hfs f List.mem_cons_self
    have hfirst (hpf : p <+: f) : ∃ ls, (∀ l ∈ ls, l ≠ []) ∧ 0 < ls.length ∧
        ls.length ≤ (f :: fs).length ∧
        (p.getLast? ≠ some '\n' ∧ lines p = ls ∨ p.getLast? = some '\n' ∧ lines p = ls ++ [[]]) := by
      obtain ⟨ls, hls, hlen, hlast, hlines⟩ :=
        lines_of_ne_nil hne fun hmem => hfbreak (hpf.subset hmem)
      refine ⟨ls, hls, ?_, ?_, .inl ⟨hlast, hlines⟩⟩ <;> rw [hlen]
      · exact Nat.one_pos
      · exact Nat.succ_le_succ (Nat.zero_le _)
    by_cases hnil : fs = []
    · subst hnil
      exact hfirst (by simpa [List.intercalate] using hp)
    · rw [intercalate_cons _ _ hnil] at hp
      rcases prefix_append_cases hp with hpf | ⟨q, rfl, hq⟩
      · exact hfirst hpf
      · rcases List.prefix_cons_iff.mp hq with rfl | ⟨r, rfl, hr⟩
        · rw [List.append_nil] at hfirst ⊢
          rw [List.append_nil] at hne
          exact hfirst List.prefix_rfl
        · -- the first line is there as a whole, and its line break with it
          rw [lines_append_break hfbreak, List.getLast?_append_of_ne_nil _ (List.cons_ne_nil _ _)]
          by_cases hr0 : r = []
          · subst hr0
            refine ⟨[f], ?_, Nat.one_pos, Nat.succ_le_succ (Nat.zero_le _), .inr ⟨rfl, rfl⟩⟩
            intro l hl
            obtain rfl := List.mem_singleton.mp hl
            exact hf
          · obtain ⟨ls, hls, hpos, hlen, hcases⟩ :=
              ih (fun g hg => hfs g (List.mem_cons_of_mem f hg)) hr hr0
            refine ⟨f :: ls, ?_, Nat.succ_pos _, Nat.succ_le_succ hlen, ?_⟩
            · intro l hl
              rcases List.mem_cons.mp hl with rfl | hl
              · exact hf
              · exact hls l hl
            · rw [List.getLast?_cons_of_ne_nil hr0, List.cons_append, List.cons_inj_right,
                List.cons_inj_right]
              exact hcases

/-! ### The count -/

/-- The lines of a text that are counted, where no line but the last is empty. -/
lemma frameCount_of_lines {p : List Char} (ls ms : List (List Char)) (hls : ∀ l ∈ ls, l ≠ [])
    (hms : ∀ l ∈ ms, l = []) (h : lines p = ls ++ ms) : frameCount p = ls.length := by
  have hall : ls.countP (fun l => !l.isEmpty) = ls.length :=
    List.countP_eq_length.mpr fun l hl => by
      rw [Bool.not_eq_true', List.isEmpty_eq_false_iff]
      exact hls l hl
  have hnone : ms.countP (fun l => !l.isEmpty) = 0 :=
    List.countP_eq_zero.mpr fun l hl => by
      rw [hms l hl]
      exact Bool.false_ne_true
  rw [frameCount, h, List.countP_append, hall, hnone, Nat.add_zero]

/-- A record has room for the first character of a text. -/
lemma stackText_ne_nil {t : StackTrace} (h : joinedFrames t ≠ []) : stackText t ≠ [] := by
  obtain ⟨c, cs, hcs⟩ := List.exists_cons_of_ne_nil h
  have hc : c.utf8Size ≤ maxText := Nat.le_trans c.utf8Size_le_four (by decide)
  rw [joinedFrames] at hcs
  rw [stackText, hcs, Utf8.cap_cons, if_pos hc]
  exact List.cons_ne_nil _ _

lemma cutAtBreak_iff {e : Event} {t : StackTrace} (h : e.stack = some t) :
    CutAtBreak e ↔ (stackText t).getLast? = some '\n' := by
  constructor
  · rintro ⟨u, p, hu, hp, hlast⟩
    obtain rfl : t = u := Option.some.inj (h.symm.trans hu)
    rwa [hp.eq_cap] at hlast
  · exact fun hlast => ⟨t, stackText t, h, Utf8.isCap_cap _ _, hlast⟩

/-- The lines of the frames that a record has room for. -/
lemma plain_lines {t : StackTrace} (ht : t.Plain) :
    ∀ l ∈ (t.frames.take maxFrames).map String.toList, l ≠ [] ∧ '\n' ∉ l := by
  intro l hl
  obtain ⟨f, hf, rfl⟩ := List.mem_map.mp hl
  obtain ⟨hne, hbreak⟩ := ht f (List.mem_of_mem_take hf)
  exact ⟨fun h => hne (String.toList_eq_nil_iff.mp h), hbreak⟩

/-- What a record keeps of a stack with plain frames: as many frames as it counts, and an empty one
behind them where the text is cut at a break. -/
lemma frames_keptStack {t : StackTrace} (ht : t.Plain) :
    frameCount (stackText t) ≤ maxFrames ∧
    ∃ fs : List String, fs.length = frameCount (stackText t) ∧
      ((stackText t).getLast? ≠ some '\n' ∧
          ((keptStack (some t)).map StackTrace.frames).getD [] = fs ∨
        (stackText t).getLast? = some '\n' ∧
          ((keptStack (some t)).map StackTrace.frames).getD [] = fs ++ [""]) := by
  by_cases hnil : joinedFrames t = []
  · -- without a frame there is no text
    have htext : stackText t = [] := by
      rw [joinedFrames] at hnil
      rw [stackText, hnil]
      rfl
    rw [keptStack, htext]
    exact ⟨Nat.zero_le _, [], rfl, .inl ⟨by simp, rfl⟩⟩
  · have hprefix : stackText t <+: joinedFrames t := (Utf8.isCap_cap _ _).isPrefix
    obtain ⟨ls, hls, hpos, hlen, hcases⟩ :=
      lines_of_prefix (plain_lines ht) hprefix (stackText_ne_nil hnil)
    have hmax : ls.length ≤ maxFrames := by
      rw [List.length_map, List.length_take] at hlen
      exact Nat.le_trans hlen (Nat.min_le_left _ _)
    rcases hcases with ⟨hlast, hlines⟩ | ⟨hlast, hlines⟩
    · have hcount : frameCount (stackText t) = ls.length :=
        frameCount_of_lines ls [] hls (by simp) (by rw [hlines, List.append_nil])
      refine ⟨hcount ▸ hmax, ls.map String.ofList, ?_, .inl ⟨hlast, ?_⟩⟩
      · rw [List.length_map, hcount]
      · rw [keptStack, if_neg (by omega), hlines]
        rfl
    · have hcount : frameCount (stackText t) = ls.length :=
        frameCount_of_lines ls [[]] hls (fun l hl => List.mem_singleton.mp hl) hlines
      refine ⟨hcount ▸ hmax, ls.map String.ofList, ?_, .inr ⟨hlast, ?_⟩⟩
      · rw [List.length_map, hcount]
      · rw [keptStack, if_neg (by omega), hlines, List.map_append]
        rfl

/-- The record of an event with plain frames counts at most `maxFrames` of them, and they are the
frames that are read back from it: exactly those if the text of the stack is not cut at a break, and
if it is, those and an empty one behind them. -/
theorem frames_counted (e : Event) (he : e.Plain) (rest : List UInt8) :
    ∃ k w, decode (encode e ++ rest) = .ok (k, (encode e).length) ∧
      readWord (encode e).toArray 12 = .ok w ∧
      w.toNat ≤ maxFrames ∧
      (¬ CutAtBreak e → k.frames.length = w.toNat) ∧
      (CutAtBreak e → ∃ fs, k.frames = fs ++ [""] ∧ fs.length = w.toNat) := by
  refine ⟨kept e, _, decode_encode_append e rest, readWord_frames e, ?_⟩
  rcases hs : e.stack with - | t
  · -- nothing is counted and nothing read
    have hcut : ¬ CutAtBreak e := by
      rintro ⟨t, -, ht, -⟩
      exact absurd (hs.symm.trans ht) nofun
    simp only [writtenFrames, Event.frames, kept, hs]
    exact ⟨Nat.zero_le _, fun _ => rfl, fun h => absurd h hcut⟩
  · obtain ⟨hmax, fs, hlen, hframes⟩ := frames_keptStack (he t hs)
    -- the count is far from the width of a word
    have hw : (UInt32.ofNat (frameCount (stackText t))).toNat = frameCount (stackText t) :=
      toNat_ofNat32 (Nat.lt_of_le_of_lt hmax (by decide))
    simp only [writtenFrames, Event.frames, kept, hs, hw, cutAtBreak_iff hs]
    refine ⟨hmax, fun hcut => ?_, fun hcut => ⟨fs, ?_, hlen⟩⟩
    · obtain ⟨-, hfs⟩ | ⟨hlast, -⟩ := hframes
      · rw [hfs, hlen]
      · exact absurd hlast hcut
    · obtain ⟨hlast, -⟩ | ⟨-, hfs⟩ := hframes
      · exact absurd hcut hlast
      · exact hfs

/-- Two frames with room to spare are the frames that are counted. -/
theorem frames_counted_two :
    ∃ k w, decode (encode ⟨.log "up", some ⟨["inner", "outer"]⟩⟩ ++ []) =
        .ok (k, (encode ⟨.log "up", some ⟨["inner", "outer"]⟩⟩).length) ∧
      readWord (encode ⟨.log "up", some ⟨["inner", "outer"]⟩⟩).toArray 12 = .ok w ∧
      w.toNat ≤ maxFrames ∧ k.frames.length = w.toNat := by
  have hplain : Event.Plain ⟨.log "up", some ⟨["inner", "outer"]⟩⟩ := by
    intro t ht
    obtain rfl := Option.some.inj ht
    simp [StackTrace.Plain]
  obtain ⟨k, w, hk, hw, hmax, hlen, -⟩ := frames_counted _ hplain []
  refine ⟨k, w, hk, hw, hmax, hlen ?_⟩
  rw [cutAtBreak_iff rfl]
  decide

/-- A stack whose first frame leaves room for its line break and nothing else. -/
def brimful : Event := ⟨.log "", some ⟨[String.ofList (List.replicate (maxText - 1) 'a'), "b"]⟩⟩

lemma size_replicate (n : Nat) : Utf8.size (List.replicate n 'a') = n := by
  induction n with
  | zero => rfl
  | succ n ih =>
    rw [List.replicate_succ, Utf8.size_cons, ih, Nat.add_comm]
    rfl

/-- The text of that stack ends with the line break. -/
lemma stackText_brimful : stackText ⟨[String.ofList (List.replicate (maxText - 1) 'a'), "b"]⟩ =
    List.replicate (maxText - 1) 'a' ++ ['\n'] := by
  have hsize : Utf8.size (List.replicate (maxText - 1) 'a' ++ ['\n']) = maxText := by
    rw [Utf8.size_append, size_replicate]
    rfl
  have hjoined : List.intercalate ['\n']
      [List.replicate (maxText - 1) 'a', ['b']] =
        (List.replicate (maxText - 1) 'a' ++ ['\n']) ++ ['b'] := by
    rw [intercalate_cons _ _ (List.cons_ne_nil _ _), List.append_assoc]
    rfl
  simp only [stackText, maxFrames, List.take_succ_cons, List.take_nil, List.map_cons, List.map_nil,
    String.toList_ofList]
  have hcap := Utf8.isCap_of_size_eq hsize ['b']
  rw [← hjoined] at hcap
  exact hcap.eq_cap.symm

lemma newline_notMem_replicate (n : Nat) : '\n' ∉ List.replicate n 'a' :=
  fun h => absurd (List.eq_of_mem_replicate h) (by decide)

/-- The one frame of that record is read back as two. -/
theorem frames_brimful : brimful.Plain ∧
    ∃ k w, decode (encode brimful) = .ok (k, (encode brimful).length) ∧
      readWord (encode brimful).toArray 12 = .ok w ∧ w = 1 ∧
      k.frames = [String.ofList (List.replicate (maxText - 1) 'a'), ""] := by
  have hlines : lines (List.replicate (maxText - 1) 'a' ++ ['\n']) =
      [List.replicate (maxText - 1) 'a', []] :=
    lines_append_break (newline_notMem_replicate _) []
  have hne : List.replicate (maxText - 1) 'a' ≠ [] := List.cons_ne_nil 'a' _
  have hcount : frameCount (List.replicate (maxText - 1) 'a' ++ ['\n']) = 1 :=
    frameCount_of_lines [_] [[]] (fun l hl => List.mem_singleton.mp hl ▸ hne)
      (fun l hl => List.mem_singleton.mp hl) hlines
  refine ⟨?_, kept brimful, _, ?_, readWord_frames brimful, ?_, ?_⟩
  · intro t ht f hf
    obtain rfl := Option.some.inj ht
    rcases List.mem_pair.mp hf with rfl | rfl
    · rw [String.toList_ofList]
      exact ⟨fun h => hne (String.ofList_eq_empty_iff.mp h), newline_notMem_replicate _⟩
    · decide
  · have h := decode_encode_append brimful []
    rwa [List.append_nil] at h
  · simp only [writtenFrames, brimful, stackText_brimful, hcount]
    rfl
  · simp only [Event.frames, kept, keptStack, brimful, stackText_brimful, hcount, hlines]
    rfl

end Record

end Testbench
