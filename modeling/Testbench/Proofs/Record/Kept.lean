import Testbench.Event.Record
import Testbench.Proofs.Utf8

/-!
# What a record keeps of an event

A record keeps the kind and the line of an event and cuts the rest down.  `Keeps` says so without
mentioning how records are written: a text becomes its longest beginning of `maxText` bytes, and a
stack the lines of the joined text of its first frames, cut down likewise, or nothing if all those
lines are empty.  `kept` computes that event, and `keeps_kept` is the agreement of the two.
-/

namespace Testbench.Record

/-! ### Lines -/

/-- `ls` are the pieces of a text between its line breaks. -/
structure IsLines (cs : List Char) (ls : List (List Char)) : Prop where
  joined : List.intercalate ['\n'] ls = cs
  unbroken : ∀ l ∈ ls, '\n' ∉ l
  ne_nil : ls ≠ []

lemma lines_nil : lines [] = [[]] := rfl

lemma lines_break (cs : List Char) : lines ('\n' :: cs) = [] :: lines cs := by
  rw [lines, List.foldr_cons, if_pos rfl, ← lines]

lemma lines_ne_nil (cs : List Char) : lines cs ≠ [] := by
  cases cs with
  | nil => exact List.cons_ne_nil _ _
  | cons c cs =>
    rw [lines, List.foldr_cons]
    split
    · exact List.cons_ne_nil _ _
    · split <;> exact List.cons_ne_nil _ _

lemma lines_cons {c : Char} (hc : c ≠ '\n') {cs l : List Char} {ls : List (List Char)}
    (h : lines cs = l :: ls) : lines (c :: cs) = (c :: l) :: ls := by
  rw [lines, List.foldr_cons, if_neg hc, ← lines, h]

lemma intercalate_cons {α : Type} (sep l : List α) {ls : List (List α)} (h : ls ≠ []) :
    List.intercalate sep (l :: ls) = l ++ (sep ++ List.intercalate sep ls) := by
  cases ls with
  | nil => exact absurd rfl h
  | cons m ls => simp [List.intercalate]

/-- Splitting a text at its line breaks gives its lines. -/
theorem isLines_lines (cs : List Char) : IsLines cs (lines cs) := by
  induction cs with
  | nil => exact ⟨rfl, by simp [lines_nil], lines_ne_nil []⟩
  | cons c cs ih =>
    obtain ⟨hj, hu, hn⟩ := ih
    by_cases hc : c = '\n'
    · -- a line ends here, and the others follow
      subst hc
      rw [lines_break]
      refine ⟨?_, ?_, List.cons_ne_nil _ _⟩
      · rw [intercalate_cons _ _ hn, hj]
        rfl
      · intro l hl
        rcases List.mem_cons.mp hl with rfl | hl
        · exact List.not_mem_nil
        · exact hu l hl
    · -- the character goes to the front of the first line
      obtain ⟨l, ls, hls⟩ := List.exists_cons_of_ne_nil hn
      rw [lines_cons hc hls]
      rw [hls] at hj hu
      refine ⟨?_, ?_, List.cons_ne_nil _ _⟩
      · cases ls with
        | nil => simpa [List.intercalate] using hj
        | cons m ls =>
          rw [intercalate_cons _ _ (List.cons_ne_nil _ _)] at hj ⊢
          rw [← hj, List.cons_append]
      · intro k hk
        rcases List.mem_cons.mp hk with rfl | hk
        · intro hmem
          rcases List.mem_cons.mp hmem with h | h
          · exact hc h.symm
          · exact hu l List.mem_cons_self h
        · exact hu k (List.mem_cons_of_mem _ hk)

/-- A text without line breaks is its only line. -/
lemma lines_of_unbroken {l : List Char} (h : '\n' ∉ l) : lines l = [l] := by
  induction l with
  | nil => rfl
  | cons c l ih =>
    rw [List.mem_cons, not_or] at h
    exact lines_cons (fun hc => h.1 hc.symm) (ih h.2)

/-- The first line of a text ends at the first line break. -/
lemma lines_append_break {l : List Char} (h : '\n' ∉ l) (cs : List Char) :
    lines (l ++ '\n' :: cs) = l :: lines cs := by
  induction l with
  | nil => exact lines_break cs
  | cons c l ih =>
    rw [List.mem_cons, not_or] at h
    exact lines_cons (fun hc => h.1 hc.symm) (ih h.2)

/-- The pieces between the line breaks are determined by the text. -/
theorem IsLines.eq_lines {cs : List Char} {ls : List (List Char)} (h : IsLines cs ls) :
    ls = lines cs := by
  obtain ⟨hj, hu, hn⟩ := h
  -- along the pieces, as each of them is what `lines` finds up to the next line break
  induction ls generalizing cs with
  | nil => exact absurd rfl hn
  | cons l ls ih =>
    have hl : '\n' ∉ l := hu l List.mem_cons_self
    by_cases hls : ls = []
    · subst hls
      obtain rfl : l = cs := by simpa [List.intercalate] using hj
      rw [lines_of_unbroken hl]
    · rw [intercalate_cons _ _ hls, List.singleton_append] at hj
      rw [← hj, lines_append_break hl, ← ih rfl (fun k hk => hu k (List.mem_cons_of_mem l hk)) hls]

/-- A text has at most one line more than it has characters. -/
lemma length_lines_le (cs : List Char) : (lines cs).length ≤ cs.length + 1 := by
  induction cs with
  | nil => exact Nat.le_refl 1
  | cons c cs ih =>
    by_cases hc : c = '\n'
    · rw [hc, lines_break, List.length_cons, List.length_cons]
      omega
    · obtain ⟨l, ls, hls⟩ := List.exists_cons_of_ne_nil (lines_ne_nil cs)
      rw [lines_cons hc hls, List.length_cons, List.length_cons]
      rw [hls, List.length_cons] at ih
      omega

/-! ### The relation -/

/-- The frames that a record has room for, as one text. -/
def joinedFrames (t : StackTrace) : List Char :=
  List.intercalate ['\n'] ((t.frames.take maxFrames).map String.toList)

/-- A text becomes `p`. -/
def KeepsText (s p : String) : Prop := Utf8.IsCap maxText s.toList p.toList

/-- What an event says becomes the second. -/
inductive KeepsDetail : Event.Detail → Event.Detail → Prop
  | failedAssertion {file routine expression file' routine' expression' : String} {line : UInt32} :
    KeepsText file file' → KeepsText routine routine' → KeepsText expression expression' →
      KeepsDetail (.failedAssertion file routine line expression)
        (.failedAssertion file' routine' line expression')
  | uncaughtException {s p : String} : KeepsText s p →
      KeepsDetail (.uncaughtException s) (.uncaughtException p)
  | inconclusiveness {s p : String} : KeepsText s p →
      KeepsDetail (.inconclusiveness s) (.inconclusiveness p)
  | log {s p : String} : KeepsText s p → KeepsDetail (.log s) (.log p)

/-- The stack of an event becomes the second. -/
inductive KeepsStack : Option StackTrace → Option StackTrace → Prop
  | absent : KeepsStack none none
  | blank {t : StackTrace} {text : List Char} {ls : List (List Char)} :
      Utf8.IsCap maxText (joinedFrames t) text → IsLines text ls → (∀ l ∈ ls, l = []) →
      KeepsStack (some t) none
  | shown {t : StackTrace} {text : List Char} {ls : List (List Char)} :
      Utf8.IsCap maxText (joinedFrames t) text → IsLines text ls → (∃ l ∈ ls, l ≠ []) →
      KeepsStack (some t) (some ⟨ls.map String.ofList⟩)

/-- A record of the first event holds the second. -/
structure Keeps (e k : Event) : Prop where
  detail : KeepsDetail e.detail k.detail
  stack : KeepsStack e.stack k.stack

/-! ### The event -/

/-- What is kept of a text. -/
def keptText (s : String) : String := String.ofList (capped s)

/-- What is kept of the texts of an event. -/
def keptDetail : Event.Detail → Event.Detail
  | .failedAssertion file routine line expression =>
    .failedAssertion (keptText file) (keptText routine) line (keptText expression)
  | .uncaughtException message => .uncaughtException (keptText message)
  | .inconclusiveness message => .inconclusiveness (keptText message)
  | .log message => .log (keptText message)

/-- What is kept of a stack. -/
def keptStack : Option StackTrace → Option StackTrace
  | none => none
  | some t =>
    if frameCount (stackText t) = 0 then none
    else some ⟨(lines (stackText t)).map String.ofList⟩

/-- What is kept of an event. -/
def kept (e : Event) : Event := ⟨keptDetail e.detail, keptStack e.stack⟩

lemma keepsText_keptText (s : String) : KeepsText s (keptText s) := by
  rw [KeepsText, keptText, String.toList_ofList]
  exact Utf8.isCap_cap maxText s.toList

lemma keepsDetail_keptDetail (d : Event.Detail) : KeepsDetail d (keptDetail d) := by
  cases d with
  | failedAssertion file routine line expression =>
    exact .failedAssertion (keepsText_keptText _) (keepsText_keptText _) (keepsText_keptText _)
  | uncaughtException message => exact .uncaughtException (keepsText_keptText _)
  | inconclusiveness message => exact .inconclusiveness (keepsText_keptText _)
  | log message => exact .log (keepsText_keptText _)

/-- No frame is counted exactly if every line is empty. -/
lemma frameCount_eq_zero (text : List Char) : frameCount text = 0 ↔ ∀ l ∈ lines text, l = [] := by
  rw [frameCount, List.countP_eq_zero]
  simp only [Bool.not_eq_true', Bool.not_eq_false, List.isEmpty_iff]

lemma keepsStack_keptStack (s : Option StackTrace) : KeepsStack s (keptStack s) := by
  cases s with
  | none => exact .absent
  | some t =>
    have hcap : Utf8.IsCap maxText (joinedFrames t) (stackText t) := Utf8.isCap_cap _ _
    rw [keptStack]
    split
    · next h => exact .blank hcap (isLines_lines _) ((frameCount_eq_zero _).mp h)
    · next h =>
      refine .shown hcap (isLines_lines _) ?_
      rw [frameCount_eq_zero] at h
      simpa only [Classical.not_forall, exists_prop] using h

theorem keeps_kept (e : Event) : Keeps e (kept e) :=
  ⟨keepsDetail_keptDetail e.detail, keepsStack_keptStack e.stack⟩

lemma KeepsText.eq_keptText {s p : String} (h : KeepsText s p) : p = keptText s := by
  rw [← String.toList_inj, keptText, String.toList_ofList]
  exact Utf8.IsCap.eq_cap h

lemma KeepsDetail.eq_keptDetail {d k : Event.Detail} (h : KeepsDetail d k) :
    k = keptDetail d := by
  cases h with
  | failedAssertion hf hr he =>
    rw [keptDetail, ← hf.eq_keptText, ← hr.eq_keptText, ← he.eq_keptText]
  | uncaughtException hs => rw [keptDetail, ← hs.eq_keptText]
  | inconclusiveness hs => rw [keptDetail, ← hs.eq_keptText]
  | log hs => rw [keptDetail, ← hs.eq_keptText]

lemma KeepsStack.eq_keptStack {s k : Option StackTrace} (h : KeepsStack s k) :
    k = keptStack s := by
  cases h with
  | absent => rfl
  | @blank t text ls hcap hls hblank =>
    obtain rfl : text = stackText t := hcap.eq_cap
    rw [hls.eq_lines, ← frameCount_eq_zero] at hblank
    rw [keptStack, if_pos hblank]
  | @shown t text ls hcap hls hshown =>
    obtain rfl : text = stackText t := hcap.eq_cap
    obtain rfl := hls.eq_lines
    have h : ¬ frameCount (stackText t) = 0 := by
      rw [frameCount_eq_zero]
      exact fun hall => hshown.elim fun l hl => hl.2 (hall l hl.1)
    rw [keptStack, if_neg h]

/-- `Keeps` leaves no choice: there is one event that a record keeps. -/
theorem Keeps.eq_kept {e k : Event} (h : Keeps e k) : k = kept e := by
  cases k
  rw [kept, ← h.detail.eq_keptDetail, ← h.stack.eq_keptStack]

end Testbench.Record
