import Testbench.Proofs.Device

/-!
# What can be found

The entries of a table are filed by ascending address, so that there is at most one for each.  What
one who looks into the table gets to see of them are those whose connections are live: two devices
with the same live entries answer alike, whatever else is filed in them.
-/

namespace Testbench.Device

variable {ρ : Type} {d d' : Device ρ} {address : UInt64} {c : ConnectionId}
  {es : List (UInt64 × ConnectionId)} {e : UInt64 × ConnectionId}

/-- The entries stand by ascending address. -/
def Ascending (es : List (UInt64 × ConnectionId)) : Prop := es.Pairwise fun e e' => e.1 < e'.1

lemma mem_insertEntry (h : Ascending es) :
    e ∈ insertEntry address c es ↔ e = (address, c) ∨ e ∈ es ∧ e.1 ≠ address := by
  induction es with
  | nil => simp [insertEntry]
  | cons e' es ih =>
    obtain ⟨hhead, htail⟩ := List.pairwise_cons.mp h
    rw [insertEntry]
    split
    · -- the new entry comes first, and all others have a greater address
      rename_i hlt
      have hne : ∀ e ∈ e' :: es, e.1 ≠ address := by
        intro e he
        rcases List.mem_cons.mp he with rfl | he
        · exact (UInt64.ne_of_lt hlt).symm
        · exact (UInt64.ne_of_lt (UInt64.lt_trans hlt (hhead e he))).symm
      rw [List.mem_cons, and_iff_left_of_imp (hne e)]
    · split
      · -- the new entry takes the place of one with its address
        rename_i heq
        subst heq
        have hne : ∀ e ∈ es, e.1 ≠ e'.1 := fun e he => (UInt64.ne_of_lt (hhead e he)).symm
        rw [List.mem_cons, List.mem_cons]
        constructor
        · rintro (rfl | he)
          · exact .inl rfl
          · exact .inr ⟨.inr he, hne e he⟩
        · rintro (rfl | ⟨rfl | he, hother⟩)
          · exact .inl rfl
          · exact absurd rfl hother
          · exact .inr he
      · rename_i hne
        rw [List.mem_cons, List.mem_cons, ih htail]
        constructor
        · rintro (rfl | rfl | ⟨he, hother⟩)
          · exact .inr ⟨.inl rfl, Ne.symm hne⟩
          · exact .inl rfl
          · exact .inr ⟨.inr he, hother⟩
        · rintro (rfl | ⟨rfl | he, hother⟩)
          · exact .inr (.inl rfl)
          · exact .inl rfl
          · exact .inr (.inr ⟨he, hother⟩)

lemma ascending_insertEntry (h : Ascending es) : Ascending (insertEntry address c es) := by
  induction es with
  | nil => exact List.pairwise_singleton _ _
  | cons e' es ih =>
    obtain ⟨hhead, htail⟩ := List.pairwise_cons.mp h
    rw [insertEntry]
    split
    · rename_i hlt
      refine List.pairwise_cons.mpr ⟨fun e he => ?_, h⟩
      rcases List.mem_cons.mp he with rfl | he
      · exact hlt
      · exact UInt64.lt_trans hlt (hhead e he)
    · split
      · rename_i heq
        subst heq
        exact List.pairwise_cons.mpr ⟨hhead, htail⟩
      · rename_i hge hne
        refine List.pairwise_cons.mpr ⟨fun e he => ?_, ih htail⟩
        rcases (mem_insertEntry htail).mp he with rfl | ⟨he, -⟩
        · exact UInt64.lt_of_le_of_ne (UInt64.not_lt.mp hge) (Ne.symm hne)
        · exact hhead e he

/-- There is at most one entry for each address, so whatever is filed at one is found there. -/
lemma find?_eq_some_iff (h : Ascending es) :
    es.find? (·.1 = address) = some e ↔ e ∈ es ∧ e.1 = address := by
  constructor
  · intro he
    exact ⟨List.mem_of_find?_eq_some he, by simpa using List.find?_some he⟩
  · rintro ⟨he, rfl⟩
    induction es with
    | nil => exact absurd he List.not_mem_nil
    | cons e' es ih =>
      obtain ⟨hhead, htail⟩ := List.pairwise_cons.mp h
      rcases List.mem_cons.mp he with rfl | he
      · exact List.find?_cons_of_pos (by simp)
      · rw [List.find?_cons_of_neg (by simpa using UInt64.ne_of_lt (hhead e he)), ih htail he]

lemma entry?_eq_some_iff (h : Ascending d.entries) :
    d.entry? address = some c ↔ (address, c) ∈ d.entries := by
  rw [ entry?, Option.map_eq_some_iff]
  constructor
  · rintro ⟨⟨a, c'⟩, he, rfl⟩
    obtain ⟨hmem, rfl⟩ := (find?_eq_some_iff h).mp he
    exact hmem
  · intro he
    exact ⟨_, (find?_eq_some_iff h).mpr ⟨he, rfl⟩, rfl⟩

/-! ### Live entries -/

/-- The entries whose connections are live. -/
def live (d : Device ρ) : List (UInt64 × ConnectionId) := d.entries.filter fun e => d.isLive e.2

lemma mem_live : e ∈ d.live ↔ e ∈ d.entries ∧ d.isLive e.2 = true := List.mem_filter

lemma ascending_live (h : Ascending d.entries) : Ascending d.live := List.Pairwise.filter _ h

/-- Looking up finds a connection exactly if a live one is filed there. -/
lemma lookup_ok_iff (h : Ascending d.entries) :
    (d.lookup address).1 = .ok c ↔ d.tornDown = false ∧ (address, c) ∈ d.live := by
  rw [mem_live, ← entry?_eq_some_iff h, lookup]
  split
  · rename_i hdown
    simp [hdown]
  · rename_i hup
    split
    · rename_i hnone
      simp [hnone]
    · rename_i c' hsome
      split
      · rename_i hlive
        simp only [hsome, Option.some.injEq, Except.ok.injEq]
        constructor
        · rintro rfl
          exact ⟨Bool.of_not_eq_true hup, rfl, hlive⟩
        · exact fun hc => hc.2.1
      · rename_i hdead
        simp only [hsome, Option.some.injEq, reduceCtorEq, false_iff]
        rintro ⟨-, rfl, hlive⟩
        exact hdead hlive

/-- Looking up fails for one reason at a time. -/
lemma lookup_error {why : TableError} (h : (d.lookup address).1 = .error why) :
    why = if d.tornDown then .tornDown else .notFound address := by
  rw [lookup] at h
  split at h
  · rename_i hdown
    rw [if_pos hdown]
    exact (Except.error.inj h).symm
  · rename_i hup
    rw [if_neg hup]
    split at h
    · exact (Except.error.inj h).symm
    · split at h
      · cases h
      · exact (Except.error.inj h).symm

/-- A lookup that finds a connection takes a reference to it, and does nothing else. -/
lemma lookup_ok_eq (h : d.lookup address = (.ok c, d')) :
    d.isLive c = true ∧ d' = d.modify c .retain := by
  rw [lookup] at h
  split at h
  · cases h
  · split at h
    · cases h
    · split at h
      · rename_i hlive
        cases h
        exact ⟨hlive, rfl⟩
      · cases h

/-- A lookup that finds nothing does nothing. -/
lemma lookup_error_eq {why : TableError} (h : d.lookup address = (.error why, d')) : d' = d := by
  rw [lookup] at h
  split at h
  · exact (congrArg Prod.snd h).symm
  · split at h
    · exact (congrArg Prod.snd h).symm
    · split at h
      · cases h
      · exact (congrArg Prod.snd h).symm

/-! ### Filing -/

variable {x : Connection ρ}

/-- What becomes of a connection that is to be filed. -/
lemma register_eq (hx : d.get? c = some x) :
    d.register c = if d.tornDown then (.error .tornDown, d)
      else if (d.entry? x.address).any d.isLive then (.error (.alreadyRegistered x.address), d)
      else (.ok (), { d with entries := insertEntry x.address c d.entries }) := by
  rw [register, hx]

/-- A connection that is not filed changes nothing. -/
lemma register_error_eq (hx : d.get? c = some x) {why : TableError}
    (h : d.register c = (.error why, d')) : d' = d := by
  rw [register_eq hx] at h
  split at h
  · exact (congrArg Prod.snd h).symm
  · split at h
    · exact (congrArg Prod.snd h).symm
    · cases h

lemma register_ok_eq (hx : d.get? c = some x) (h : d.register c = (.ok (), d')) :
    d.tornDown = false ∧ d' = { d with entries := insertEntry x.address c d.entries } := by
  rw [register_eq hx] at h
  split at h
  · cases h
  · rename_i hup
    split at h
    · cases h
    · exact ⟨Bool.of_not_eq_true hup, (congrArg Prod.snd h).symm⟩

/-- A connection can be filed exactly if the table is up and no live one is filed at its address. -/
lemma register_ok_iff (h : Ascending d.entries) (hx : d.get? c = some x) :
    (d.register c).1 = .ok () ↔ d.tornDown = false ∧ ∀ c', (x.address, c') ∉ d.live := by
  have hany : (d.entry? x.address).any d.isLive = true ↔ ∃ c', (x.address, c') ∈ d.live := by
    simp only [mem_live, ← entry?_eq_some_iff h, Option.any_eq_true]
  rw [register_eq hx]
  split
  · rename_i hdown
    simp [hdown]
  · rename_i hup
    rw [← not_exists, ← hany]
    split
    · rename_i hlive
      simp [hlive]
    · rename_i hvacant
      simp only [true_iff]
      exact ⟨Bool.of_not_eq_true hup, hvacant⟩

/-! ### Devices that answer alike -/

/-- Two devices answer alike: they find the same connections and list the same addresses. -/
structure Alike (d d' : Device ρ) : Prop where
  lookup : ∀ address, (d.lookup address).1 = (d'.lookup address).1
  addresses : d.addresses = d'.addresses

/-- Devices with the same live entries answer alike. -/
lemma Alike.of_live (h : Ascending d.entries) (h' : Ascending d'.entries)
    (hdown : d.tornDown = d'.tornDown) (hlive : d.live = d'.live) : d.Alike d' where
  lookup address := by
    have hok (c : ConnectionId) :
        (d.lookup address).1 = .ok c ↔ (d'.lookup address).1 = .ok c := by
      rw [lookup_ok_iff h, lookup_ok_iff h', hdown, hlive]
    cases hfound : (d.lookup address).1 with
    | ok c => exact ((hok c).mp hfound).symm
    | error why =>
      cases hfound' : (d'.lookup address).1 with
      | ok c => rw [(hok c).mpr hfound'] at hfound; cases hfound
      | error why' => rw [lookup_error hfound, lookup_error hfound', hdown]
  addresses := congrArg (List.map Prod.fst) hlive

lemma Alike.refl (d : Device ρ) : d.Alike d := ⟨fun _ => rfl, rfl⟩

lemma Alike.trans {d₁ d₂ d₃ : Device ρ} (h₁ : d₁.Alike d₂) (h₂ : d₂.Alike d₃) : d₁.Alike d₃ :=
  ⟨fun a => (h₁.lookup a).trans (h₂.lookup a), h₁.addresses.trans h₂.addresses⟩

/-- Connections that are not filed may change without being noticed. -/
lemma live_congr (hentries : d'.entries = d.entries)
    (hconnections : ∀ e ∈ d.entries, d'.isLive e.2 = d.isLive e.2) : d'.live = d.live := by
  rw [live, live, hentries]
  exact List.filter_congr hconnections

/-- Entries that are not live may go without being missed. -/
lemma live_filter {p : UInt64 × ConnectionId → Bool}
    (hp : ∀ e ∈ d.entries, d.isLive e.2 = true → p e = true) :
    live { d with entries := d.entries.filter p } = d.live := by
  rw [live, live, List.filter_filter]
  refine List.filter_congr fun e he => ?_
  have hsame : isLive { d with entries := d.entries.filter p } e.2 = d.isLive e.2 := rfl
  rw [hsame]
  cases hlive : d.isLive e.2 with
  | false => rfl
  | true => rw [hp e he hlive]; rfl

/-- Nothing is lost of a listing but what there is no room for. -/
lemma length_list (d : Device ρ) (slots : Nat) :
    (d.list slots).written.length = min slots (d.list slots).available := List.length_take

end Testbench.Device
