import Testbench.Driver.Device
import Testbench.Proofs.Pool

/-!
# Connections that are found

A connection that is filed at its address and held by its driver is found there, and whoever takes a
reference and the unload lock and gives both back leaves the device as it was.
-/

namespace Testbench.Device

variable {ρ : Type} {d : Device ρ} {address : UInt64} {c : ConnectionId} {x : Connection ρ}

/-- A connection is found at an address, and its driver holds it. -/
structure Serves (d : Device ρ) (address : UInt64) (c : ConnectionId) (x : Connection ρ) : Prop where
  up : d.tornDown = false
  entry : d.entry? address = some c
  connection : d.get? c = some x
  live : 0 < x.references
  available : x.available = true

lemma get?_modify_self (f : Connection ρ → Connection ρ) (h : d.get? c = some x) :
    (d.modify c f).get? c = some (f x) := Pool.get?_modify_self f h

lemma modify_modify (d : Device ρ) (c : ConnectionId) (f g : Connection ρ → Connection ρ) :
    (d.modify c f).modify c g = d.modify c fun x => g (f x) := by
  simp only [modify, Pool.modify_modify]

lemma modify_eq_self {f : Connection ρ → Connection ρ} (h : ∀ x, d.get? c = some x → f x = x) :
    d.modify c f = d := by
  rw [modify, Pool.modify_eq_self h]

lemma Serves.lookup_eq (h : d.Serves address c x) :
    d.lookup address = (.ok c, d.modify c .retain) := by
  have hlive : d.isLive c = true := by
    rw [isLive, h.connection, Option.any_some, Connection.isLive]
    exact decide_eq_true h.live
  rw [lookup, if_neg (by rw [h.up]; decide), h.entry]
  exact if_pos hlive

/-- A reference that is given back leaves no trace as long as there are others. -/
lemma release_retain (h : d.isLive c = true) : (d.modify c .retain).release c = d := by
  have hback : (d.modify c .retain).modify c .release = d := by
    rw [modify_modify, modify_eq_self]
    intro y _
    exact congrArg (fun n => { y with references := n }) (Nat.add_sub_cancel _ _)
  rw [isLive] at h
  rw [release, hback]
  cases hx : d.get? c with
  | none => rfl
  | some x =>
    rw [hx, Option.any_some] at h
    exact if_pos h

lemma Serves.release_eq (h : d.Serves address c x) : (d.modify c .retain).release c = d := by
  refine release_retain ?_
  rw [isLive, h.connection, Option.any_some, Connection.isLive]
  exact decide_eq_true h.live

/-- The unload lock that is given back leaves no trace. -/
lemma leave_enter (d : Device ρ) (c : ConnectionId) : (d.modify c .enter).modify c .leave = d := by
  rw [modify_modify, modify_eq_self]
  intro y _
  exact congrArg (fun n => { y with calls := n }) (Nat.add_sub_cancel _ _)

/-! ### Filing -/

lemma find?_insertEntry (address : UInt64) (c : ConnectionId) (es : List (UInt64 × ConnectionId)) :
    (insertEntry address c es).find? (·.1 = address) = some (address, c) := by
  induction es with
  | nil => rw [insertEntry, List.find?_cons_of_pos (by simp)]
  | cons e es ih =>
    rw [insertEntry]
    split
    · rw [List.find?_cons_of_pos (by simp)]
    · split
      · rw [List.find?_cons_of_pos (by simp)]
      · rename_i hne
        rw [List.find?_cons_of_neg (by simpa using Ne.symm hne), ih]

/-- Nothing live is filed at an address. -/
def Vacant (d : Device ρ) (address : UInt64) : Prop :=
  ∀ c, d.entry? address = some c → ∃ x, d.get? c = some x ∧ x.isLive = false

/-- A connection that is made and filed at a vacant address is found there. -/
lemma register_make (hup : d.tornDown = false) (hvacant : d.Vacant x.address)
    (hlive : 0 < x.references) (havailable : x.available = true) :
    ∃ d', (d.make x).2.register (d.make x).1 = (.ok (), d') ∧
      d'.Serves x.address (d.make x).1 x := by
  have hx : (d.make x).2.get? (d.make x).1 = some x := Pool.get?_add_self _ _
  have hentry : (Device.entry? (d.make x).2 x.address).any (d.make x).2.isLive = false := by
    have hsame : Device.entry? (d.make x).2 x.address = d.entry? x.address := rfl
    rw [hsame]
    cases he : d.entry? x.address with
    | none => rfl
    | some c =>
      obtain ⟨y, hy, hdead⟩ := hvacant c he
      have hy' : (d.make x).2.get? c = some y := Pool.get?_add_of_some hy x
      rw [Option.any_some, isLive, hy', Option.any_some, hdead]
  refine ⟨{ (d.make x).2 with entries := insertEntry x.address (d.make x).1 d.entries }, ?_,
    hup, congrArg (Option.map Prod.snd) (find?_insertEntry _ _ _), hx, hlive, havailable⟩
  have hup' : (d.make x).2.tornDown = false := hup
  simp only [register, hx, hup', hentry]
  rfl

end Testbench.Device
