import Testbench.Proofs.Device.Lifecycle
import Testbench.Proofs.Device.Origin
import Testbench.Proofs.Request.Retry

/-!
# What a client learns

Whatever happened to a device, a client that asks while nothing else happens learns all there is to
know: which drivers are connected, and what the module of each consists of.  It takes two requests at
most.  That an answer can be trusted comes from the deeds that made the device what it is: the table
is in order, and a connection in it stems from a driver whose module was numbered.
-/

namespace Testbench

open World Client

variable {ρ ε : Type} {w : World ρ ε} {deeds : List (Ledger.Deed ρ)}

namespace Driver

/-- What a client learns from the device of a world, which some deeds made what it is.  It learns
just as much when a note is taken of its requests. -/
structure Informs (deeds : List (Ledger.Deed ρ)) (exec : Routines ρ ε) (w : World ρ ε) :
    Prop where
  /-- The addresses are those at which a live connection is filed, which is the one of the driver
  loaded there, -/
  addresses : ∀ a, a ∈ w.device.addresses ↔ ∃ c x, (a, c) ∈ w.device.entries ∧
    w.device.get? c = some x ∧ x.isLive = true ∧ x.address = a
  /-- once each, and ascending. -/
  ascending : w.device.addresses.Pairwise (· < ·)
  /-- A request for them is answered if there is room for one: the header counts them all, as many
  as fit follow, and it is a success if that is all of them. -/
  listed : ∀ input output : List UInt8, 16 ≤ output.length → ∃ done : Completion,
    control exec ControlCode.list.code input output w = (.ok (.ok done), w) ∧
    (done.status = .success ↔ w.device.addresses.length ≤ (output.length - 8) / 8) ∧
    done.written = 8 + 8 * min ((output.length - 8) / 8) w.device.addresses.length ∧
    done.output = le32 (UInt32.ofNat w.device.addresses.length) ++ le32 0
      ++ (w.device.addresses.take ((output.length - 8) / 8)).flatMap le64
      ++ output.drop done.written
  /-- A client gets no other list than that of the addresses, -/
  list_only : ∀ as w', Client.list exec w = (.ok (.ok as), w') → as = w.device.addresses
  /-- and it gets this one, as long as the word in the header can count them.  It asks once more just
  if there are more than its first buffer has room for. -/
  list : w.device.addresses.length < UInt32.size →
    Client.list exec w = (.ok (.ok w.device.addresses), w) ∧
    ∃ asked, asked.length = (if w.device.addresses.length ≤ 4 then 1 else 2) ∧
      listOver (noted (control exec)) (w, []) = (.ok (.ok w.device.addresses), w, asked)
  /-- Of a connection that is found it learns the module that the driver connected with. -/
  query : ∀ address c, (w.device.lookup address).1 = .ok c →
    ∃ x version registry m info, w.device.get? c = some x ∧ x.address = address ∧
      .connect address version registry m ∈ deeds ∧ Keyed.ofModule? m = .ok x.routines ∧
      Image.Describes m x.routines info ∧
      Client.query exec address w = (.ok (.ok info), w) ∧
      ∃ asked, asked.length = (if x.routines.size ≤ 1024 then 1 else 2) ∧
        queryOver (noted (control exec)) address (w, []) = (.ok (.ok info), w, asked)
  /-- If none is found, it learns why. -/
  query_error : ∀ address why, (w.device.lookup address).1 = .error why →
    Client.query exec address w = (.ok (.error (.control (.lookup why))), w) ∧
    ∃ asked, asked.length = 1 ∧ queryOver (noted (control exec)) address (w, [])
      = (.ok (.error (.control (.lookup why))), w, asked)

/-! ### Requests of a client -/

section

variable (exec : Routines ρ ε)

lemma list_twice (hcount : w.device.addresses.length < UInt32.size) :
    Client.list exec w = (.ok (.ok w.device.addresses), w) ∧
    ∃ asked, asked.length = (if w.device.addresses.length ≤ 4 then 1 else 2) ∧
      listOver (noted (control exec)) (w, []) = (.ok (.ok w.device.addresses), w, asked) := by
  have hask (slots : Nat) (hslots : 0 < slots) :=
    control_list_eq w exec [] (room_blankBuffer.mpr hslots)
  refine ⟨?_, ?_⟩
  · rw [Client.list, listOver_eq hcount (hask 4 (by decide)) fun h => hask _ (by omega), ite_self]
  · rw [listOver_eq hcount (noted_eq (hask 4 (by decide)) []) fun h =>
      noted_eq (hask _ (by omega)) _]
    split <;> exact ⟨_, rfl, rfl⟩

lemma query_twice {address : UInt64} {c : ConnectionId} {x : Connection ρ} {m : Module ρ}
    (hfound : (w.device.lookup address).1 = .ok c) (hx : w.device.get? c = some x)
    (hk : Keyed.Numbers m x.routines) :
    Client.query exec address w = (.ok (.ok (infoOf x.routines)), w) ∧
    ∃ asked, asked.length = (if x.routines.size ≤ 1024 then 1 else 2) ∧
      queryOver (noted (control exec)) address (w, [])
        = (.ok (.ok (infoOf x.routines)), w, asked) := by
  have hask := control_query_eq hfound hx exec
  refine ⟨query_eq hfound hx hk exec, ?_⟩
  rw [queryOver_eq hk (noted_eq (hask _) []) (noted_eq (hask _) _)]
  split <;> exact ⟨_, rfl, rfl⟩

lemma query_once {address : UInt64} {why : TableError}
    (hmissing : (w.device.lookup address).1 = .error why) :
    Client.query exec address w = (.ok (.error (.control (.lookup why))), w) ∧
    ∃ asked, asked.length = 1 ∧ queryOver (noted (control exec)) address (w, [])
      = (.ok (.error (.control (.lookup why))), w, asked) := by
  have hask := control_query_error hmissing exec (blankBuffer 1024)
  exact ⟨queryOver_error hask, _, rfl, queryOver_error (noted_eq hask [])⟩

end

/-! ### Devices that something was done to -/

/-- Whatever was done to a device: a client that asks while nothing else is done learns from it which
drivers are connected and what their modules consist of. -/
theorem informs_after {joinLimit : Duration}
    (hw : w.device = ((Ledger.blank joinLimit).after deeds).device) (exec : Routines ρ ε) :
    Informs deeds exec w := by
  have hl : ((Ledger.blank joinLimit).after deeds).Sound := (Ledger.Sound.blank joinLimit).after deeds
  exact {
    addresses := by
      rw [hw]
      exact fun a => hl.mem_addresses_iff
    ascending := by
      rw [hw]
      exact hl.ascending_addresses
    listed := fun input output hroom => ⟨_, control_list_eq w exec input hroom,
      status_listed w.device output, written_listed w.device output, output_listed w.device output⟩
    list_only := fun as w' h => addresses_of_listWith (by decide) h
    list := list_twice exec
    query := by
      intro address c hfound
      have hfound' := hfound
      rw [hw] at hfound'
      obtain ⟨x, hx, rfl⟩ := hl.get?_of_lookup hfound'
      obtain ⟨version, registry, m, hdeed, hm⟩ := Ledger.rooted_after joinLimit deeds c x hx
      have hk := Keyed.numbers_of_ok hm
      rw [← hw] at hx
      exact ⟨x, version, registry, m, infoOf x.routines, hx, rfl, hdeed, hm,
        Image.describes_groupInfos hk, query_twice exec hfound hx hk⟩
    query_error := fun _ _ => query_once exec }

/-- A module of many test cases. -/
def bookcase : Module Nat :=
  ⟨"bookcase", [{ Fixture.blank "shelf" with cases := List.replicate 100 ⟨"book", 1⟩ }]⟩

/-- Six drivers that connected, one of which is about to leave the table. -/
def shelving : List (Ledger.Deed Nat) :=
  [.connect 8 Sink.version₁ 0 bookcase, .connect 3 Sink.version₂ 1 Image.shelves,
    .connect 5 Sink.version₁ 2 ⟨"bare", []⟩, .disconnect 2, .connect 13 Sink.version₁ 3 ⟨"bare", []⟩,
    .connect 1 Sink.version₃ 4 ⟨"bare", []⟩, .connect 21 Sink.version₁ 5 ⟨"bare", []⟩]

/-- The world of a device to which they connected. -/
def shelvingWorld : World Nat Unit :=
  { device := ((Ledger.blank (.ofSeconds 60)).after shelving).device, store := () }

/-- Routines that do nothing. -/
def idle : Routines Nat Unit := ⟨fun _ => return (), return ()⟩

/-- There are more drivers, and more of the first one's module, than a client asks for at first. -/
theorem informs_after_shelving :
    Informs shelving idle shelvingWorld ∧
      (∃ asked, asked.length = 2 ∧ listOver (noted (control idle)) (shelvingWorld, [])
        = (.ok (.ok [1, 3, 8, 13, 21]), shelvingWorld, asked)) ∧
      ∃ info asked, asked.length = 2 ∧ queryOver (noted (control idle)) 8 (shelvingWorld, [])
        = (.ok (.ok info), shelvingWorld, asked) := by
  have hdevice : shelvingWorld.device = ((Ledger.blank (.ofSeconds 60)).after shelving).device := by
    rw [shelvingWorld]
  have h : Informs shelving idle shelvingWorld := informs_after hdevice idle
  have haddresses : shelvingWorld.device.addresses = [1, 3, 8, 13, 21] := by decide +kernel
  obtain ⟨-, asked, htwice, hlist⟩ := h.list (by rw [haddresses]; decide)
  rw [haddresses] at hlist htwice
  have hfound : (shelvingWorld.device.lookup 8).1 = .ok 0 := by decide +kernel
  have hlarge : (shelvingWorld.device.get? 0).all fun x => decide (1024 < x.routines.size) := by
    decide +kernel
  obtain ⟨x, version, registry, m, info, hx, -, -, -, -, -, asked', htwice', hquery⟩ :=
    h.query 8 0 hfound
  rw [hx] at hlarge
  rw [if_neg (Nat.not_le.mpr (of_decide_eq_true hlarge))] at htwice'
  exact ⟨h, ⟨asked, htwice, hlist⟩, info, asked', htwice', hquery⟩

end Driver

end Testbench
