import Testbench.Driver.Client
import Testbench.Proofs.Device
import Testbench.Proofs.Image
import Testbench.Proofs.Remote.Call
import Testbench.Proofs.Request.Retry

/-!
# Connecting a module and loading it

A module that can be numbered can be connected at a vacant address, whatever becomes of its routines
on the way, and a client that asks for it there can make a module of what it learns.
-/

namespace Testbench

variable {ρ υ : Type}

/-! ### Modules of other routines -/

/-- The test case with another routine. -/
def TestCase.map (g : ρ → υ) (c : TestCase ρ) : TestCase υ := ⟨c.name, g c.routine⟩

/-- The fixture with other routines. -/
def Fixture.map (g : ρ → υ) (f : Fixture ρ) : Fixture υ :=
  ⟨f.name, f.setup.map g, f.teardown.map g, f.before.map g, f.after.map g, f.cases.map (·.map g),
    f.flags, f.home⟩

/-- The module with other routines. -/
def Module.map (g : ρ → υ) (m : Module ρ) : Module υ := ⟨m.name, m.fixtures.map (·.map g)⟩

namespace Keyed

/-- The entry with another routine. -/
def Entry.map (g : ρ → υ) (e : Entry ρ) : Entry υ := ⟨e.role, e.name, g e.routine⟩

lemma entriesOf_map (g : ρ → υ) (f : Fixture ρ) :
    entriesOf (f.map g) = (entriesOf f).map (Entry.map g) := by
  have hoptional (role : Role) (name : String) (r : Option ρ) :
      optional role name (r.map g) = (optional role name r).map (Entry.map g) := by
    cases r <;> rfl
  simp only [entriesOf, Fixture.map, hoptional, List.map_append, List.map_map]
  rfl

/-- Numbering does not fail for any other reason. -/
lemma ofModule?_eq {m : Module ρ} (hm : m.fixtures.length ≤ maxKeys)
    (hentries : ∀ f ∈ m.fixtures, (entriesOf f).length ≤ maxKeys)
    (hsize : size ⟨(m.fixtures.map groupOf).toArray⟩ ≤ 0xffffffff) :
    ofModule? m = .ok ⟨(m.fixtures.map groupOf).toArray⟩ := by
  have hgroups (fs : List (Fixture ρ)) (h : ∀ f ∈ fs, (entriesOf f).length ≤ maxKeys)
      (done : List (Group ρ)) : groupsOf? fs done = .ok (done.reverse ++ fs.map groupOf) := by
    induction fs generalizing done with
    | nil => rw [groupsOf?, List.map_nil, List.append_nil]
    | cons f fs ih =>
      have hf := h f List.mem_cons_self
      simp only [groupsOf?, List.size_toArray]
      rw [if_neg (Nat.not_lt.mpr hf), ih (fun f' hf' => h f' (List.mem_cons_of_mem f hf')),
        List.reverse_cons, List.append_assoc]
      rfl
  rw [ofModule?, if_neg (Nat.not_lt.mpr hm), hgroups _ hentries]
  simp only [List.reverse_nil, List.nil_append]
  exact if_neg (Nat.not_lt.mpr hsize)

lemma size_map (g : ρ → υ) (fs : List (Fixture ρ)) :
    size ⟨((fs.map (·.map g)).map groupOf).toArray⟩ = size ⟨(fs.map groupOf).toArray⟩ := by
  have hentries (f : Fixture ρ) : (groupOf (f.map g)).entries.size = (groupOf f).entries.size := by
    simp only [groupOf, List.size_toArray, entriesOf_map, List.length_map]
  have hnames (f : Fixture ρ) : (groupOf (f.map g)).namesSize = (groupOf f).namesSize := by
    simp only [Group.namesSize, groupOf, entriesOf_map, List.foldr_map]
    rfl
  simp only [size, recordsSize, namesSize, List.foldr_map, hentries, hnames]

/-- Whether a module can be numbered has nothing to do with what its routines are. -/
lemma exists_ofModule?_map {m : Module ρ} {k : Keyed ρ} (h : ofModule? m = .ok k) (g : ρ → υ) :
    ∃ k', ofModule? (m.map g) = .ok k' := by
  have hk := numbers_of_ok h
  refine ⟨_, ofModule?_eq ?_ ?_ ?_⟩
  · have hlength := congrArg List.length hk.groups_eq
    rw [List.length_map] at hlength
    rw [Module.map, List.length_map, ← hlength]
    exact hk.groups_le
  · intro f' hf'
    obtain ⟨f, hf, rfl⟩ := List.mem_map.mp hf'
    rw [entriesOf_map, List.length_map]
    refine hk.entries_le (groupOf f) ?_
    rw [hk.groups_eq]
    exact List.mem_map_of_mem hf
  · obtain rfl : k = ⟨(m.fixtures.map groupOf).toArray⟩ :=
      congrArg Keyed.mk (Array.toList_inj.mp hk.groups_eq)
    rw [Module.map, size_map]
    exact hk.size_le

end Keyed

open World

/-! ### Connecting -/

namespace Driver

variable {ε : Type} {w : World ρ ε}

/-- The sink of a driver that connects. -/
def sinkFor (w : World ρ ε) (version : UInt32) : Sink := ⟨version, w.roster.registries.items.size⟩

/-- The connection of a driver that connects. -/
def connectionFor (w : World ρ ε) (address : UInt64) (version : UInt32) (k : Keyed ρ) :
    Connection ρ :=
  { address, routines := k, registry := w.roster.registries.items.size, sinkVersion := version,
    joinLimit := w.device.joinLimit }

/-- A driver that connects at a vacant address is found there. -/
lemma connect_eq {address : UInt64} (haddress : address ≠ 0)
    (hup : w.device.tornDown = false) (hvacant : w.device.Vacant address) {version : UInt32}
    (hversion : version = Sink.version₁ ∨ version = Sink.version₂ ∨ version = Sink.version₃)
    (init : Sink → Module ρ) {k : Keyed ρ}
    (hk : Keyed.ofModule? (init (sinkFor w version)) = .ok k) :
    ∃ c device, connect address version (fun s => return init s) w = (.ok (.ok c), { w with
        roster := { w.roster with registries := (w.roster.registries.add { kind := .driver }).2 }
        device }) ∧
      device.Serves address c (connectionFor w address version k) := by
  let registries := (w.roster.registries.add { kind := .driver }).2
  let w₁ : World ρ ε := { w with roster := { w.roster with registries } }
  have hregistry : onRoster (·.newRegistry .driver) w = (.ok w.roster.registries.items.size, w₁) :=
    rfl
  have hsink : Sink.make version w.roster.registries.items.size = .ok (sinkFor w version) :=
    if_pos hversion
  obtain ⟨device, hregister, hserves⟩ := Device.register_make
    (x := connectionFor w address version k) hup hvacant Nat.zero_lt_one rfl
  refine ⟨_, device, ?_, hserves⟩
  rw [connect, if_neg haddress]
  refine (Flow.bind_ok hregistry).trans ?_
  have hjoin : seeDevice Device.joinLimit w₁ = (.ok w.device.joinLimit, w₁) := rfl
  let w₂ : World ρ ε :=
    { w₁ with device := (w.device.make (connectionFor w address version k)).2 }
  have hmake : Flow.step (fun w₁ : World ρ ε =>
      ((w₁.device.make (connectionFor w address version k)).1,
        { w₁ with device := (w₁.device.make (connectionFor w address version k)).2 })) w₁
      = (.ok (w.device.make (connectionFor w address version k)).1, w₂) := rfl
  have hfile : onDevice (·.register (w.device.make (connectionFor w address version k)).1) w₂
      = (.ok (.ok ()), { w₁ with device }) := by
    rw [onDevice_eq, hregister]
  simp only [hsink, pure_bind, hk]
  refine (Flow.bind_ok hjoin).trans ?_
  refine (Flow.bind_ok hmake).trans ?_
  exact Flow.bind_ok hfile

end Driver

namespace Client

variable {ε : Type} {w : World ρ ε} {address : UInt64} {c : ConnectionId} {x : Connection ρ}
  {m : Module ρ}

lemma load_eq (hserves : w.device.Serves address c x)
    (hk : Keyed.Numbers m x.routines) (exec : Routines ρ ε) (client : Client) (name : String) :
    client.load exec address name w
      = (.ok (.ok (client.moduleOf address name (infoOf x.routines))), w) := by
  have hfound : (w.device.lookup address).1 = .ok c := by rw [hserves.lookup_eq]
  rw [load, Flow.bind_ok (query_eq hfound hserves.connection hk exec)]
  rfl

end Client

end Testbench
