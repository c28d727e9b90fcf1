import Testbench.Proofs.Device.Ledger
import Testbench.Proofs.World

/-!
# The life of a connection

Whatever happens to the connections of a device, and in whatever order, its table keeps what it
promises: a connection is found at its address exactly as long as it was filed there last and
somebody holds it, the listing tells exactly what can be found, a driver is connected exactly if
nothing stands against it, and neither a driver that was not connected nor a connection that leaves
late disturbs what others see.

What the operations of drivers do to a device are deeds in the sense of the ledger; a connection
whose last reference they give back departs at once.
-/

namespace Testbench

variable {ρ ε : Type}

namespace Driver

open World

/-- A driver that asks to be connected in a world is given a sink, if there is one of its version,
and comes back with a module. -/
def Initializes (version : UInt32) (init : Sink → Act ρ ε (Module ρ)) (w : World ρ ε)
    (m : Module ρ) (w' : World ρ ε) : Prop :=
  ∀ reg w₁ sink, onRoster (·.newRegistry .driver) w = (.ok reg, w₁) →
    Sink.make version reg = .ok sink → init sink w₁ = (.ok m, w')

/-- There is a sink of a version. -/
def Offered (version : UInt32) : Prop :=
  version = Sink.version₁ ∨ version = Sink.version₂ ∨ version = Sink.version₃

section

variable {w w' : World ρ ε} {address : UInt64} {version : UInt32}
  {init : Sink → Act ρ ε (Module ρ)} {m : Module ρ}

/-- The world after a driver that asks to be connected was given a registry. -/
def withRegistryFor (w : World ρ ε) : World ρ ε := { w with
  roster := { w.roster with registries := (w.roster.registries.add { kind := .driver }).2 } }

lemma newRegistry_eq (w : World ρ ε) : onRoster (·.newRegistry .driver) w
    = (.ok w.roster.registries.items.size, withRegistryFor w) := rfl

lemma connect_zero (w : World ρ ε) (version : UInt32) (init : Sink → Act ρ ε (Module ρ)) :
    connect 0 version init w = (.ok (.error .invalidAddress), w) := by
  rw [connect, if_pos rfl]
  rfl

/-- A driver for which there is no sink is not asked for its module. -/
lemma connect_of_not_offered (haddress : address ≠ 0) (hoffered : ¬ Offered version)
    (w : World ρ ε) (init : Sink → Act ρ ε (Module ρ)) :
    connect address version init w
      = (.ok (.error (.sink (.unsupportedVersion version))), withRegistryFor w) := by
  have hsink : Sink.make version w.roster.registries.items.size
      = .error (.unsupportedVersion version) := if_neg hoffered
  rw [connect, if_neg haddress]
  refine (Flow.bind_ok (newRegistry_eq w)).trans ?_
  simp only [hsink]
  rfl

lemma connect_of_refusal (haddress : address ≠ 0) (hoffered : Offered version)
    (hinit : Initializes version init w m w') {why : Keyed.Refusal}
    (hm : Keyed.ofModule? m = .error why) :
    connect address version init w = (.ok (.error (.module why)), w') := by
  have hsink : Sink.make version w.roster.registries.items.size = .ok ⟨version, _⟩ := if_pos hoffered
  rw [connect, if_neg haddress]
  refine (Flow.bind_ok (newRegistry_eq w)).trans ?_
  simp only [hsink]
  refine (Flow.bind_ok (hinit _ _ _ (newRegistry_eq w) hsink)).trans ?_
  simp only [hm]
  rfl

/-- Files a connection that was made for a driver, and lets go of it if that fails. -/
def filing (c : ConnectionId) : Act ρ ε (Except ConnectError ConnectionId) := do
  match ← onDevice (·.register c) with
  | .ok () => return .ok c
  | .error why =>
    changeDevice (·.release c)
    return .error (.table why)

/-- A driver whose module was numbered is connected once its connection is filed. -/
lemma connect_eq_filing (haddress : address ≠ 0) (hoffered : Offered version)
    (hinit : Initializes version init w m w') {routines : Keyed ρ}
    (hm : Keyed.ofModule? m = .ok routines) {made : ConnectionId × Device ρ}
    (hmade : w'.device.make
      (w'.device.newcomer address version w.roster.registries.items.size routines) = made) :
    connect address version init w = filing made.1 { w' with device := made.2 } := by
  have hsink : Sink.make version w.roster.registries.items.size = .ok ⟨version, _⟩ := if_pos hoffered
  have hjoin : seeDevice Device.joinLimit w' = (.ok w'.device.joinLimit, w') := rfl
  subst hmade
  rw [connect, if_neg haddress]
  refine (Flow.bind_ok (newRegistry_eq w)).trans ?_
  simp only [hsink]
  refine (Flow.bind_ok (hinit _ _ _ (newRegistry_eq w) hsink)).trans ?_
  simp only [hm]
  exact (Flow.bind_ok hjoin).trans (Flow.bind_ok (Flow.step_apply _ _))

lemma filing_ok {c : ConnectionId} {d : Device ρ} (h : w.device.register c = (.ok (), d)) :
    ∃ w', filing c w = (.ok (.ok c), w') ∧ w'.device = d := by
  have hfile := onDevice_eq w (·.register c)
  rw [h] at hfile
  exact ⟨_, Flow.bind_ok hfile, rfl⟩

lemma filing_error {c : ConnectionId} {d : Device ρ} {why : TableError}
    (h : w.device.register c = (.error why, d)) :
    ∃ w', filing c w = (.ok (.error (.table why)), w') ∧ w'.device = d.release c := by
  have hfile := onDevice_eq w (·.register c)
  rw [h] at hfile
  have hrelease := changeDevice_eq { w with device := d } (·.release c)
  exact ⟨_, (Flow.bind_ok hfile).trans (Flow.bind_ok hrelease), rfl⟩

end

end Driver

namespace Ledger

/-- Nothing stands against connecting a driver: it has an address, there is a sink of its version, its
module can be numbered, the table is up, and what was filed last at its address is held by nobody. -/
def Admits (l : Ledger ρ) (address : UInt64) (version : UInt32) (m : Module ρ) : Prop :=
  address ≠ 0 ∧ Driver.Offered version ∧ (∃ routines, Keyed.ofModule? m = .ok routines) ∧
    l.device.tornDown = false ∧ ∀ c, l.last? address = some c → ¬ l.Held c

/-- What the table of a device promises to those who connect to it and look into it. -/
structure Keeps (l : Ledger ρ) : Prop where
  /-- A connection is filed under the address of its driver. -/
  home : ∀ e ∈ l.device.entries, ∃ x, l.device.get? e.2 = some x ∧ x.address = e.1
  /-- The connection last filed at an address is found there as long as somebody holds it. -/
  found : ∀ a c, (l.device.lookup a).1 = .ok c ↔
    l.device.tornDown = false ∧ l.last? a = some c ∧ l.Held c
  /-- The listing tells what is found, -/
  listed : ∀ a, a ∈ l.device.addresses ↔ ∃ c, (l.device.lookup a).1 = .ok c
  /-- by ascending address, -/
  ascending : l.device.addresses.Pairwise (· < ·)
  /-- and as much of it as there are slots. -/
  counted : ∀ slots, (l.device.list slots).available = l.device.addresses.length ∧
    (l.device.list slots).written = l.device.addresses.take slots ∧
    (l.device.list slots).written.length = min slots (l.device.list slots).available
  /-- A driver is connected if nothing stands against it. -/
  connects : ∀ {ε : Type} (w : World ρ ε) (address : UInt64) (version : UInt32)
    (init : Sink → World.Act ρ ε (Module ρ)) (m : Module ρ) (w' : World ρ ε),
    Driver.Initializes version init w m w' → w'.device = l.device →
      ((∃ c w'', Driver.connect address version init w = (.ok (.ok c), w'')) ↔
        l.Admits address version m)
  /-- A driver that is not connected leaves nothing to be seen. -/
  refuses : ∀ {ε : Type} (w : World ρ ε) (address : UInt64) (version : UInt32)
    (init : Sink → World.Act ρ ε (Module ρ)) (m : Module ρ) (w' w'' : World ρ ε) why,
    Driver.Initializes version init w m w' → w.device = l.device → w'.device = l.device →
      Driver.connect address version init w = (.ok (.error why), w'') →
        w''.device.Alike l.device
  /-- The same when others come between the failure and the departure of what was made for the
  driver. -/
  refused : ∀ address version registry m,
    (l.perform (.connect address version registry m)).filed = l.filed →
      (l.perform (.connect address version registry m)).device.Alike l.device
  /-- A connection that leaves the table takes its own entry along and nothing that can be seen, and
  leaves a table that was torn down as it is. -/
  departs : ∀ c ∈ l.dying, ∀ x, l.device.get? c = some x →
    (∀ e, e ∈ (l.device.unregister x.address c).entries ↔ e ∈ l.device.entries ∧ e.2 ≠ c) ∧
    (l.device.unregister x.address c).Alike l.device ∧
    (l.device.tornDown = true → l.device.unregister x.address c = l.device)

namespace Sound

variable {l : Ledger ρ} {c : ConnectionId} {x : Connection ρ} {a address : UInt64}

lemma home (hl : l.Sound) {e : UInt64 × ConnectionId} (he : e ∈ l.device.entries) :
    ∃ x, l.device.get? e.2 = some x ∧ x.address = e.1 :=
  hl.filed _ (last?_mem (hl.last e he))

lemma lookup_ok_iff (hl : l.Sound) : (l.device.lookup a).1 = .ok c ↔
    l.device.tornDown = false ∧ l.last? a = some c ∧ l.Held c := by
  rw [Device.lookup_ok_iff hl.ascending]
  exact and_congr_right fun hup => hl.mem_live_iff hup

lemma mem_addresses (hl : l.Sound) :
    a ∈ l.device.addresses ↔ ∃ c, (l.device.lookup a).1 = .ok c := by
  have hmem : a ∈ l.device.addresses ↔ ∃ c, (a, c) ∈ l.device.live := by
    rw [Device.addresses, ← Device.live, List.mem_map]
    constructor
    · rintro ⟨⟨_, c⟩, he, rfl⟩
      exact ⟨c, he⟩
    · rintro ⟨c, he⟩
      exact ⟨_, he, rfl⟩
  simp only [hmem, Device.lookup_ok_iff hl.ascending]
  constructor
  · rintro ⟨c, he⟩
    refine ⟨c, Bool.of_not_eq_true fun hdown => ?_, he⟩
    have hnone := (Device.mem_live.mp he).1
    rw [hl.down hdown] at hnone
    exact List.not_mem_nil hnone
  · rintro ⟨c, -, he⟩
    exact ⟨c, he⟩

/-- The addresses are those of the drivers whose connections are live and in the table. -/
lemma mem_addresses_iff (hl : l.Sound) : a ∈ l.device.addresses ↔
    ∃ c x, (a, c) ∈ l.device.entries ∧ l.device.get? c = some x ∧ x.isLive = true ∧
      x.address = a := by
  rw [Device.addresses, ← Device.live, List.mem_map]
  constructor
  · rintro ⟨⟨_, c⟩, he, rfl⟩
    obtain ⟨hentry, hlive⟩ := Device.mem_live.mp he
    obtain ⟨x, hx, haddress⟩ := hl.home hentry
    rw [Device.isLive, hx, Option.any_some] at hlive
    exact ⟨c, x, hentry, hx, hlive, haddress⟩
  · rintro ⟨c, x, hentry, hx, hlive, -⟩
    refine ⟨(a, c), Device.mem_live.mpr ⟨hentry, ?_⟩, rfl⟩
    rw [Device.isLive, hx, Option.any_some, hlive]

/-- A connection that is found is that of the driver at the address. -/
lemma get?_of_lookup (hl : l.Sound) (hfound : (l.device.lookup address).1 = .ok c) :
    ∃ x, l.device.get? c = some x ∧ x.address = address := by
  have hlive := ((Device.lookup_ok_iff hl.ascending).mp hfound).2
  exact hl.home (Device.mem_live.mp hlive).1

lemma ascending_addresses (hl : l.Sound) : l.device.addresses.Pairwise (· < ·) :=
  List.pairwise_map.mpr (Device.ascending_live hl.ascending)

/-- A new connection can be filed unless a connection that is held was filed last at its address. -/
lemma register_make_ok_iff (hl : l.Sound) (hx : x.references = 1) :
    ((l.device.make x).2.register (l.device.make x).1).1 = .ok () ↔
      l.device.tornDown = false ∧ ∀ c, l.last? x.address = some c → ¬ l.Held c := by
  have hmade := hl.make hx
  have hget : (l.make x).device.get? (l.device.make x).1 = some x := Pool.get?_add_self _ x
  rw [show (l.device.make x).2 = (l.make x).device from rfl,
    Device.register_ok_iff hmade.ascending hget]
  refine and_congr_right fun hup => ?_
  simp only [hmade.mem_live_iff hup, not_and]
  refine forall_congr' fun c => forall_congr' fun hlast => not_congr ?_
  obtain ⟨y, hy, -⟩ := hl.filed _ (last?_mem hlast)
  exact held_make_iff ⟨y, hy⟩

/-! ### What is not seen from outside -/

/-- Nobody sees a connection that is made and not filed. -/
lemma alike_make (hl : l.Sound) (hx : x.references = 1) :
    (l.make x).device.Alike l.device := by
  refine .of_live (hl.make hx).ascending hl.ascending rfl (Device.live_congr rfl fun e he => ?_)
  obtain ⟨y, hy, -⟩ := hl.home he
  have hy' : (l.make x).device.get? e.2 = some y := Pool.get?_add_of_some hy x
  rw [Device.isLive, hy', Device.isLive, hy]

/-- Nobody sees what becomes of the references to a connection that is not in the table. -/
lemma alike_giveBack (hl : l.Sound) {h : Hold} (hh : h ∈ l.holds)
    (habsent : ∀ e ∈ l.device.entries, h.connection ≠ e.2) :
    (l.giveBack h).device.Alike l.device := by
  refine .of_live (hl.giveBack hh).ascending hl.ascending rfl
    (Device.live_congr rfl fun e he => ?_)
  have hsame : (l.giveBack h).device.get? e.2 = l.device.get? e.2 :=
    Pool.get?_modify_of_ne (habsent e he) _
  rw [Device.isLive, hsame, Device.isLive]

/-- A driver that is not connected leaves nothing to be seen. -/
lemma alike_refused (hl : l.Sound) {version : UInt32} {registry : RegistryId} {m : Module ρ}
    (hfiled : (l.perform (.connect address version registry m)).filed = l.filed) :
    (l.perform (.connect address version registry m)).device.Alike l.device := by
  rw [Ledger.perform] at hfiled ⊢
  split at hfiled
  · rename_i hzero
    rw [if_pos hzero]
    exact .refl _
  · rename_i hzero
    rw [if_neg hzero]
    split at hfiled
    · rename_i routines _ _
      let x := l.device.newcomer address version registry routines
      have hmade := hl.make (x := x) rfl
      simp only [Ledger.file] at hfiled ⊢
      split at hfiled
      · exact absurd (congrArg List.length hfiled) (Nat.succ_ne_self _)
      · rename_i why d hfailed
        obtain rfl : d = (l.make x).device :=
          Device.register_error_eq (Pool.get?_add_self _ x) hfailed
        refine .trans (hmade.alike_giveBack List.mem_cons_self fun e he => ?_) (hl.alike_make rfl)
        obtain ⟨y, hy, -⟩ := hl.home he
        exact (Pool.ne_add_of_some hy x).symm
    · exact .refl _

/-- A connection that leaves the table takes along what is filed for it and nothing else. -/
lemma mem_unregister_iff (hl : l.Sound) (hx : l.device.get? c = some x)
    {e : UInt64 × ConnectionId} :
    e ∈ (l.device.unregister x.address c).entries ↔ e ∈ l.device.entries ∧ e.2 ≠ c := by
  rw [Device.unregister]
  split
  · rename_i hdown
    simp [hl.down hdown]
  · rw [List.mem_filter]
    refine and_congr_right fun he => ?_
    obtain ⟨y, hy, haddress⟩ := hl.home he
    simp only [Bool.not_eq_true', Bool.and_eq_false_imp, beq_iff_eq]
    constructor
    · rintro himp rfl
      obtain rfl : x = y := Option.some.inj (hx.symm.trans hy)
      exact absurd (himp haddress.symm) (by simp)
    · intro hne _
      simpa using hne

/-- Nobody misses the entry of a connection that nobody holds. -/
lemma alike_unregister (hl : l.Sound) (hc : c ∈ l.dying) (address : UInt64) :
    (l.device.unregister address c).Alike l.device := by
  rw [Device.unregister]
  split
  · exact .refl _
  · refine .of_live (List.Pairwise.filter _ hl.ascending) hl.ascending rfl
      (Device.live_filter fun e he hlive => ?_)
    have hne : e.2 ≠ c := by
      rintro rfl
      exact (hl.dying _ hc).2 (hl.isLive_iff.mp hlive)
    simp [hne]

lemma alike_depart (hl : l.Sound) (c : ConnectionId) :
    (l.perform (.depart c)).device.Alike l.device := by
  rw [Ledger.perform]
  split
  · split
    · rename_i hc
      exact hl.alike_unregister hc _
    · exact .refl _
  · exact .refl _

/-! ### What the operations of drivers do -/

/-- A reference that is given back, and the departure that may come of it. -/
lemma release_eq (hl : l.Sound) {h : Hold} (hh : h ∈ l.holds) :
    l.device.release h.connection
      = ((l.giveBack h).perform (.depart h.connection)).device := by
  obtain ⟨y, hy⟩ := hl.held h hh
  have hz : (l.device.modify h.connection .release).get? h.connection = some y.release :=
    Device.get?_modify_self _ hy
  have hlive : (l.device.modify h.connection .release).isLive h.connection = y.release.isLive := by
    rw [Device.isLive, hz]
    rfl
  have hnot : h.connection ∉ l.dying := fun hdying => (hl.dying _ hdying).2 ⟨h, hh, rfl⟩
  rw [Device.release, Ledger.perform]
  simp only [Ledger.giveBack, hz, hlive]
  cases y.release.isLive with
  | true => simp [hnot]
  | false => simp

/-- Looking for a driver is a deed. -/
theorem lookup_performs (l : Ledger ρ) {w : World ρ ε} (hw : w.device = l.device)
    (address : UInt64) :
    ∃ w', Driver.lookup address w = (.ok (l.device.lookup address).1, w') ∧
      w'.device = (l.perform (.lookup address)).device := by
  have hlookup := World.onDevice_eq w (·.lookup address)
  rw [hw] at hlookup
  refine ⟨_, hlookup, ?_⟩
  rw [Ledger.perform]
  split <;> rename_i hfound <;> rw [hfound]

/-- Giving back a reference that was kept is a deed, and the departure that may come of it another. -/
theorem release_performs (hl : l.Sound) {w : World ρ ε} (hw : w.device = l.device)
    (hheld : .kept c ∈ l.holds) :
    ∃ w', Driver.release c w = (.ok (), w') ∧
      w'.device = (l.after [.release c, .depart c]).device := by
  have hrelease := World.changeDevice_eq w (·.release c)
  refine ⟨_, hrelease, ?_⟩
  have hperform : l.perform (.release c) = l.giveBack (.kept c) := if_pos hheld
  rw [Ledger.after, List.foldl_cons, hperform, hw]
  exact hl.release_eq hheld

/-- Letting a driver go is a deed, and the departure that may come of it another. -/
theorem disconnect_performs (hl : l.Sound) {w : World ρ ε} (hw : w.device = l.device)
    (hheld : .handle c ∈ l.holds) :
    ∃ w', Driver.disconnect c w = (.ok (), w') ∧
      w'.device = (l.after [.disconnect c, .depart c]).device := by
  have hdisconnect := World.changeDevice_eq w (·.disconnect c)
  refine ⟨_, hdisconnect, ?_⟩
  have hperform : l.perform (.disconnect c) = (l.modify c .close).giveBack (.handle c) :=
    if_pos hheld
  have hclosed := hl.modify (c := c) Connection.close (fun _ => rfl) (fun _ => rfl)
  rw [Ledger.after, List.foldl_cons, hperform, hw]
  exact hclosed.release_eq hheld

section

variable {w w' : World ρ ε} {version : UInt32} {init : Sink → World.Act ρ ε (Module ρ)}
  {m : Module ρ}

/-- The deed of a driver whose module can be numbered. -/
lemma perform_connect (haddress : address ≠ 0) (hoffered : Driver.Offered version)
    {routines : Keyed ρ} (hm : Keyed.ofModule? m = .ok routines) (registry : RegistryId)
    (l : Ledger ρ) :
    l.perform (.connect address version registry m)
      = (l.make (l.device.newcomer address version registry routines)).file address
        l.device.connections.items.size := by
  have hsink : Sink.make version registry = .ok ⟨version, registry⟩ := if_pos hoffered
  rw [Ledger.perform, if_neg haddress]
  simp only [hsink, hm]
  rfl

/-- A driver that gets nowhere near the device changes nothing. -/
lemma perform_connect_eq_self (h : address = 0 ∨ ¬ Driver.Offered version ∨
    ∀ routines, Keyed.ofModule? m ≠ .ok routines) (registry : RegistryId) (l : Ledger ρ) :
    l.perform (.connect address version registry m) = l := by
  rw [Ledger.perform]
  split
  · rfl
  · rename_i haddress
    split
    · rename_i sink routines hsink hm
      rcases h with h | h | h
      · exact absurd h haddress
      · have hnone : Sink.make version registry = .error (.unsupportedVersion version) := if_neg h
        rw [hnone] at hsink
        cases hsink
      · exact absurd hm (h routines)
    · rfl

/-- Nobody departs under a name that was not given away yet. -/
lemma perform_depart_next (l : Ledger ρ) :
    l.perform (.depart l.device.connections.items.size) = l := by
  have hnew : l.device.get? l.device.connections.items.size = none :=
    Array.getElem?_eq_none (Nat.le_refl _)
  rw [Ledger.perform, hnew]

/-- A driver is connected if nothing stands against it. -/
lemma connect_of_admits (hl : l.Sound) (hinit : Driver.Initializes version init w m w')
    (hdevice : w'.device = l.device) (h : l.Admits address version m) :
    ∃ c w'', Driver.connect address version init w = (.ok (.ok c), w'') ∧ w''.device
      = (l.perform (.connect address version w.roster.registries.items.size m)).device := by
  obtain ⟨haddress, hoffered, ⟨routines, hm⟩, hfree⟩ := h
  let x := l.device.newcomer address version w.roster.registries.items.size routines
  have hok : ((l.device.make x).2.register (l.device.make x).1).1 = .ok () :=
    (hl.register_make_ok_iff rfl).mpr hfree
  obtain ⟨d, hregister⟩ : ∃ d, (l.device.make x).2.register (l.device.make x).1 = (.ok (), d) :=
    ⟨_, Prod.ext hok rfl⟩
  have hconnect := Driver.connect_eq_filing haddress hoffered hinit hm rfl
  rw [hdevice] at hconnect
  obtain ⟨w'', hfiling, hd⟩ := Driver.filing_ok
    (w := { w' with device := (l.device.make x).2 }) hregister
  refine ⟨_, w'', hconnect.trans hfiling, ?_⟩
  have hfile : (l.make x).device.register l.device.connections.items.size = (.ok (), d) := hregister
  rw [perform_connect haddress hoffered hm, Ledger.file, hfile]
  exact hd

/-- A driver that something stands against is not connected, and what was made for it is gone at
once. -/
lemma connect_of_not_admits (hl : l.Sound) (hinit : Driver.Initializes version init w m w')
    (hdevice : w'.device = l.device) (h : ¬ l.Admits address version m) :
    ∃ why w'', Driver.connect address version init w = (.ok (.error why), w'') ∧
      (w.device = l.device →
        (l.perform (.connect address version w.roster.registries.items.size m)).filed = l.filed ∧
        w''.device = (l.after [.connect address version w.roster.registries.items.size m,
          .depart l.device.connections.items.size]).device) := by
  -- nothing was made for a driver that gets nowhere near the device
  have hearly (hearly : address = 0 ∨ ¬ Driver.Offered version ∨
      ∀ routines, Keyed.ofModule? m ≠ .ok routines) (w'' : World ρ ε)
      (hw'' : w.device = l.device → w''.device = l.device) (hw : w.device = l.device) :
      (l.perform (.connect address version w.roster.registries.items.size m)).filed = l.filed ∧
      w''.device = (l.after [.connect address version w.roster.registries.items.size m,
        .depart l.device.connections.items.size]).device := by
    rw [Ledger.after, List.foldl_cons, perform_connect_eq_self hearly, List.foldl_cons,
      perform_depart_next]
    exact ⟨rfl, hw'' hw⟩
  by_cases haddress : address = 0
  · subst haddress
    exact ⟨_, w, Driver.connect_zero w version init, hearly (.inl rfl) w id⟩
  by_cases hoffered : Driver.Offered version
  · cases hm : Keyed.ofModule? m with
    | error why =>
      refine ⟨_, w', Driver.connect_of_refusal haddress hoffered hinit hm,
        hearly (.inr (.inr fun routines hok => ?_)) w' fun _ => hdevice⟩
      rw [hm] at hok
      cases hok
    | ok routines =>
      let x := l.device.newcomer address version w.roster.registries.items.size routines
      have hnot : ((l.device.make x).2.register (l.device.make x).1).1 ≠ .ok () := fun hok =>
        h ⟨haddress, hoffered, ⟨routines, hm⟩, (hl.register_make_ok_iff rfl).mp hok⟩
      obtain ⟨why, d, hregister⟩ :
          ∃ why d, (l.device.make x).2.register (l.device.make x).1 = (.error why, d) := by
        cases hr : (l.device.make x).2.register (l.device.make x).1 with
        | mk r d =>
          cases r with
          | ok u => exact absurd (congrArg Prod.fst hr) hnot
          | error why => exact ⟨why, d, rfl⟩
      have hconnect := Driver.connect_eq_filing haddress hoffered hinit hm rfl
      rw [hdevice] at hconnect
      obtain ⟨w'', hfiling, hd⟩ := Driver.filing_error
        (w := { w' with device := (l.device.make x).2 }) hregister
      refine ⟨_, w'', hconnect.trans hfiling, fun _ => ?_⟩
      have hfile : (l.make x).device.register l.device.connections.items.size = (.error why, d) :=
        hregister
      obtain rfl : d = (l.make x).device :=
        Device.register_error_eq (Pool.get?_add_self _ x) hregister
      rw [Ledger.after, List.foldl_cons, perform_connect haddress hoffered hm, Ledger.file, hfile]
      exact ⟨rfl, hd.trans ((hl.make rfl).release_eq List.mem_cons_self)⟩
  · exact ⟨_, _, Driver.connect_of_not_offered haddress hoffered w init,
      hearly (.inr (.inl hoffered)) _ id⟩

end

end Sound

/-! ### All deeds -/

variable {l : Ledger ρ}

/-- A sound table keeps its promises. -/
lemma Sound.keeps (hl : l.Sound) : l.Keeps where
  home _ he := hl.home he
  found _ _ := hl.lookup_ok_iff
  listed _ := hl.mem_addresses
  ascending := hl.ascending_addresses
  counted slots := ⟨rfl, rfl, Device.length_list _ slots⟩
  connects w address version init m w' hinit hdevice := by
    constructor
    · rintro ⟨c, w'', hconnect⟩
      refine Classical.byContradiction fun hnot => ?_
      obtain ⟨why, w₁, hfailed, -⟩ := hl.connect_of_not_admits hinit hdevice hnot
      rw [hfailed] at hconnect
      cases hconnect
    · intro h
      obtain ⟨c, w'', hconnect, -⟩ := hl.connect_of_admits hinit hdevice h
      exact ⟨c, w'', hconnect⟩
  refuses w address version init m w' w'' why hinit hw hdevice hfailed := by
    have hnot : ¬ l.Admits address version m := by
      intro h
      obtain ⟨c, w₁, hconnect, -⟩ := hl.connect_of_admits hinit hdevice h
      rw [hconnect] at hfailed
      cases hfailed
    obtain ⟨why', w₁, hfailed', hgone⟩ := hl.connect_of_not_admits hinit hdevice hnot
    obtain rfl : w₁ = w'' := congrArg Prod.snd (hfailed'.symm.trans hfailed)
    obtain ⟨hfiled, hafter⟩ := hgone hw
    rw [hafter]
    exact .trans ((hl.perform _).alike_depart _) (hl.alike_refused hfiled)
  refused address version registry m hfiled := hl.alike_refused hfiled
  departs c hc x hx := by
    refine ⟨fun e => hl.mem_unregister_iff hx, hl.alike_unregister hc x.address, fun hdown => ?_⟩
    rw [Device.unregister, if_pos hdown]

/-- Whatever happens to the connections of a device, its table keeps its promises. -/
theorem after_keeps (joinLimit : Duration) (deeds : List (Deed ρ)) :
    ((blank joinLimit).after deeds).Keeps :=
  ((Sound.blank joinLimit).after deeds).keeps

/-- An old connection that is still held stands against a new one, and its departure comes too late
to take the entry of the next. -/
example : (((blank (.ofSeconds 60) : Ledger Empty).after
    [.connect 8 Sink.version₁ 0 ⟨"one", []⟩, .lookup 8, .disconnect 0,
      .connect 8 Sink.version₁ 1 ⟨"two", []⟩, .depart 1, .release 0,
      .connect 8 Sink.version₁ 2 ⟨"three", []⟩, .depart 0]).device.lookup 8).1 = .ok 2 := rfl

end Ledger

end Testbench
