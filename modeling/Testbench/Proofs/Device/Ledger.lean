import Testbench.Driver.Call
import Testbench.Proofs.Device.Live

/-!
# Who holds a connection

A ledger is a device together with what the device itself does not say: who holds which connection,
by a handle or by a reference that a lookup took, which connections nobody holds any more but have
not taken themselves out of the table, and what was filed in the table so far.  The deeds are what
happens to connections from outside, each of them an operation of the device.  Between the moment a
connection loses its last reference and its departure from the table any number of deeds may come.

The ledger is sound if the device counts exactly the references that are held, if whatever is filed
was filed last at its address, and if nothing that is held is missing from a table that is up.
-/

namespace Testbench

/-- The connection of a driver whose module was numbered. -/
def Device.newcomer {ρ : Type} (d : Device ρ) (address : UInt64) (version : UInt32)
    (registry : RegistryId) (routines : Keyed ρ) : Connection ρ :=
  { address, routines, registry, sinkVersion := version, joinLimit := d.joinLimit }

/-- A reference to a connection. -/
inductive Hold
  /-- The handle of its driver. -/
  | handle (c : ConnectionId)
  /-- One that a lookup took and that was kept. -/
  | kept (c : ConnectionId)
deriving DecidableEq, Repr

/-- The connection that is held. -/
def Hold.connection : Hold → ConnectionId
  | handle c | kept c => c

namespace Hold

/-- How many references to a connection there are. -/
def count (hs : List Hold) (c : ConnectionId) : Nat := hs.countP (·.connection = c)

variable {h : Hold} {hs : List Hold} {c : ConnectionId}

lemma count_cons : count (h :: hs) c = count hs c + if h.connection = c then 1 else 0 := by
  simp only [count, List.countP_cons, decide_eq_true_iff]

lemma count_erase (hh : h ∈ hs) :
    count (hs.erase h) c + (if h.connection = c then 1 else 0) = count hs c := by
  rw [← count_cons]
  exact ((List.perm_cons_erase hh).countP_eq _).symm

lemma count_pos_iff : 0 < count hs c ↔ ∃ h ∈ hs, h.connection = c := by
  simp only [count, List.countP_pos_iff, decide_eq_true_iff]

end Hold

/-- A device and the references to its connections. -/
structure Ledger (ρ : Type) where
  device : Device ρ
  holds : List Hold := []
  /-- The connections that lost their last reference and have not left the table yet. -/
  dying : List ConnectionId := []
  /-- What was filed so far and at which address, latest first. -/
  filed : List (UInt64 × ConnectionId) := []

namespace Ledger

variable {ρ : Type}

/-- What happens to connections. -/
inductive Deed (ρ : Type)
  /-- A driver asks to be connected with its module. -/
  | connect (address : UInt64) (version : UInt32) (registry : RegistryId) (module : Module ρ)
  /-- A driver drops its handle. -/
  | disconnect (c : ConnectionId)
  /-- Somebody looks for a driver, and keeps the reference. -/
  | lookup (address : UInt64)
  /-- Somebody gives a reference back that was kept. -/
  | release (c : ConnectionId)
  /-- A connection that lost its last reference leaves the table. -/
  | depart (c : ConnectionId)
  /-- The table is torn down. -/
  | tearDown
  /-- A call takes the unload lock of a connection. -/
  | enter (c : ConnectionId)
  /-- A call gives the unload lock back. -/
  | leave (c : ConnectionId)

/-- The ledger of a device to which nobody has connected. -/
def blank (joinLimit : Duration) : Ledger ρ := { device := { joinLimit } }

/-- The connection last filed at an address. -/
def last? (l : Ledger ρ) (address : UInt64) : Option ConnectionId :=
  (l.filed.find? (·.1 = address)).map Prod.snd

/-- Somebody holds a connection. -/
def Held (l : Ledger ρ) (c : ConnectionId) : Prop := ∃ h ∈ l.holds, h.connection = c

/-- Makes a connection, which its driver holds. -/
def make (l : Ledger ρ) (x : Connection ρ) : Ledger ρ :=
  { l with
    device := (l.device.make x).2
    holds := .handle (l.device.make x).1 :: l.holds }

/-- Gives a reference back. The last one leaves the connection to its departure. -/
def giveBack (l : Ledger ρ) (h : Hold) : Ledger ρ :=
  let device := l.device.modify h.connection .release
  { l with
    device
    holds := l.holds.erase h
    dying := if device.isLive h.connection then l.dying else h.connection :: l.dying }

/-- Files a connection, whose driver loses it if that fails. -/
def file (l : Ledger ρ) (address : UInt64) (c : ConnectionId) : Ledger ρ :=
  match l.device.register c with
  | (.ok (), device) => { l with device, filed := (address, c) :: l.filed }
  | (.error _, device) => { l with device }.giveBack (.handle c)

/-- Changes a connection. -/
def modify (l : Ledger ρ) (c : ConnectionId) (f : Connection ρ → Connection ρ) : Ledger ρ :=
  { l with device := l.device.modify c f }

/-- What a deed makes of the ledger. Who holds nothing gives nothing back. -/
def perform (l : Ledger ρ) : Deed ρ → Ledger ρ
  | .connect address version registry m =>
    if address = 0 then l
    else match Sink.make version registry, Keyed.ofModule? m with
      | .ok _, .ok routines =>
        let x := l.device.newcomer address version registry routines
        (l.make x).file address (l.device.make x).1
      | _, _ => l
  | .disconnect c =>
    if .handle c ∈ l.holds then (l.modify c .close).giveBack (.handle c) else l
  | .lookup address =>
    match l.device.lookup address with
    | (.ok c, device) => { l with device, holds := .kept c :: l.holds }
    | (.error _, device) => { l with device }
  | .release c => if .kept c ∈ l.holds then l.giveBack (.kept c) else l
  | .depart c =>
    match l.device.get? c with
    | some x =>
      if c ∈ l.dying then
        { l with device := l.device.unregister x.address c, dying := l.dying.erase c }
      else l
    | none => l
  | .tearDown => { l with device := l.device.tearDown }
  | .enter c => l.modify c .enter
  | .leave c => l.modify c .leave

/-- The ledger after some deeds. -/
def after (l : Ledger ρ) (deeds : List (Deed ρ)) : Ledger ρ := deeds.foldl perform l

/-- The device and those who hold its connections agree. -/
structure Sound (l : Ledger ρ) : Prop where
  /-- The device counts the references that are held. -/
  references : ∀ c x, l.device.get? c = some x → x.references = Hold.count l.holds c
  held : ∀ h ∈ l.holds, ∃ x, l.device.get? h.connection = some x
  dying : ∀ c ∈ l.dying, (∃ x, l.device.get? c = some x) ∧ ¬ l.Held c
  /-- A connection is filed under its own address. -/
  filed : ∀ e ∈ l.filed, ∃ x, l.device.get? e.2 = some x ∧ x.address = e.1
  ascending : Device.Ascending l.device.entries
  /-- What is in the table was filed last at its address. -/
  last : ∀ e ∈ l.device.entries, l.last? e.1 = some e.2
  /-- Nothing that is held is missing from the table while the table is up. -/
  entered : l.device.tornDown = false → ∀ a c, l.last? a = some c → l.Held c →
    (a, c) ∈ l.device.entries
  down : l.device.tornDown = true → l.device.entries = []

variable {l : Ledger ρ} {c : ConnectionId} {x : Connection ρ} {a address : UInt64}

lemma last?_mem (h : l.last? a = some c) : (a, c) ∈ l.filed := by
  obtain ⟨⟨a', c'⟩, he, rfl⟩ := Option.map_eq_some_iff.mp h
  obtain rfl : a' = a := by simpa using List.find?_some he
  exact List.mem_of_find?_eq_some he

namespace Sound

lemma blank (joinLimit : Duration) : (blank joinLimit : Ledger ρ).Sound where
  references c x hx := by cases hx
  held h hh := absurd hh List.not_mem_nil
  dying c hc := absurd hc List.not_mem_nil
  filed e he := absurd he List.not_mem_nil
  ascending := List.Pairwise.nil
  last e he := absurd he List.not_mem_nil
  entered _ a c hc := by cases hc
  down _ := rfl

/-- A connection is live exactly as long as somebody holds it. -/
lemma isLive_iff (hl : l.Sound) : l.device.isLive c = true ↔ l.Held c := by
  rw [Device.isLive]
  cases hx : l.device.get? c with
  | none =>
    refine iff_of_false Bool.false_ne_true ?_
    rintro ⟨h, hh, rfl⟩
    obtain ⟨x, hx'⟩ := hl.held h hh
    rw [hx] at hx'
    cases hx'
  | some x =>
    rw [Option.any_some, Connection.isLive, decide_eq_true_iff, hl.references c x hx,
      Hold.count_pos_iff, Held]

/-- The live entries are those of the connections that were filed last and are held. -/
lemma mem_live_iff (hl : l.Sound) (hup : l.device.tornDown = false) :
    (a, c) ∈ l.device.live ↔ l.last? a = some c ∧ l.Held c := by
  rw [Device.mem_live, hl.isLive_iff]
  constructor
  · rintro ⟨he, hheld⟩
    exact ⟨hl.last _ he, hheld⟩
  · rintro ⟨hlast, hheld⟩
    exact ⟨hl.entered hup a c hlast hheld, hheld⟩

/-! ### What the deeds are made of -/

/-- Every connection is still there after a change that leaves its address alone. -/
lemma exists_modify {d : Device ρ} {f : Connection ρ → Connection ρ}
    (hf : ∀ x, (f x).address = x.address) {c c' : ConnectionId} (h : d.get? c' = some x) :
    ∃ y, (d.modify c f).get? c' = some y ∧ y.address = x.address := by
  by_cases hc : c = c'
  · subst hc
    exact ⟨f x, Device.get?_modify_self f h, hf x⟩
  · exact ⟨x, (Pool.get?_modify_of_ne hc f).trans h, rfl⟩

/-- Deeds that leave the table alone keep the ledger sound if they count the references right and
nobody comes to hold a connection that nobody held. -/
lemma frame (hl : l.Sound) {l' : Ledger ρ}
    (hknown : ∀ c y, l.device.get? c = some y →
      ∃ z, l'.device.get? c = some z ∧ z.address = y.address)
    (hreferences : ∀ c z, l'.device.get? c = some z → z.references = Hold.count l'.holds c)
    (hheld : ∀ h ∈ l'.holds, ∃ z, l'.device.get? h.connection = some z)
    (hless : ∀ c y, l.device.get? c = some y → l'.Held c → l.Held c)
    (hdying : ∀ c ∈ l'.dying, c ∈ l.dying ∨ (∃ z, l'.device.get? c = some z) ∧ ¬ l'.Held c)
    (hentries : l'.device.entries = l.device.entries)
    (hdown : l'.device.tornDown = l.device.tornDown) (hfiled : l'.filed = l.filed) :
    l'.Sound where
  references := hreferences
  held := hheld
  dying c hc := by
    rcases hdying c hc with hc | hc
    · obtain ⟨⟨y, hy⟩, hfree⟩ := hl.dying c hc
      obtain ⟨z, hz, -⟩ := hknown c y hy
      exact ⟨⟨z, hz⟩, fun hheld => hfree (hless c y hy hheld)⟩
    · exact hc
  filed e he := by
    rw [hfiled] at he
    obtain ⟨y, hy, hy'⟩ := hl.filed e he
    obtain ⟨z, hz, hz'⟩ := hknown _ y hy
    exact ⟨z, hz, hz'.trans hy'⟩
  ascending := by
    rw [hentries]
    exact hl.ascending
  last e he := by
    rw [hentries] at he
    rw [last?, hfiled]
    exact hl.last e he
  entered hup a c hlast hheld := by
    rw [hdown] at hup
    rw [last?, hfiled] at hlast
    obtain ⟨y, hy, -⟩ := hl.filed _ (last?_mem hlast)
    rw [hentries]
    exact hl.entered hup a c hlast (hless c y hy hheld)
  down h := by
    rw [hentries]
    exact hl.down (hdown ▸ h)

/-- Changes of a connection that leave its address and its references alone. -/
lemma modify (hl : l.Sound) (f : Connection ρ → Connection ρ)
    (haddress : ∀ x, (f x).address = x.address)
    (hreferences : ∀ x, (f x).references = x.references) : (l.modify c f).Sound := by
  have hknown : ∀ c' y, l.device.get? c' = some y →
      ∃ z, (l.modify c f).device.get? c' = some z ∧ z.address = y.address :=
    fun c' y hy => exists_modify haddress hy
  refine hl.frame hknown ?_ ?_ (fun c' y hy h => h) (fun c' hc' => .inl hc') rfl rfl rfl
  · intro c' z hz
    obtain ⟨y, hy, rfl⟩ := Pool.get?_modify_eq_some hz
    have hy' := hl.references c' y hy
    split
    · exact (hreferences y).trans hy'
    · exact hy'
  · intro h hh
    obtain ⟨y, hy⟩ := hl.held h hh
    obtain ⟨z, hz, -⟩ := hknown _ y hy
    exact ⟨z, hz⟩

/-- A name that is given to a new connection is not that of one that is held. -/
lemma not_held_make (hl : l.Sound) (x : Connection ρ) : ¬ l.Held (l.device.make x).1 := by
  rintro ⟨h, hh, heq⟩
  obtain ⟨y, hy⟩ := hl.held h hh
  exact Pool.ne_add_of_some hy x heq

/-- Who held a connection holds it when others are made, and nobody else does. -/
lemma held_make_iff (hc : ∃ y, l.device.get? c = some y) : (l.make x).Held c ↔ l.Held c := by
  obtain ⟨y, hy⟩ := hc
  constructor
  · rintro ⟨h, hh, rfl⟩
    rcases List.mem_cons.mp hh with rfl | hh
    · exact absurd rfl (Pool.ne_add_of_some hy x)
    · exact ⟨h, hh, rfl⟩
  · rintro ⟨h, hh, rfl⟩
    exact ⟨h, List.mem_cons_of_mem _ hh, rfl⟩

lemma make (hl : l.Sound) (hx : x.references = 1) : (l.make x).Sound := by
  refine hl.frame (fun c y hy => ⟨y, Pool.get?_add_of_some hy x, rfl⟩) ?_ ?_
    (fun c y hy => (held_make_iff ⟨y, hy⟩).mp) (fun c hc => .inl hc) rfl rfl rfl
  · intro c y hy
    have hcount : Hold.count (l.make x).holds c
        = Hold.count l.holds c + if (l.device.make x).1 = c then 1 else 0 := Hold.count_cons
    rw [hcount]
    by_cases hc : c = (l.device.make x).1
    · obtain rfl : x = y := by
        subst hc
        exact Option.some.inj ((Pool.get?_add_self _ x).symm.trans hy)
      have hzero : Hold.count l.holds c = 0 := by
        refine Nat.eq_zero_of_not_pos fun hpos => hl.not_held_make x ?_
        exact hc ▸ Hold.count_pos_iff.mp hpos
      rw [if_pos hc.symm, hzero, hx]
    · rw [if_neg (Ne.symm hc)]
      exact hl.references c y ((Pool.get?_add_of_ne _ x hc).symm.trans hy)
  · intro h hh
    rcases List.mem_cons.mp hh with rfl | hh
    · exact ⟨x, Pool.get?_add_self _ x⟩
    · obtain ⟨y, hy⟩ := hl.held h hh
      exact ⟨y, Pool.get?_add_of_some hy x⟩

lemma giveBack (hl : l.Sound) {h : Hold} (hh : h ∈ l.holds) : (l.giveBack h).Sound := by
  have hknown : ∀ c y, l.device.get? c = some y →
      ∃ z, (l.giveBack h).device.get? c = some z ∧ z.address = y.address :=
    fun c y hy => exists_modify (f := Connection.release) (fun _ => rfl) hy
  have hreferences : ∀ c z, (l.giveBack h).device.get? c = some z →
      z.references = Hold.count (l.giveBack h).holds c := by
    intro c z hz
    obtain ⟨y, hy, rfl⟩ := Pool.get?_modify_eq_some hz
    have hy' := hl.references c y hy
    rw [← Hold.count_erase hh] at hy'
    split at hy'
    · rename_i hc
      rw [if_pos hc]
      exact Nat.sub_eq_of_eq_add hy'
    · rename_i hc
      rw [if_neg hc]
      exact hy'
  refine hl.frame hknown hreferences ?_ ?_ ?_ rfl rfl rfl
  · intro h' hh'
    obtain ⟨y, hy⟩ := hl.held h' (List.mem_of_mem_erase hh')
    obtain ⟨z, hz, -⟩ := hknown _ y hy
    exact ⟨z, hz⟩
  · rintro c y - ⟨h', hh', hc⟩
    exact ⟨h', List.mem_of_mem_erase hh', hc⟩
  · intro c hc
    simp only [Ledger.giveBack] at hc
    split at hc
    · exact .inl hc
    · rename_i hdead
      rcases List.mem_cons.mp hc with rfl | hc
      · -- the last reference was given back just now
        obtain ⟨y, hy⟩ := hl.held h hh
        obtain ⟨z, hz, -⟩ := hknown _ y hy
        refine .inr ⟨⟨z, hz⟩, fun hheld => hdead ?_⟩
        have hpos : 0 < z.references := by
          rw [hreferences _ z hz]
          exact Hold.count_pos_iff.mpr hheld
        have hz' : (l.device.modify h.connection .release).get? h.connection = some z := hz
        rw [Device.isLive, hz', Option.any_some, Connection.isLive]
        exact decide_eq_true hpos
      · exact .inl hc

/-! ### The deeds -/

/-- A reference that a lookup takes is one more to a connection that is held already. -/
lemma lookup (hl : l.Sound) (address : UInt64) : (l.perform (.lookup address)).Sound := by
  rw [perform]
  split
  · rename_i c d hfound
    obtain ⟨hlive, rfl⟩ := Device.lookup_ok_eq hfound
    have hless {c' : ConnectionId} (h : ∃ h ∈ .kept c :: l.holds, h.connection = c') :
        l.Held c' := by
      obtain ⟨h, hh, hc⟩ := h
      rcases List.mem_cons.mp hh with rfl | hh
      · obtain rfl : c = c' := hc
        exact hl.isLive_iff.mp hlive
      · exact ⟨h, hh, hc⟩
    have hknown {c' : ConnectionId} {y : Connection ρ} (hy : l.device.get? c' = some y) :
        ∃ z, (l.device.modify c .retain).get? c' = some z ∧ z.address = y.address :=
      exists_modify (f := Connection.retain) (fun _ => rfl) hy
    refine hl.frame (fun c' y hy => hknown hy) ?_ ?_ (fun c' y hy h => hless h)
      (fun c' hc' => .inl hc') rfl rfl rfl
    · intro c' z hz
      obtain ⟨y, hy, rfl⟩ := Pool.get?_modify_eq_some hz
      have hcount : Hold.count (.kept c :: l.holds) c'
          = Hold.count l.holds c' + if c = c' then 1 else 0 := Hold.count_cons
      rw [hcount, ← hl.references c' y hy]
      split <;> rfl
    · intro h hh
      obtain ⟨h', hh', hc⟩ := hless ⟨h, hh, rfl⟩
      obtain ⟨y, hy⟩ := hl.held h' hh'
      obtain ⟨z, hz, -⟩ := hknown hy
      exact ⟨z, hc ▸ hz⟩
  · rename_i why d hfailed
    obtain rfl := Device.lookup_error_eq hfailed
    exact hl

lemma file (hl : l.Sound) (hx : l.device.get? c = some x) (hheld : .handle c ∈ l.holds) :
    (l.file x.address c).Sound := by
  rw [Ledger.file]
  split
  · rename_i d hfiled
    obtain ⟨hup, rfl⟩ := Device.register_ok_eq hx hfiled
    exact {
      references := hl.references
      held := hl.held
      dying := hl.dying
      filed := by
        intro e he
        rcases List.mem_cons.mp he with rfl | he
        · exact ⟨x, hx, rfl⟩
        · exact hl.filed e he
      ascending := Device.ascending_insertEntry hl.ascending
      last := by
        intro e he
        rcases (Device.mem_insertEntry hl.ascending).mp he with rfl | ⟨he, hne⟩
        · rw [last?, List.find?_cons_of_pos (by simp)]
          rfl
        · rw [last?, List.find?_cons_of_neg (by simpa using Ne.symm hne)]
          exact hl.last e he
      entered := by
        intro _ a c' hlast hheld'
        refine (Device.mem_insertEntry hl.ascending).mpr ?_
        by_cases ha : x.address = a
        · rw [last?, List.find?_cons_of_pos (by simpa using ha)] at hlast
          obtain rfl : c = c' := Option.some.inj hlast
          exact .inl (by rw [ha])
        · rw [last?, List.find?_cons_of_neg (by simpa using ha)] at hlast
          exact .inr ⟨hl.entered hup a c' hlast hheld', Ne.symm ha⟩
      down := fun hdown => absurd (hdown.symm.trans hup) (by decide) }
  · rename_i why d hfailed
    obtain rfl := Device.register_error_eq hx hfailed
    exact hl.giveBack hheld

lemma connect (hl : l.Sound) (address : UInt64) (version : UInt32) (registry : RegistryId)
    (m : Module ρ) : (l.perform (.connect address version registry m)).Sound := by
  rw [perform]
  split
  · exact hl
  · split
    · rename_i routines _ _
      have hmade := hl.make (x := l.device.newcomer address version registry routines) rfl
      exact hmade.file (Pool.get?_add_self _ _) List.mem_cons_self
    · exact hl

/-- A connection that leaves the table takes no entry along but its own. -/
lemma depart (hl : l.Sound) (c : ConnectionId) : (l.perform (.depart c)).Sound := by
  rw [perform]
  split
  · rename_i x hx
    split
    · rename_i hc
      obtain ⟨-, hfree⟩ := hl.dying c hc
      rw [Device.unregister]
      split
      · exact { hl with dying := fun c' hc' => hl.dying c' (List.mem_of_mem_erase hc') }
      · exact {
          references := hl.references
          held := hl.held
          dying := fun c' hc' => hl.dying c' (List.mem_of_mem_erase hc')
          filed := hl.filed
          ascending := List.Pairwise.filter _ hl.ascending
          last := fun e he => hl.last e (List.mem_filter.mp he).1
          entered := by
            intro hup a c' hlast hheld
            refine List.mem_filter.mpr ⟨hl.entered hup a c' hlast hheld, ?_⟩
            have hne : c' ≠ c := by
              rintro rfl
              exact hfree hheld
            simp [hne]
          down := by
            intro hdown
            have hnil : l.device.entries = [] := hl.down hdown
            rw [hnil]
            rfl }
    · exact hl
  · exact hl

lemma tearDown (hl : l.Sound) : (l.perform .tearDown).Sound where
  references := hl.references
  held := hl.held
  dying := hl.dying
  filed := hl.filed
  ascending := List.Pairwise.nil
  last _ he := absurd he List.not_mem_nil
  entered hup := by cases hup
  down _ := rfl

/-- No deed puts the ledger out of order. -/
lemma perform (hl : l.Sound) (deed : Deed ρ) : (l.perform deed).Sound := by
  cases deed with
  | connect address version registry m => exact hl.connect address version registry m
  | disconnect c =>
    rw [Ledger.perform]
    split
    · rename_i hheld
      exact (hl.modify Connection.close (fun _ => rfl) (fun _ => rfl)).giveBack hheld
    · exact hl
  | lookup address => exact hl.lookup address
  | release c =>
    rw [Ledger.perform]
    split
    · rename_i hheld
      exact hl.giveBack hheld
    · exact hl
  | depart c => exact hl.depart c
  | tearDown => exact hl.tearDown
  | enter c => exact hl.modify Connection.enter (fun _ => rfl) (fun _ => rfl)
  | leave c => exact hl.modify Connection.leave (fun _ => rfl) (fun _ => rfl)

lemma after (hl : l.Sound) (deeds : List (Deed ρ)) : (l.after deeds).Sound := by
  induction deeds generalizing l with
  | nil => exact hl
  | cons deed deeds ih => exact ih (hl.perform deed)

end Sound

end Ledger

end Testbench
