import Testbench.Proofs.Device.Ledger

/-!
# Where connections come from

Deeds make a connection only for a driver that asks for one, and what comes later leaves its address
and its routines alone.  So every connection there is stems from a driver that connected with a module
that can be numbered, and its routines are those of the numbered module.
-/

namespace Testbench.Ledger

variable {ρ : Type} {deeds : List (Deed ρ)} {d d' : Device ρ} {x : Connection ρ}

/-- A connection was made for a driver that connected with its module in one of some deeds. -/
def Stems (deeds : List (Deed ρ)) (x : Connection ρ) : Prop :=
  ∃ version registry m, .connect x.address version registry m ∈ deeds ∧
    Keyed.ofModule? m = .ok x.routines

/-- All connections of a device were made in some deeds. -/
def Rooted (deeds : List (Deed ρ)) (d : Device ρ) : Prop :=
  ∀ c x, d.get? c = some x → Stems deeds x

namespace Rooted

/-- It makes no difference what is filed. -/
lemma of_connections (h : Rooted deeds d) (hd : d'.connections = d.connections) :
    Rooted deeds d' := by
  intro c x hx
  rw [Device.get?, hd] at hx
  exact h c x hx

lemma modify (h : Rooted deeds d) (c : ConnectionId) (f : Connection ρ → Connection ρ)
    (haddress : ∀ x, (f x).address = x.address) (hroutines : ∀ x, (f x).routines = x.routines) :
    Rooted deeds (d.modify c f) := by
  intro c' x hx
  obtain ⟨y, hy, rfl⟩ := Pool.get?_modify_eq_some hx
  split
  · rw [Stems, haddress, hroutines]
    exact h c' y hy
  · exact h c' y hy

lemma make (h : Rooted deeds d) (hx : Stems deeds x) : Rooted deeds (d.make x).2 := by
  intro c y hy
  have hget : (d.connections.add x).2.get? c = some y := hy
  rw [Pool.get?_add] at hget
  split at hget
  · obtain rfl := Option.some.inj hget
    exact hx
  · exact h c y hget

lemma register (h : Rooted deeds d) (c : ConnectionId) : Rooted deeds (d.register c).2 := by
  refine h.of_connections ?_
  rw [Device.register]
  split
  · rfl
  · split
    · rfl
    · split <;> rfl

lemma unregister (h : Rooted deeds d) (address : UInt64) (c : ConnectionId) :
    Rooted deeds (d.unregister address c) := by
  refine h.of_connections ?_
  rw [Device.unregister]
  split <;> rfl

lemma lookup (h : Rooted deeds d) (address : UInt64) : Rooted deeds (d.lookup address).2 := by
  rw [Device.lookup]
  split
  · exact h
  · split
    · exact h
    · split
      · exact h.modify _ _ (fun _ => rfl) fun _ => rfl
      · exact h

variable {l : Ledger ρ}

lemma giveBack (h : Rooted deeds l.device) (hold : Hold) :
    Rooted deeds (l.giveBack hold).device := h.modify _ _ (fun _ => rfl) fun _ => rfl

lemma file (h : Rooted deeds l.device) (address : UInt64) (c : ConnectionId) :
    Rooted deeds (l.file address c).device := by
  have hd := h.register c
  rw [Ledger.file]
  split
  · next device hfiled =>
    rw [hfiled] at hd
    exact hd
  · next why device hfailed =>
    rw [hfailed] at hd
    exact giveBack (l := { l with device }) hd _

/-- Only a driver that connects brings a connection along. -/
lemma perform (h : Rooted deeds l.device) {deed : Deed ρ} (hdeed : deed ∈ deeds) :
    Rooted deeds (l.perform deed).device := by
  cases deed with
  | connect address version registry m =>
    rw [Ledger.perform]
    split
    · exact h
    · split
      · next routines _ hm =>
        have hx : Stems deeds (l.device.newcomer address version registry routines) :=
          ⟨version, registry, m, hdeed, hm⟩
        exact (h.make hx).file (l := l.make _) _ _
      · exact h
  | disconnect c =>
    rw [Ledger.perform]
    split
    · exact (h.modify c .close (fun _ => rfl) fun _ => rfl).giveBack (l := l.modify c .close) _
    · exact h
  | lookup address =>
    have hd := h.lookup address
    rw [Ledger.perform]
    split
    · next c device hfound =>
      rw [hfound] at hd
      exact hd
    · next why device hfailed =>
      rw [hfailed] at hd
      exact hd
  | release c =>
    rw [Ledger.perform]
    split
    · exact h.giveBack _
    · exact h
  | depart c =>
    rw [Ledger.perform]
    split
    · split
      · exact h.unregister _ _
      · exact h
    · exact h
  | tearDown => exact h.of_connections rfl
  | enter c => exact h.modify c _ (fun _ => rfl) fun _ => rfl
  | leave c => exact h.modify c _ (fun _ => rfl) fun _ => rfl

/-- Whatever is done to a ledger, its connections stem from those of the deeds that connect. -/
lemma after {done : List (Deed ρ)} (hdone : ∀ deed ∈ done, deed ∈ deeds)
    (h : Rooted deeds l.device) : Rooted deeds (l.after done).device := by
  induction done generalizing l with
  | nil => exact h
  | cons deed done ih =>
    exact ih (fun e he => hdone e (List.mem_cons_of_mem _ he))
      (h.perform (hdone deed List.mem_cons_self))

end Rooted

/-- All connections of a device stem from the deeds that made it. -/
theorem rooted_after (joinLimit : Duration) (deeds : List (Deed ρ)) :
    Rooted deeds ((blank joinLimit).after deeds).device :=
  Rooted.after (fun _ h => h) fun _ _ hx => by cases hx

end Testbench.Ledger
