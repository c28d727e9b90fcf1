import Mathlib.Logic.Relation
import Testbench.Proofs.Accounts
import Testbench.Proofs.Defaults

/-!
# What can happen to registries

Between two turns of a thread anybody else may run.  All that they can do to filaments and
registries is made of a few moves: threads, filaments and registries are made, threads are bound,
looked for, unbound and let go, and default filaments are installed and revoked.  Whatever comes of
it, the counts are exact, nobody is named who is not there, and each filament keeps its main thread
and the observer that it reports to.
-/

namespace Testbench

namespace Accounts

variable {r r' : Roster} {held : List Binding}

/-! ### Counts that stay exact -/

/-- What is not about filaments and tables is nothing to the counts. -/
lemma Sound.of_roster (h : Sound ⟨r, held⟩) (hfilaments : r'.filaments = r.filaments)
    (hregistries : r'.registries = r.registries) : Sound ⟨r', held⟩ := by
  have hsame : r'.bindings = r.bindings := by rw [Roster.bindings, hregistries, Roster.bindings]
  refine h.of_perm hfilaments (.of_eq ?_) fun reg => ?_
  · rw [bindings, bindings, hsame]
  · rw [Roster.table_congr hregistries]
    exact h.fits reg

/-- Filaments may change in what has nothing to do with counting, and new ones count nobody. -/
lemma Sound.of_filaments (h : Sound ⟨r, held⟩) (hregistries : r'.registries = r.registries)
    (hstays : ∀ f x, r.filaments.get? f = some x → ∃ x', r'.filaments.get? f = some x')
    (hcounts : ∀ f x', r'.filaments.get? f = some x' →
      (∃ x, r.filaments.get? f = some x ∧ x'.running = x.running ∧ x'.mainThread = x.mainThread) ∨
        r.filaments.get? f = none ∧ x'.running = 0) : Sound ⟨r', held⟩ := by
  have hsame : bindings ⟨r', held⟩ = bindings ⟨r, held⟩ := by
    rw [bindings, bindings, Roster.bindings, hregistries, Roster.bindings]
  constructor
  · intro b hb
    rw [hsame] at hb
    obtain ⟨x, hx⟩ := h.known b hb
    exact hstays _ x hx
  · intro f x' hx'
    rw [children, hsame]
    rcases hcounts f x' hx' with ⟨x, hx, hrunning, hmain⟩ | ⟨hnone, hrunning⟩
    · rw [hrunning, hmain]
      exact h.counted f x hx
    · -- nobody is bound to a filament that is not there
      have hnobody : (bindings ⟨r, held⟩).countP (counts f x'.mainThread) = 0 := by
        refine List.countP_eq_zero.mpr fun b hb hcounted => ?_
        obtain ⟨x, hx⟩ := h.known b hb
        have hf : b.filament = f := by simpa using (Bool.and_eq_true_iff.mp hcounted).1
        rw [hf, hnone] at hx
        cases hx
      rw [hrunning, hnobody]
      exact ⟨rfl, Nat.zero_le _⟩
  · intro reg
    exact Roster.table_congr hregistries reg ▸ h.fits reg

lemma Sound.newFilament (h : Sound ⟨r, held⟩) (o : ObserverId) (flags : FilamentFlags)
    (t : ThreadId) : Sound ⟨(r.newFilament o flags t).2, held⟩ := by
  refine h.of_filaments rfl (fun f x hx => ⟨x, Pool.get?_add_of_some hx _⟩) fun f x' hx' => ?_
  cases hx : r.filaments.get? f with
  | some x =>
    have hold := Option.some.inj ((Pool.get?_add_of_some hx _).symm.trans hx')
    exact .inl ⟨x, rfl, hold ▸ ⟨rfl, rfl⟩⟩
  | none =>
    refine .inr ⟨rfl, ?_⟩
    by_cases hf : f = r.filaments.items.size
    · subst hf
      have hnew := Option.some.inj ((Pool.get?_add_self _ _).symm.trans hx')
      rw [← hnew]
    · have hsame := hx.symm.trans ((Pool.get?_add_of_ne _ _ hf).symm.trans hx')
      cases hsame

lemma Sound.modify (h : Sound ⟨r, held⟩) {g : Filament → Filament}
    (hg : ∀ x, (g x).running = x.running ∧ (g x).mainThread = x.mainThread) (f : FilamentId) :
    Sound ⟨{ r with filaments := r.filaments.modify f g }, held⟩ := by
  refine h.of_filaments rfl (fun f' x hx => ?_) fun f' x' hx' => .inl ?_
  · by_cases hf : f = f'
    · exact ⟨g x, hf ▸ Pool.get?_modify_self g (hf ▸ hx)⟩
    · exact ⟨x, (Pool.get?_modify_of_ne hf g).trans hx⟩
  · by_cases hf : f = f'
    · subst hf
      rw [Pool.get?_modify_same] at hx'
      obtain ⟨x, hx, rfl⟩ := Option.map_eq_some_iff.mp hx'
      exact ⟨x, hx, hg x⟩
    · exact ⟨x', (Pool.get?_modify_of_ne hf g).symm.trans hx', rfl, rfl⟩

/-- So may registries in what is not their table. -/
lemma Sound.modifyRegistry (h : Sound ⟨r, held⟩) (reg : RegistryId) {k : Registry → Registry}
    (hk : ∀ g, (k g).table = g.table) :
    Sound ⟨{ r with registries := r.registries.modify reg k }, held⟩ := by
  cases hg : r.registries.get? reg with
  | none =>
    have hsame : r.registries.modify reg k = r.registries :=
      Pool.modify_eq_self fun g hg' => nomatch hg.symm.trans hg'
    exact h.of_roster rfl hsame
  | some g =>
    have hset : r.registries.modify reg k = r.registries.modify reg fun _ => k g :=
      Pool.modify_congr_of_some hg rfl
    have hget : r.registries.items.toList[reg]? = some g := by
      rw [Array.getElem?_toList]
      exact hg
    have hperm := perm_flatMap_set (fun g : Registry => g.table.bindings) hget (k g)
    rw [hk] at hperm
    rw [hset]
    refine h.of_perm rfl (.append_left held ?_) fun reg' => ?_
    · rw [Roster.bindings, Roster.bindings, Roster.toList_modify]
      exact (List.perm_append_left_iff _).mp hperm
    · by_cases hreg : reg = reg'
      · subst hreg
        have hnew := Pool.get?_modify_self (fun _ => k g) hg
        rw [Roster.table_eq hnew, hk]
        exact Roster.table_eq hg ▸ h.fits reg
      · rw [Roster.table, Pool.get?_modify_of_ne hreg]
        exact h.fits reg'

lemma Sound.newRegistry (h : Sound ⟨r, held⟩) (kind : Registry.Kind) :
    Sound ⟨(r.newRegistry kind).2, held⟩ := by
  refine h.of_perm rfl (.append_left held ?_) fun reg =>
    (Guests.newRegistry_same r kind reg).1 ▸ h.fits reg
  rw [Roster.bindings, Roster.bindings, Roster.newRegistry, Pool.add, Array.toList_push,
    List.flatMap_append, List.flatMap_singleton, List.append_nil]

lemma Sound.installDefault (h : Sound ⟨r, held⟩) (reg : RegistryId) (o : ObserverId)
    (flags : FilamentFlags) (t : ThreadId) :
    Sound ⟨(r.installDefault reg o flags t).2, held⟩ := by
  rw [Roster.installDefault]
  cases r.default? reg with
  | some f => exact h
  | none => exact (h.newFilament o _ t).modifyRegistry reg fun _ => rfl

/-- Nobody is bound to a filament that is not there. -/
lemma attach_of_none {b : Binding} (hx : r.filaments.get? b.filament = none) (reg : RegistryId) :
    r.attach reg b = (.error .unknownThread, r) := by
  have hmake := make_of_none (a := ⟨r, []⟩) hx
  rcases r.attach_cases reg b with ⟨why, r₁, hprepare, hattach⟩ | ⟨r₁, hprepare, -⟩ <;>
    rw [make, hprepare] at hmake <;> cases hmake
  exact hattach

lemma Sound.attach (h : Sound ⟨r, held⟩) (reg : RegistryId) (b : Binding) :
    Sound ⟨(r.attach reg b).2, held⟩ := by
  obtain ⟨deeds, hdeeds⟩ := attach_after ⟨r, held⟩ reg b
  exact hdeeds ▸ h.after deeds

lemma Sound.detach (h : Sound ⟨r, held⟩) (reg : RegistryId) (t : ThreadId) :
    Sound ⟨r.detach reg t, held⟩ := by
  obtain ⟨deeds, hdeeds⟩ := detach_after ⟨r, held⟩ reg t
  exact hdeeds ▸ h.after deeds

lemma Sound.current (h : Sound ⟨r, held⟩) (reg : RegistryId) (t : ThreadId) (derive : Bool) :
    Sound ⟨(r.current reg t derive).2, held⟩ := by
  rcases r.current_cases reg t derive with hsame | ⟨f, -, hsame | ⟨kept, -, hsame⟩⟩ <;> rw [hsame]
  · exact h
  · exact h.attach reg _
  · exact (h.attach reg _).of_roster rfl rfl

lemma Sound.threadEnded (h : Sound ⟨r, held⟩) (t : ThreadId) : Sound ⟨r.threadEnded t, held⟩ := by
  have hfold (l : List Adoption) (r : Roster) (h : Sound ⟨r, held⟩) :
      Sound ⟨l.foldl (fun r a => r.detachIf a.registry a.thread a.filament) r, held⟩ := by
    induction l generalizing r with
    | nil => exact h
    | cons a l ih =>
      obtain ⟨deeds, hdeeds⟩ := detachIf_after ⟨r, held⟩ a.registry a.thread a.filament
      exact ih _ (hdeeds ▸ h.after deeds)
  exact (hfold _ r h).of_roster rfl rfl

/-- All that is held is undone. -/
lemma Sound.releaseAll {gone : List Binding} (h : Sound ⟨r, gone ++ held⟩) :
    Sound ⟨r.releaseAll gone, held⟩ := by
  induction gone generalizing r with
  | nil => exact h
  | cons b gone ih =>
    have hdropped := h.drop (b := b) List.mem_cons_self
    rw [Accounts.drop, List.cons_append, List.erase_cons_head] at hdropped
    exact ih hdropped

lemma Sound.revokeDefault (h : Sound ⟨r, held⟩) (reg : RegistryId) (f : FilamentId) :
    Sound ⟨r.revokeDefault reg f, held⟩ := by
  have hdismissed : Sound ⟨Guests.dismissing r reg f, held⟩ := by
    refine h.modifyRegistry reg fun g => ?_
    split <;> rfl
  exact (hdismissed.perform (.unbindFilament reg f)).releaseAll

end Accounts

lemma Roster.Recounts.revokeDefault (r : Roster) (reg : RegistryId) (f : FilamentId) :
    Recounts r (r.revokeDefault reg f) := by
  have hgone (gone : List Binding) (r : Roster) : Recounts r (r.releaseAll gone) := by
    induction gone generalizing r with
    | nil => exact .refl r
    | cons b gone ih => exact (release r b).trans (ih _)
  exact .trans (.of_filaments rfl) (hgone _ _)

namespace World

variable {ρ ε : Type} {w w' w'' : World ρ ε}

/-! ### Moves -/

/-- One thing that can happen to filaments and registries, whoever does it. -/
inductive Move (w : World ρ ε) : World ρ ε → Prop
  /-- A thread is made. -/
  | thread : Move w (newThread w).2
  /-- A thread makes a filament. -/
  | filament (o : ObserverId) (flags : FilamentFlags) {t : ThreadId}
      (ht : t < w.threads.items.size) :
      Move w { w with roster := (w.roster.newFilament o flags t).2 }
  /-- A registry is made. -/
  | registry (kind : Registry.Kind) : Move w { w with roster := (w.roster.newRegistry kind).2 }
  /-- A thread is bound, or turned away. -/
  | attach (reg : RegistryId) {b : Binding} (hb : b.thread < w.threads.items.size) :
      Move w { w with roster := (w.roster.attach reg b).2 }
  /-- A thread asks for its place, and may be adopted. -/
  | current (reg : RegistryId) {t : ThreadId} (derive : Bool) (ht : t < w.threads.items.size) :
      Move w { w with roster := (w.roster.current reg t derive).2 }
  /-- A thread is unbound. -/
  | detach (reg : RegistryId) (t : ThreadId) : Move w { w with roster := w.roster.detach reg t }
  /-- A thread ends. -/
  | ended (t : ThreadId) : Move w { w with roster := w.roster.threadEnded t }
  /-- A thread installs a default filament. -/
  | install (reg : RegistryId) (o : ObserverId) (flags : FilamentFlags) {t : ThreadId}
      (ht : t < w.threads.items.size) :
      Move w { w with roster := (w.roster.installDefault reg o flags t).2 }
  /-- A default filament is revoked. -/
  | revoke (reg : RegistryId) (f : FilamentId) :
      Move w { w with roster := w.roster.revokeDefault reg f }
  /-- A value is set in a filament, or an outcome noted. -/
  | remark (f : FilamentId) {g : Filament → Filament} (hg : ∀ x, (g x).running = x.running ∧
        (g x).mainThread = x.mainThread ∧ (g x).observer = x.observer) :
      Move w { w with roster := { w.roster with filaments := w.roster.filaments.modify f g } }
  /-- Another thread has its turn, or something happens elsewhere. -/
  | besides {w' : World ρ ε} (hroster : w'.roster = w.roster)
      (hthreads : w'.threads.items.size = w.threads.items.size)
      (hcurrent : w'.current < w'.threads.items.size) : Move w w'

/-- Any number of moves. -/
def Moves : World ρ ε → World ρ ε → Prop := Relation.ReflTransGen Move

namespace Moves

lemma refl (w : World ρ ε) : Moves w w := Relation.ReflTransGen.refl

lemma of_move (h : Move w w') : Moves w w' := .single h

lemma trans (h : Moves w w') (h' : Moves w' w'') : Moves w w'' := Relation.ReflTransGen.trans h h'

end Moves

/-! ### What moves leave as it is -/

/-- Threads and filaments stay, and a filament keeps its main thread and its observer. -/
structure Later (w w' : World ρ ε) : Prop where
  threads : w.threads.items.size ≤ w'.threads.items.size
  filaments : ∀ f x, w.roster.filaments.get? f = some x →
    ∃ x', w'.roster.filaments.get? f = some x' ∧
      x'.mainThread = x.mainThread ∧ x'.observer = x.observer

namespace Later

lemma of_filaments (hthreads : w.threads.items.size ≤ w'.threads.items.size)
    (h : w'.roster.filaments = w.roster.filaments) : Later w w' :=
  ⟨hthreads, fun _ x hx => ⟨x, h ▸ hx, rfl, rfl⟩⟩

lemma refl (w : World ρ ε) : Later w w := of_filaments (Nat.le_refl _) rfl

lemma trans (h : Later w w') (h' : Later w' w'') : Later w w'' := by
  refine ⟨Nat.le_trans h.threads h'.threads, fun f x hx => ?_⟩
  obtain ⟨x', hx', hmain, hobserver⟩ := h.filaments f x hx
  obtain ⟨x'', hx'', hmain', hobserver'⟩ := h'.filaments f x' hx'
  exact ⟨x'', hx'', hmain'.trans hmain, hobserver'.trans hobserver⟩

lemma of_recounts {r : Roster} (h : w.roster.Recounts r) : Later w { w with roster := r } := by
  refine ⟨Nat.le_refl _, fun f x hx => ?_⟩
  obtain ⟨n, hn⟩ := h.exists_get? hx
  exact ⟨_, hn, rfl, rfl⟩

lemma of_newFilament (w : World ρ ε) (o : ObserverId) (flags : FilamentFlags) (t : ThreadId) :
    Later w { w with roster := (w.roster.newFilament o flags t).2 } :=
  ⟨Nat.le_refl _, fun _ x hx => ⟨x, Pool.get?_add_of_some hx _, rfl, rfl⟩⟩

end Later

lemma Move.later (h : Move w w') : Later w w' := by
  cases h with
  | thread => exact .of_filaments (Array.size_push _ ▸ Nat.le_succ _) rfl
  | filament o flags => exact .of_newFilament w o flags _
  | registry => exact .of_filaments (Nat.le_refl _) rfl
  | attach reg => exact .of_recounts (.attach w.roster reg _)
  | current reg derive => exact .of_recounts (.current w.roster reg _ derive)
  | detach reg t => exact .of_recounts (.detach w.roster reg t)
  | ended t => exact .of_recounts (.threadEnded w.roster t)
  | install reg o flags =>
    rw [Roster.installDefault]
    cases w.roster.default? reg with
    | some f => exact .refl w
    | none => exact (Later.of_newFilament w o _ _).trans (.of_filaments (Nat.le_refl _) rfl)
  | revoke reg f => exact .of_recounts (.revokeDefault w.roster reg f)
  | remark f hg =>
    refine ⟨Nat.le_refl _, fun f' x hx => ?_⟩
    by_cases hf : f = f'
    · exact ⟨_, hf ▸ Pool.get?_modify_self _ (hf ▸ hx), (hg x).2⟩
    · exact ⟨x, (Pool.get?_modify_of_ne hf _).trans hx, rfl, rfl⟩
  | besides hroster hthreads =>
    exact .of_filaments (Nat.le_of_eq hthreads.symm) (congrArg Roster.filaments hroster)

theorem Moves.later (h : Moves w w') : Later w w' := by
  induction h with
  | refl => exact .refl w
  | tail _ hmove ih => exact ih.trans hmove.later

/-! ### What moves see to -/

/-- The counts are exact, no table holds too much, and whoever is named anywhere is there. -/
structure Kempt (w : World ρ ε) : Prop extends Guests.Orderly w where
  sound : (Accounts.mk w.roster []).Sound
  main_lt : ∀ f x, w.roster.filaments.get? f = some x → x.mainThread < w.threads.items.size
  adopted_lt : ∀ a ∈ w.roster.adoptions, a.thread < w.threads.items.size

namespace Kempt

/-- Before anything happened there is nothing to be seen to. -/
lemma blank (hroster : w.roster = {}) (hcurrent : w.current < w.threads.items.size) : w.Kempt where
  toOrderly := (Guests.Reachable.start hcurrent fun _ => hroster ▸ ⟨rfl, rfl⟩).orderly
  sound := hroster ▸ Accounts.start_sound [] []
  main_lt f x hx := by
    rw [hroster] at hx
    cases hx
  adopted_lt a ha := by
    rw [hroster] at ha
    cases ha

/-- Nothing happened to the roster. -/
lemma besides (h : w.Kempt) (hroster : w'.roster = w.roster)
    (hthreads : w.threads.items.size ≤ w'.threads.items.size)
    (hcurrent : w'.current < w'.threads.items.size) : w'.Kempt where
  toOrderly := h.toOrderly.of_registries hcurrent hthreads (by rw [hroster]) (by rw [hroster])
  sound := hroster ▸ h.sound
  main_lt f x hx := Nat.lt_of_lt_of_le (h.main_lt f x (hroster ▸ hx)) hthreads
  adopted_lt a ha := Nat.lt_of_lt_of_le (h.adopted_lt a (hroster ▸ ha)) hthreads

/-- Filaments count anew, and perhaps a thread that is there was adopted. -/
lemma recounts (h : w.Kempt) {r : Roster} (horderly : Guests.Orderly { w with roster := r })
    (hsound : (Accounts.mk r []).Sound) (hrecounts : w.roster.Recounts r)
    (hadoptions : ∀ a ∈ r.adoptions, a ∈ w.roster.adoptions ∨ a.thread < w.threads.items.size) :
    Kempt { w with roster := r } where
  toOrderly := horderly
  sound := hsound
  main_lt f x hx := by
    obtain ⟨n, hn⟩ := hrecounts.symm.exists_get? hx
    have hmain := h.main_lt f _ hn
    exact hmain
  adopted_lt a ha := (hadoptions a ha).elim (h.adopted_lt a) id

/-- A filament came, whose main thread is there. -/
lemma filament (h : w.Kempt) (o : ObserverId) (flags : FilamentFlags) {t : ThreadId}
    (ht : t < w.threads.items.size) :
    Kempt { w with roster := (w.roster.newFilament o flags t).2 } where
  toOrderly := h.toOrderly.of_registries h.current_lt (Nat.le_refl _)
    (Array.size_push _ ▸ Nat.le_succ _) rfl
  sound := h.sound.newFilament o flags t
  main_lt f x hx := by
    cases hold : w.roster.filaments.get? f with
    | some y =>
      obtain rfl := Option.some.inj ((Pool.get?_add_of_some hold _).symm.trans hx)
      exact h.main_lt f y hold
    | none =>
      rw [Roster.newFilament, Pool.get?_add, hold] at hx
      split at hx
      · obtain rfl := Option.some.inj hx
        exact ht
      · cases hx
  adopted_lt := h.adopted_lt

lemma attach (h : w.Kempt) (reg : RegistryId) {b : Binding}
    (hb : b.thread < w.threads.items.size) :
    Kempt { w with roster := (w.roster.attach reg b).2 } := by
  have horderly : Guests.Orderly { w with roster := (w.roster.attach reg b).2 } := by
    by_cases hf : b.filament < w.roster.filaments.items.size
    · exact h.toOrderly.attach reg hb hf
    · -- without the filament there is no binding
      have hnone : w.roster.filaments.get? b.filament = none :=
        Array.getElem?_eq_none (Nat.le_of_not_lt hf)
      rw [Accounts.attach_of_none hnone]
      exact h.toOrderly
  refine h.recounts horderly (h.sound.attach reg b) (.attach w.roster reg b) fun a ha => .inl ?_
  rwa [Roster.attach_adoptions] at ha

lemma current (h : w.Kempt) (reg : RegistryId) {t : ThreadId} (derive : Bool)
    (ht : t < w.threads.items.size) :
    Kempt { w with roster := (w.roster.current reg t derive).2 } := by
  refine h.recounts (h.toOrderly.current reg derive ht) (h.sound.current reg t derive)
    (.current w.roster reg t derive) fun a ha => ?_
  rcases w.roster.current_cases reg t derive with hsame | ⟨f, -, hsame | ⟨kept, hkept, hsame⟩⟩ <;>
    rw [hsame] at ha
  · exact .inl ha
  · exact .inl (w.roster.attach_adoptions reg _ ▸ ha)
  · rcases List.mem_append.mp ha with hold | hnew
    · exact .inl (hkept hold)
    · exact .inr (List.mem_singleton.mp hnew ▸ ht)

lemma detach (h : w.Kempt) (reg : RegistryId) (t : ThreadId) :
    Kempt { w with roster := w.roster.detach reg t } := by
  refine h.recounts (h.toOrderly.detach reg t) (h.sound.detach reg t) (.detach w.roster reg t)
    fun a ha => .inl ?_
  rwa [Roster.detach_adoptions] at ha

lemma ended (h : w.Kempt) (t : ThreadId) :
    Kempt { w with roster := w.roster.threadEnded t } := by
  refine h.recounts (h.toOrderly.ended t) (h.sound.threadEnded t) (.threadEnded w.roster t)
    fun a ha => .inl ?_
  rw [Roster.threadEnded_adoptions] at ha
  exact (List.mem_filter.mp ha).1

lemma install (h : w.Kempt) (reg : RegistryId) (o : ObserverId) (flags : FilamentFlags)
    {t : ThreadId} (ht : t < w.threads.items.size) :
    Kempt { w with roster := (w.roster.installDefault reg o flags t).2 } where
  toOrderly := h.toOrderly.install reg o flags t
  sound := h.sound.installDefault reg o flags t
  main_lt := by
    rw [Roster.installDefault]
    cases w.roster.default? reg with
    | some f => exact h.main_lt
    | none => exact (h.filament o _ ht).main_lt
  adopted_lt := by
    rw [Roster.installDefault]
    cases w.roster.default? reg with
    | some f => exact h.adopted_lt
    | none => exact h.adopted_lt

lemma revoke (h : w.Kempt) (reg : RegistryId) (f : FilamentId) :
    Kempt { w with roster := w.roster.revokeDefault reg f } := by
  refine h.recounts (h.toOrderly.revoke reg f) (h.sound.revokeDefault reg f)
    (.revokeDefault w.roster reg f) fun a ha => .inl ?_
  rw [Roster.revokeDefault, Defaults.releaseAll_adoptions] at ha
  exact ha

lemma remark (h : w.Kempt) (f : FilamentId) {g : Filament → Filament}
    (hg : ∀ x, (g x).running = x.running ∧ (g x).mainThread = x.mainThread) :
    Kempt { w with roster := { w.roster with filaments := w.roster.filaments.modify f g } } where
  toOrderly := h.toOrderly.of_registries h.current_lt (Nat.le_refl _)
    (Nat.le_of_eq Array.size_modify.symm) rfl
  sound := h.sound.modify hg f
  main_lt f' x hx := by
    by_cases hf : f = f'
    · subst hf
      rw [Pool.get?_modify_same] at hx
      obtain ⟨y, hy, rfl⟩ := Option.map_eq_some_iff.mp hx
      exact (hg y).2 ▸ h.main_lt f y hy
    · exact h.main_lt f' x ((Pool.get?_modify_of_ne hf g).symm.trans hx)
  adopted_lt := h.adopted_lt

lemma move (h : w.Kempt) (hmove : Move w w') : w'.Kempt := by
  cases hmove with
  | thread =>
    have hgrown : w.threads.items.size ≤ ((newThread w).2 : World ρ ε).threads.items.size :=
      Array.size_push _ ▸ Nat.le_succ _
    exact h.besides rfl hgrown (Nat.lt_of_lt_of_le h.current_lt hgrown)
  | filament o flags ht => exact h.filament o flags ht
  | registry kind =>
    exact { h with
      toOrderly := h.toOrderly.registry kind
      sound := h.sound.newRegistry kind }
  | attach reg hb => exact h.attach reg hb
  | current reg derive ht => exact h.current reg derive ht
  | detach reg t => exact h.detach reg t
  | ended t => exact h.ended t
  | install reg o flags ht => exact h.install reg o flags ht
  | revoke reg f => exact h.revoke reg f
  | remark f hg => exact h.remark f fun x => ⟨(hg x).1, (hg x).2.1⟩
  | besides hroster hthreads hcurrent =>
    exact h.besides hroster (Nat.le_of_eq hthreads.symm) hcurrent

/-- Whatever happens, registries stay in order. -/
theorem moves (h : w.Kempt) (hmoves : Moves w w') : w'.Kempt := by
  induction hmoves with
  | refl => exact h
  | tail _ hmove ih => exact ih.move hmove

end Kempt

end World

end Testbench
