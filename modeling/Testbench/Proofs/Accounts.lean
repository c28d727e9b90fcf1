import Testbench.Proofs.Tables

/-!
# Children are counted exactly

A filament counts its children by number only: making a binding adds one, undoing it takes one away,
and in between the binding is in some table or in somebody's hands.  Here the bindings outside are
held in a list beside the roster, which no operation looks at, so that all of them are in sight.
Whatever is done, and in whatever order, each filament counts as many children as there are bindings
of threads other than its main thread.
-/

namespace Testbench

/-- A roster and the bindings that are in no table. -/
structure Accounts where
  roster : Roster
  held : List Binding

namespace Accounts

/-- Some filaments that count nobody, and registries with nobody in their tables. -/
def start (filaments : List Filament) (kinds : List Registry.Kind) : Accounts where
  roster := {
    filaments := ⟨(filaments.map ({ · with running := 0 })).toArray⟩
    registries := ⟨(kinds.map ({ kind := · })).toArray⟩ }
  held := []

/-- All bindings there are. -/
def bindings (a : Accounts) : List Binding := a.held ++ a.roster.bindings

/-- Whether a filament counts a binding. -/
def counts (f : FilamentId) (main : ThreadId) (b : Binding) : Bool :=
  b.filament = f && b.thread ≠ main

/-- The bindings of a filament that are not of its main thread. -/
def children (a : Accounts) (f : FilamentId) (main : ThreadId) : Nat :=
  a.bindings.countP (counts f main)

/-! ### Deeds -/

/-- Something that is done with bindings. -/
inductive Deed
  /-- Makes a binding, which is held. -/
  | make (b : Binding)
  /-- Puts a binding that is held into a table. -/
  | bind (b : Binding) (reg : RegistryId)
  /-- Takes the binding of a thread out of a table. -/
  | unbind (reg : RegistryId) (thread : ThreadId)
  /-- Takes the binding of a thread out of a table, if it is to a filament. -/
  | unbindIf (reg : RegistryId) (thread : ThreadId) (f : FilamentId)
  /-- Takes all bindings to a filament out of a table. -/
  | unbindFilament (reg : RegistryId) (f : FilamentId)
  /-- Undoes a binding that is held. -/
  | drop (b : Binding)

/-- Makes a binding. -/
def make (a : Accounts) (b : Binding) : Except FilamentError Unit × Accounts :=
  match a.roster.prepare b with
  | (.ok (), roster) => (.ok (), ⟨roster, b :: a.held⟩)
  | (.error why, roster) => (.error why, ⟨roster, a.held⟩)

/-- Puts a binding that is held into a table; one that the table refuses is still held. -/
def bind (a : Accounts) (b : Binding) (reg : RegistryId) : Except FilamentError Unit × Accounts :=
  match a.roster.onTable reg (.error .unknownThread) (·.bind b) with
  | (.ok (), roster) => (.ok (), ⟨roster, a.held.erase b⟩)
  | (.error why, roster) => (.error why, ⟨roster, a.held⟩)

/-- Takes bindings out of a table and holds them; `taken` says which ones an answer stands for. -/
def takeOut {α : Type} (a : Accounts) (reg : RegistryId) (fallback : α)
    (f : ThreadTable → α × ThreadTable) (taken : α → List Binding) : Accounts :=
  let (gone, roster) := a.roster.onTable reg fallback f
  ⟨roster, taken gone ++ a.held⟩

/-- Undoes a binding that is held. -/
def drop (a : Accounts) (b : Binding) : Accounts := ⟨a.roster.release b, a.held.erase b⟩

/-- What comes of a deed. Only what is held can be put into a table or undone. -/
def perform (a : Accounts) : Deed → Accounts
  | .make b => (a.make b).2
  | .bind b reg => if b ∈ a.held then (a.bind b reg).2 else a
  | .unbind reg thread => a.takeOut reg none (·.unbind thread) Option.toList
  | .unbindIf reg thread f => a.takeOut reg none (·.unbindIf thread f) Option.toList
  | .unbindFilament reg f => a.takeOut reg [] (·.unbindFilament f) id
  | .drop b => if b ∈ a.held then a.drop b else a

/-- What comes of deeds one after the other. -/
def after (a : Accounts) (deeds : List Deed) : Accounts := deeds.foldl perform a

/-! ### What holds -/

/-- The counts are exact, and no table holds too much. -/
structure Sound (a : Accounts) : Prop where
  known : ∀ b ∈ a.bindings, ∃ x, a.roster.filaments.get? b.filament = some x
  counted : ∀ f x, a.roster.filaments.get? f = some x →
    x.running = a.children f x.mainThread ∧ x.running ≤ Filament.maxChildren
  fits : ∀ reg, (a.roster.table reg).Fits

variable {a a' : Accounts} {b : Binding} {reg : RegistryId} {g : Registry} {x : Filament}

lemma start_sound (filaments : List Filament) (kinds : List Registry.Kind) :
    (start filaments kinds).Sound := by
  have htable (reg : RegistryId) : (start filaments kinds).roster.table reg = {} := by
    rw [Roster.table]
    cases hg : (start filaments kinds).roster.registries.get? reg with
    | none => rfl
    | some g =>
      rw [Pool.get?, start, List.getElem?_toArray, List.getElem?_map] at hg
      obtain ⟨kind, -, rfl⟩ := Option.map_eq_some_iff.mp hg
      rfl
  have hnone : (start filaments kinds).bindings = [] := by
    refine List.flatMap_eq_nil_iff.mpr fun g hg => ?_
    obtain ⟨kind, -, rfl⟩ := List.mem_map.mp hg
    rfl
  constructor
  · intro b hb
    rw [hnone] at hb
    cases hb
  · intro f x hx
    rw [Pool.get?, start, List.getElem?_toArray, List.getElem?_map] at hx
    obtain ⟨y, -, rfl⟩ := Option.map_eq_some_iff.mp hx
    rw [children, hnone]
    exact ⟨rfl, Nat.zero_le _⟩
  · intro reg
    rw [htable]
    exact ThreadTable.fits_empty

/-- Only where the bindings are has changed. -/
lemma Sound.of_perm (h : a.Sound) (hfilaments : a'.roster.filaments = a.roster.filaments)
    (hperm : a.bindings.Perm a'.bindings) (hfits : ∀ reg, (a'.roster.table reg).Fits) :
    a'.Sound := by
  constructor
  · intro b hb
    rw [hfilaments]
    exact h.known b (hperm.mem_iff.mpr hb)
  · intro f x hx
    rw [hfilaments] at hx
    rw [children, ← hperm.countP_eq]
    exact h.counted f x hx
  · exact hfits

/-! ### Tables -/

/-- What is taken out of a table is held. -/
lemma Sound.takeOut (h : a.Sound) (reg : RegistryId) {α : Type} (fallback : α)
    (f : ThreadTable → α × ThreadTable) (taken : α → List Binding) (hnone : taken fallback = [])
    (hf : ∀ t : ThreadTable, t.bindings.Perm (taken (f t).1 ++ (f t).2.bindings)) :
    (a.takeOut reg fallback f taken).Sound := by
  cases hg : a.roster.registries.get? reg with
  | none =>
    rw [Accounts.takeOut, Roster.onTable_of_none hg]
    dsimp only
    rw [hnone]
    exact h
  | some g =>
    have hanswer : (a.roster.onTable reg fallback f).1 = (f g.table).1 := by
      rw [Roster.onTable_eq hg]
    have hall : a.roster.bindings.Perm
        (taken (f g.table).1 ++ (a.roster.onTable reg fallback f).2.bindings) :=
      Roster.onTable_perm hg fallback f [] _ (hf g.table)
    refine h.of_perm ?_ ?_ fun reg' => ?_
    · rw [Accounts.takeOut, Roster.onTable_eq hg]
    · rw [bindings, bindings, Accounts.takeOut]
      dsimp only
      rw [hanswer, List.append_assoc]
      exact (hall.append_left a.held).trans (List.perm_append_comm_assoc ..)
    · rw [Accounts.takeOut]
      dsimp only
      rw [Roster.table_onTable hg]
      split
      · exact (Roster.table_eq hg ▸ h.fits reg).of_perm (hf g.table)
      · exact h.fits reg'

/-- A binding that is held is put into a table, or the table refuses it and nothing changes: its
thread has a binding there, or the table is full. -/
lemma bind_cases (hg : a.roster.registries.get? reg = some g) (b : Binding) :
    (b.thread ∉ g.table.bindings.map Binding.thread ∧
        g.table.bindings.length < ThreadTable.maxThreads ∧
        ∃ roster, a.roster.onTable reg (.error .unknownThread) (·.bind b) = (.ok (), roster) ∧
          a.bind b reg = (.ok (), ⟨roster, a.held.erase b⟩)) ∨
      (b.thread ∈ g.table.bindings.map Binding.thread ∧ a.bind b reg = (.error .conflict, a)) ∨
      (b.thread ∉ g.table.bindings.map Binding.thread ∧
        ThreadTable.maxThreads ≤ g.table.bindings.length ∧
        a.bind b reg = (.error (.tooManyThreads g.table.bindings.length), a)) := by
  have hstays : ({ a.roster with registries := a.roster.registries.modify reg fun _ =>
      { g with table := g.table } } : Roster) = a.roster := by
    rw [Pool.modify_eq_self_of_some hg rfl]
  rcases g.table.bind_cases b with ⟨hfree, hroom, hbind⟩ | ⟨hbound, hbind⟩ | ⟨hfree, hfull, hbind⟩
  · rcases htable : a.roster.onTable reg (.error .unknownThread) (·.bind b) with ⟨result, roster⟩
    obtain rfl : result = .ok () := by
      rw [Roster.onTable_eq hg, hbind] at htable
      exact (congrArg Prod.fst htable).symm
    refine .inl ⟨hfree, hroom, roster, htable, ?_⟩
    rw [bind, htable]
  · refine .inr (.inl ⟨hbound, ?_⟩)
    rw [bind, Roster.onTable_eq hg, hbind]
    dsimp only
    rw [hstays]
  · refine .inr (.inr ⟨hfree, hfull, ?_⟩)
    rw [bind, Roster.onTable_eq hg, hbind]
    dsimp only
    rw [hstays]

lemma Sound.bind (h : a.Sound) (hb : b ∈ a.held) (reg : RegistryId) : (a.bind b reg).2.Sound := by
  cases hg : a.roster.registries.get? reg with
  | none =>
    rw [Accounts.bind, Roster.onTable_of_none hg]
    exact h
  | some g =>
    rcases bind_cases hg b with ⟨-, -, roster, htable, hbind⟩ | ⟨-, hbind⟩ | ⟨-, -, hbind⟩ <;>
      rw [hbind]
    · have hroster : roster = (a.roster.onTable reg (.error .unknownThread) (·.bind b)).2 := by
        rw [htable]
      have hok : (g.table.bind b).1 = .ok () := by
        rw [Roster.onTable_eq hg] at htable
        exact congrArg Prod.fst htable
      have hone : (b :: g.table.bindings).Perm (g.table.bind b).2.bindings := by
        rw [(ThreadTable.bind_ok (Prod.ext hok rfl)).2]
        exact (List.perm_append_singleton b _).symm
      have hall : (b :: a.roster.bindings).Perm roster.bindings := by
        rw [hroster]
        exact Roster.onTable_perm hg _ _ [b] [] hone
      refine h.of_perm ?_ ?_ fun reg' => ?_
      · rw [hroster, Roster.onTable_eq hg]
      · calc a.bindings.Perm ((b :: a.held.erase b) ++ a.roster.bindings) :=
              (List.perm_cons_erase hb).append_right _
          _ |>.Perm (a.held.erase b ++ (b :: a.roster.bindings)) := List.perm_middle.symm
          _ |>.Perm (a.held.erase b ++ roster.bindings) := hall.append_left _
      · dsimp only
        rw [hroster, Roster.table_onTable hg]
        split
        · exact (Roster.table_eq hg ▸ h.fits reg : g.table.Fits).bind b
        · exact h.fits reg'
    · exact h
    · exact h

/-! ### Bindings -/

/-- A binding of the main thread is made, and counts nothing. Another is counted and made, unless
the filament counts as many children as there may be; then nothing changes. -/
lemma make_cases (hx : a.roster.filaments.get? b.filament = some x) :
    (b.thread = x.mainThread ∧ a.make b = (.ok (), ⟨a.roster, b :: a.held⟩)) ∨
      (b.thread ≠ x.mainThread ∧ x.running < Filament.maxChildren ∧
        a.make b = (.ok (), ⟨{ a.roster with filaments := (a.roster.filaments.modify b.filament
          fun _ => { x with running := x.running + 1 }) }, b :: a.held⟩)) ∨
      (b.thread ≠ x.mainThread ∧ Filament.maxChildren ≤ x.running ∧
        a.make b = (.error (.tooManyChildren x.running), a)) := by
  have hprepare : a.roster.prepare b = if x.mainThread = b.thread then (.ok (), a.roster)
      else (x.addChild.1, { a.roster with
        filaments := a.roster.filaments.modify b.filament fun _ => x.addChild.2 }) :=
    Roster.prepare_eq (t := b.thread) hx
  rw [make, hprepare]
  by_cases hmain : b.thread = x.mainThread
  · rw [if_pos hmain.symm]
    exact .inl ⟨hmain, rfl⟩
  · rw [if_neg (Ne.symm hmain), Filament.addChild]
    by_cases hfull : Filament.maxChildren ≤ x.running
    · rw [if_pos hfull]
      refine .inr (.inr ⟨hmain, hfull, ?_⟩)
      dsimp only
      rw [Pool.modify_eq_self_of_some hx rfl]
    · rw [if_neg hfull]
      exact .inr (.inl ⟨hmain, Nat.lt_of_not_le hfull, rfl⟩)

/-- Without the filament there is no binding. -/
lemma make_of_none (hx : a.roster.filaments.get? b.filament = none) :
    a.make b = (.error .unknownThread, a) := by
  have hmain : a.roster.mainThread? b.filament ≠ some b.thread := by
    rw [Roster.mainThread?, hx]
    intro h
    cases h
  rw [Pool.get?] at hx
  rw [make, Roster.prepare, if_neg hmain, Pool.update, hx]

lemma counts_eq (f : FilamentId) (main : ThreadId) (b : Binding) :
    (if counts f main b then 1 else 0) =
      if b.filament = f then Roster.weight main b.thread else 0 := by
  rw [counts, Roster.weight]
  by_cases hmain : main = b.thread
  · simp [hmain]
  · simp [hmain, Ne.symm hmain]

/-- One binding more, and its filament counts it. -/
lemma Sound.gains (h : a.Sound) (hx : a.roster.filaments.get? b.filament = some x)
    (hregistries : a'.roster.registries = a.roster.registries) (hheld : a'.held = b :: a.held)
    (hfilaments : ∀ f, f ≠ b.filament → a'.roster.filaments.get? f = a.roster.filaments.get? f)
    (hcounted : a'.roster.filaments.get? b.filament = some { x with
      running := x.running + Roster.weight x.mainThread b.thread })
    (hroom : x.running + Roster.weight x.mainThread b.thread ≤ Filament.maxChildren) :
    a'.Sound := by
  have hbindings : a'.bindings = b :: a.bindings := by
    rw [bindings, bindings, hheld, Roster.bindings, hregistries]
    rfl
  have hchildren (f : FilamentId) (main : ThreadId) : a'.children f main =
      a.children f main + if b.filament = f then Roster.weight main b.thread else 0 := by
    rw [children, hbindings, List.countP_cons, counts_eq, children]
  constructor
  · intro c hc
    by_cases hf : c.filament = b.filament
    · rw [hf]
      exact ⟨_, hcounted⟩
    · rw [hfilaments _ hf]
      rw [hbindings] at hc
      rcases List.mem_cons.mp hc with rfl | hc
      · exact absurd rfl hf
      · exact h.known c hc
  · intro f y hy
    rw [hchildren]
    by_cases hf : f = b.filament
    · subst hf
      obtain rfl := Option.some.inj (hcounted.symm.trans hy)
      rw [if_pos rfl]
      exact ⟨congrArg (· + _) (h.counted _ x hx).1, hroom⟩
    · rw [hfilaments f hf] at hy
      rw [if_neg (Ne.symm hf)]
      exact h.counted f y hy
  · intro reg
    rw [Roster.table, hregistries]
    exact h.fits reg

lemma Sound.make (h : a.Sound) (b : Binding) : (a.make b).2.Sound := by
  cases hx : a.roster.filaments.get? b.filament with
  | none =>
    rw [make_of_none hx]
    exact h
  | some x =>
    rcases make_cases hx with ⟨hmain, hmake⟩ | ⟨hmain, hroom, hmake⟩ | ⟨-, -, hmake⟩ <;> rw [hmake]
    · have hweight : Roster.weight x.mainThread b.thread = 0 := if_pos hmain.symm
      refine h.gains hx rfl rfl (fun _ _ => rfl) ?_ ?_ <;> rw [hweight]
      · exact hx
      · exact (h.counted _ x hx).2
    · have hweight : Roster.weight x.mainThread b.thread = 1 := if_neg (Ne.symm hmain)
      refine h.gains hx rfl rfl (fun f hf => Pool.get?_modify_of_ne (Ne.symm hf) _) ?_ ?_ <;>
        rw [hweight]
      · exact Pool.get?_modify_self _ hx
      · exact hroom
    · exact h

/-- A binding is counted that is held. -/
lemma Sound.weight_le (h : a.Sound) (hb : b ∈ a.bindings)
    (hx : a.roster.filaments.get? b.filament = some x) :
    Roster.weight x.mainThread b.thread ≤ x.running := by
  rw [Roster.weight]
  split
  · exact Nat.zero_le _
  · rename_i hmain
    rw [(h.counted _ x hx).1]
    refine List.countP_pos_iff.mpr ⟨b, hb, ?_⟩
    simp [counts, Ne.symm hmain]

/-- A binding that is undone is counted no more. -/
lemma drop_get? (hx : a.roster.filaments.get? b.filament = some x) :
    (a.drop b).roster.registries = a.roster.registries ∧
      (a.drop b).roster.filaments.get? b.filament = some { x with
        running := x.running - Roster.weight x.mainThread b.thread } :=
  Roster.release_eq (t := b.thread) hx

lemma Sound.drop (h : a.Sound) (hb : b ∈ a.held) : (a.drop b).Sound := by
  have hmem : b ∈ a.bindings := List.mem_append_left _ hb
  obtain ⟨x, hx⟩ := h.known b hmem
  obtain ⟨hregistries, hcounted⟩ := drop_get? hx
  have hfilaments (f : FilamentId) (hf : b.filament ≠ f) :
      (a.drop b).roster.filaments.get? f = a.roster.filaments.get? f := (Roster.release_of_ne hf).2
  have hperm : a.bindings.Perm (b :: (a.drop b).bindings) := by
    rw [bindings, bindings, Roster.bindings, Roster.bindings, hregistries]
    exact (List.perm_cons_erase hb).append_right _
  have hchildren (f : FilamentId) (main : ThreadId) : a.children f main =
      (a.drop b).children f main + if b.filament = f then Roster.weight main b.thread else 0 := by
    rw [children, hperm.countP_eq, List.countP_cons, counts_eq, children]
  constructor
  · intro c hc
    obtain ⟨y, hy⟩ := h.known c (hperm.mem_iff.mpr (List.mem_cons_of_mem b hc))
    by_cases hf : b.filament = c.filament
    · rw [← hf]
      exact ⟨_, hcounted⟩
    · rw [hfilaments _ hf]
      exact ⟨y, hy⟩
  · intro f y hy
    by_cases hf : b.filament = f
    · subst hf
      obtain rfl := Option.some.inj (hcounted.symm.trans hy)
      have hold := h.counted _ x hx
      rw [hchildren, if_pos rfl] at hold
      dsimp only
      omega
    · rw [hfilaments f hf] at hy
      have hold := h.counted f y hy
      rw [hchildren, if_neg hf] at hold
      exact hold
  · intro reg
    rw [Roster.table, hregistries]
    exact h.fits reg

/-! ### Any deeds -/

lemma Sound.perform (h : a.Sound) (d : Deed) : (a.perform d).Sound := by
  cases d with
  | make b => exact h.make b
  | bind b reg =>
    rw [Accounts.perform]
    split
    · rename_i hb
      exact h.bind hb reg
    · exact h
  | unbind reg thread => exact h.takeOut reg _ _ _ rfl (ThreadTable.unbind_perm · thread)
  | unbindIf reg thread f => exact h.takeOut reg _ _ _ rfl (ThreadTable.unbindIf_perm · thread f)
  | unbindFilament reg f => exact h.takeOut reg [] _ id rfl (ThreadTable.unbindFilament_perm · f)
  | drop b =>
    rw [Accounts.perform]
    split
    · rename_i hb
      exact h.drop hb
    · exact h

lemma Sound.after (h : a.Sound) (deeds : List Deed) : (a.after deeds).Sound := by
  induction deeds generalizing a with
  | nil => exact h
  | cons d deeds ih => exact ih (h.perform d)

/-- What the counts and the tables promise. -/
structure Exact (a : Accounts) : Prop where
  /-- A filament counts the bindings of threads other than its main thread. -/
  running_eq : ∀ f x, a.roster.filaments.get? f = some x → x.running = a.children f x.mainThread
  /-- It does not count more than it may. -/
  running_le : ∀ f x, a.roster.filaments.get? f = some x → x.running ≤ Filament.maxChildren
  /-- Whoever undoes a binding finds it counted, so that the count goes down by what it was. -/
  drop_exact : ∀ b ∈ a.held, ∀ x, a.roster.filaments.get? b.filament = some x →
    ∃ x', (a.drop b).roster.filaments.get? b.filament = some x' ∧
      x.running = x'.running + Roster.weight x.mainThread b.thread
  /-- A binding is not made exactly if it is not of the main thread and the filament is full. -/
  make_error : ∀ b x why, a.roster.filaments.get? b.filament = some x →
    ((a.make b).1 = .error why ↔ b.thread ≠ x.mainThread ∧ x.running = Filament.maxChildren ∧
      why = .tooManyChildren Filament.maxChildren)
  /-- A binding that is not made changes nothing. -/
  make_stays : ∀ b why, (a.make b).1 = .error why → (a.make b).2 = a
  /-- A table refuses a binding exactly if it holds one of the thread or is full. -/
  bind_error : ∀ b reg g why, a.roster.registries.get? reg = some g →
    ((a.bind b reg).1 = .error why ↔
      b.thread ∈ g.table.bindings.map Binding.thread ∧ why = .conflict ∨
      b.thread ∉ g.table.bindings.map Binding.thread ∧
        g.table.bindings.length = ThreadTable.maxThreads ∧
        why = .tooManyThreads ThreadTable.maxThreads)
  /-- A binding that is refused changes nothing. -/
  bind_stays : ∀ b reg why, (a.bind b reg).1 = .error why → (a.bind b reg).2 = a
  /-- Once it is undone, all is as it was before it was made. -/
  refused_stays : ∀ b reg why, (a.make b).1 = .ok () → ((a.make b).2.bind b reg).1 = .error why →
    ((a.make b).2.bind b reg).2.drop b = a
  /-- No table holds two bindings of a thread, nor more bindings than it has room for. -/
  fits : ∀ reg, (a.roster.table reg).Fits

lemma Sound.make_error_iff (h : a.Sound) (hx : a.roster.filaments.get? b.filament = some x)
    (why : FilamentError) :
    (a.make b).1 = .error why ↔ b.thread ≠ x.mainThread ∧ x.running = Filament.maxChildren ∧
      why = .tooManyChildren Filament.maxChildren := by
  have hle := (h.counted _ x hx).2
  rcases make_cases hx with ⟨hmain, hmake⟩ | ⟨-, hroom, hmake⟩ | ⟨hmain, hfull, hmake⟩ <;>
    rw [hmake]
  · exact ⟨fun h => (nomatch h), fun h => absurd hmain h.1⟩
  · exact ⟨fun h => (nomatch h), fun h => absurd h.2.1 (Nat.ne_of_lt hroom)⟩
  · have heq : x.running = Filament.maxChildren := Nat.le_antisymm hle hfull
    rw [heq]
    constructor
    · intro hwhy
      exact ⟨hmain, rfl, (Except.error.inj hwhy).symm⟩
    · rintro ⟨-, -, rfl⟩
      rfl

lemma make_error_eq {why : FilamentError} (h : (a.make b).1 = .error why) : (a.make b).2 = a := by
  cases hx : a.roster.filaments.get? b.filament with
  | none => rw [make_of_none hx]
  | some x =>
    rcases make_cases hx with ⟨-, hmake⟩ | ⟨-, -, hmake⟩ | ⟨-, -, hmake⟩ <;> rw [hmake] at h ⊢ <;>
      cases h

lemma Sound.bind_error_iff (h : a.Sound) (hg : a.roster.registries.get? reg = some g)
    (why : FilamentError) :
    (a.bind b reg).1 = .error why ↔
      b.thread ∈ g.table.bindings.map Binding.thread ∧ why = .conflict ∨
      b.thread ∉ g.table.bindings.map Binding.thread ∧
        g.table.bindings.length = ThreadTable.maxThreads ∧
        why = .tooManyThreads ThreadTable.maxThreads := by
  have hsize : g.table.bindings.length ≤ ThreadTable.maxThreads :=
    (Roster.table_eq hg ▸ h.fits reg : g.table.Fits).size_le
  rcases bind_cases hg b with ⟨hfree, hroom, roster, -, hbind⟩ | ⟨hbound, hbind⟩ |
    ⟨hfree, hfull, hbind⟩ <;> rw [hbind]
  · refine ⟨fun h => (nomatch h), ?_⟩
    rintro (⟨hbound, -⟩ | ⟨-, hfull, -⟩)
    · exact absurd hbound hfree
    · exact absurd hfull (Nat.ne_of_lt hroom)
  · constructor
    · intro hwhy
      exact .inl ⟨hbound, (Except.error.inj hwhy).symm⟩
    · rintro (⟨-, rfl⟩ | ⟨hfree, -, -⟩)
      · rfl
      · exact absurd hbound hfree
  · have heq : g.table.bindings.length = ThreadTable.maxThreads := Nat.le_antisymm hsize hfull
    rw [heq]
    constructor
    · intro hwhy
      exact .inr ⟨hfree, rfl, (Except.error.inj hwhy).symm⟩
    · rintro (⟨hbound, -⟩ | ⟨-, -, rfl⟩)
      · exact absurd hbound hfree
      · rfl

lemma bind_error_eq {why : FilamentError} (h : (a.bind b reg).1 = .error why) :
    (a.bind b reg).2 = a := by
  cases hg : a.roster.registries.get? reg with
  | none => rw [bind, Roster.onTable_of_none hg]
  | some g =>
    rcases bind_cases hg b with ⟨-, -, roster, -, hbind⟩ | ⟨-, hbind⟩ | ⟨-, -, hbind⟩ <;>
      rw [hbind] at h ⊢
    cases h

/-- A binding that is undone right after it was made leaves nothing behind. -/
lemma drop_make (h : (a.make b).1 = .ok ()) : (a.make b).2.drop b = a := by
  cases hx : a.roster.filaments.get? b.filament with
  | none =>
    rw [make_of_none hx] at h
    cases h
  | some x =>
    rcases make_cases hx with ⟨hmain, hmake⟩ | ⟨hmain, -, hmake⟩ | ⟨-, -, hmake⟩ <;>
      rw [hmake] at h ⊢
    · rw [drop, Roster.release, if_pos (by rw [Roster.mainThread?_eq hx, hmain]),
        List.erase_cons_head]
    · let roster : Roster := { a.roster with filaments := (a.roster.filaments.modify b.filament
        fun _ => { x with running := x.running + 1 }) }
      have hmade : roster.filaments.get? b.filament = some { x with running := x.running + 1 } :=
        Pool.get?_modify_self _ hx
      have hnot : roster.mainThread? b.filament ≠ some b.thread := by
        rw [Roster.mainThread?_eq hmade]
        exact fun heq => hmain (Option.some.inj heq).symm
      have hback : roster.release b = a.roster := by
        rw [Roster.release, if_neg hnot, Pool.modify_modify, Pool.modify_eq_self_of_some hx rfl]
      rw [drop, List.erase_cons_head]
      exact congrArg (Accounts.mk · a.held) hback
    · cases h

/-- Whatever is done with the bindings of some filaments and tables, and in whatever order, the
counts are exact. -/
theorem counts_exact (filaments : List Filament) (kinds : List Registry.Kind) (deeds : List Deed) :
    ((start filaments kinds).after deeds).Exact := by
  have h : ((start filaments kinds).after deeds).Sound := (start_sound filaments kinds).after deeds
  generalize (start filaments kinds).after deeds = a at h
  constructor
  · exact fun f x hx => (h.counted f x hx).1
  · exact fun f x hx => (h.counted f x hx).2
  · intro b hb x hx
    have hle := h.weight_le (List.mem_append_left _ hb) hx
    exact ⟨_, (drop_get? hx).2, (Nat.sub_add_cancel hle).symm⟩
  · exact fun b x why hx => h.make_error_iff hx why
  · exact fun b why => make_error_eq
  · exact fun b reg g why hg => h.bind_error_iff hg why
  · exact fun b reg why => bind_error_eq
  · intro b reg why hmake hbind
    rw [bind_error_eq hbind]
    exact drop_make hmake
  · exact h.fits

/-! ### What registries do -/

/-- Binding a thread in a registry is made of such deeds, and holds nothing back. -/
theorem attach_after (a : Accounts) (reg : RegistryId) (b : Binding) :
    ∃ deeds, a.after deeds = ⟨(a.roster.attach reg b).2, a.held⟩ := by
  rcases a.roster.attach_cases reg b with ⟨why, r₁, hprepare, hattach⟩ |
    ⟨r₁, hprepare, ⟨r₂, hbind, hattach⟩ | ⟨why, r₂, hbind, hattach⟩⟩ <;> rw [hattach]
  · refine ⟨[.make b], ?_⟩
    simp only [after, List.foldl_cons, List.foldl_nil, perform, make, hprepare]
  · refine ⟨[.make b, .bind b reg], ?_⟩
    simp only [after, List.foldl_cons, List.foldl_nil, perform, make, hprepare, bind, hbind,
      List.mem_cons_self, if_true, List.erase_cons_head]
  · refine ⟨[.make b, .bind b reg, .drop b], ?_⟩
    simp only [after, List.foldl_cons, List.foldl_nil, perform, make, hprepare, bind, hbind,
      List.mem_cons_self, if_true, drop, List.erase_cons_head]

/-- A thread that a registry turns away leaves everything as it was. -/
theorem attach_error_eq {r r' : Roster} {why : FilamentError}
    (h : r.attach reg b = (.error why, r')) : r' = r := by
  have hmake : make ⟨r, []⟩ b = match r.prepare b with
    | (.ok (), roster) => (.ok (), ⟨roster, [b]⟩)
    | (.error why, roster) => (.error why, ⟨roster, []⟩) := rfl
  rcases r.attach_cases reg b with ⟨why, r₁, hprepare, hattach⟩ |
    ⟨r₁, hprepare, ⟨r₂, hbind, hattach⟩ | ⟨why, r₂, hbind, hattach⟩⟩ <;>
      rw [hattach] at h <;> cases h <;> rw [hprepare] at hmake
  · have hstays := make_error_eq (congrArg Prod.fst hmake)
    rw [hmake] at hstays
    exact congrArg roster hstays
  · obtain rfl := Roster.bind_error_eq hbind
    have hback := drop_make (congrArg Prod.fst hmake)
    rw [hmake] at hback
    exact congrArg roster hback

/-- Taking a binding out and undoing it is made of two of them, or of one if there is none. -/
lemma takeOut_after (d : Deed) {reg : RegistryId} {f : ThreadTable → Option Binding × ThreadTable}
    (hd : a.perform d = a.takeOut reg none f Option.toList) :
    ∃ deeds, a.after deeds = ⟨match a.roster.onTable reg none f with
      | (none, r) => r
      | (some b, r) => r.release b, a.held⟩ := by
  rcases htable : a.roster.onTable reg none f with ⟨- | b, r⟩
  · have hnone : a.perform d = ⟨r, a.held⟩ := by
      rw [hd, takeOut, htable]
      rfl
    exact ⟨[d], hnone⟩
  · have hsome : a.perform d = ⟨r, b :: a.held⟩ := by
      rw [hd, takeOut, htable]
      rfl
    refine ⟨[d, .drop b], ?_⟩
    change (a.perform d).perform (.drop b) = _
    rw [hsome, perform, if_pos List.mem_cons_self, drop, List.erase_cons_head]

/-- So is taking a thread back, whatever it is bound to, -/
theorem detach_after (a : Accounts) (reg : RegistryId) (thread : ThreadId) :
    ∃ deeds, a.after deeds = ⟨a.roster.detach reg thread, a.held⟩ :=
  takeOut_after (.unbind reg thread) rfl

/-- or if it is bound to a filament. -/
theorem detachIf_after (a : Accounts) (reg : RegistryId) (thread : ThreadId) (f : FilamentId) :
    ∃ deeds, a.after deeds = ⟨a.roster.detachIf reg thread f, a.held⟩ :=
  takeOut_after (.unbindIf reg thread f) rfl

end Accounts

end Testbench
