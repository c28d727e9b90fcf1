import Testbench.Proofs.Remote.Connect
import Testbench.Proofs.Run.Agree

/-!
# Loaded modules

The module that a client makes of a catalog stands for the module that was connected: fixture by
fixture it has the same names, and for every routine a remote one under the keys by which the driver
finds the routine.
-/

namespace Testbench

variable {ρ : Type}

/-- The routines of a module. -/
def Module.routines (m : Module ρ) : List ρ :=
  m.fixtures.flatMap fun f => (Keyed.entriesOf f).map (·.routine)

/-- The routine of a fixture in a role other than that of a test case. -/
def Fixture.framing (f : Fixture ρ) : Role → Option ρ
  | .setup => f.setup
  | .teardown => f.teardown
  | .before => f.before
  | .after => f.after
  | .testCase => none

namespace Keyed

/-- No two routines frame a fixture in one role. -/
lemma find?_reverse_entriesOf (f : Fixture ρ) {role : Role} (hrole : role ≠ .testCase) :
    ((entriesOf f).reverse.find? (·.role = role)).map (·.routine) = f.framing role := by
  have hcases : (f.cases.map fun c => (⟨.testCase, c.name, c.routine⟩ : Entry ρ)).reverse.find?
      (·.role = role) = none := by
    rw [List.find?_eq_none]
    intro e he
    obtain ⟨c, -, rfl⟩ := List.mem_map.mp (List.mem_reverse.mp he)
    simpa using Ne.symm hrole
  simp only [entriesOf, List.reverse_append, List.find?_append, hcases]
  -- what is left are four routines, each of them there or not
  obtain ⟨name, setup, teardown, before, after, cases, flags, home⟩ := f
  cases role with
  | testCase => exact absurd rfl hrole
  | _ => cases setup <;> cases teardown <;> cases before <;> cases after <;> rfl

lemma filter_entriesOf (f : Fixture ρ) :
    (entriesOf f).filter (·.role = .testCase)
      = f.cases.map fun c => ⟨.testCase, c.name, c.routine⟩ := by
  have hoptional (role : Role) (name : String) (r : Option ρ) (hrole : role ≠ .testCase) :
      (optional role name r).filter (·.role = .testCase) = [] := by
    cases r with
    | none => rfl
    | some r => exact List.filter_cons_of_neg (by simpa using hrole)
  have hcases : (f.cases.map fun c => (⟨.testCase, c.name, c.routine⟩ : Entry ρ)).filter
      (·.role = .testCase) = f.cases.map fun c => ⟨.testCase, c.name, c.routine⟩ := by
    rw [List.filter_eq_self]
    intro e he
    obtain ⟨c, -, rfl⟩ := List.mem_map.mp he
    rfl
  simp only [entriesOf, List.filter_append, hcases,
    hoptional .setup _ _ (by decide), hoptional .before _ _ (by decide),
    hoptional .after _ _ (by decide), hoptional .teardown _ _ (by decide), List.nil_append,
    List.append_nil]

end Keyed

/-- Lists of one length are related if their elements are, position by position. -/
lemma forall₂_of_getElem? {α β : Type} {S : α → β → Prop} {xs : List α} {ys : List β}
    (hlength : xs.length = ys.length)
    (h : ∀ (i : Nat) x y, xs[i]? = some x → ys[i]? = some y → S x y) :
    List.Forall₂ S xs ys := by
  refine List.forall₂_of_length_eq_of_get hlength fun i hi hi' => ?_
  exact h i _ _ (List.getElem?_eq_getElem hi) (List.getElem?_eq_getElem hi')

lemma rel_find? {α β : Type} {S : α → β → Prop} {p : α → Bool} {q : β → Bool} {xs : List α}
    {ys : List β} (h : List.Forall₂ S xs ys) (hpq : ∀ x y, S x y → p x = q y) :
    Option.Rel S (xs.find? p) (ys.find? q) := by
  induction h with
  | nil => exact .none
  | @cons x y xs ys hxy _ ih =>
    rw [List.find?_cons, List.find?_cons, hpq x y hxy]
    cases q y with
    | true => exact .some hxy
    | false => exact ih

open Script

/-- An entry of a fixture and what a client reads of it. -/
structure Keyed.Read (m : Module ReportScript) (k : Keyed Routine) (s : Sink) (key : UInt16)
    (e : Keyed.Entry ReportScript) (i : Image.EntryInfo) : Prop where
  role_eq : e.role = i.role
  name_eq : e.name = i.name
  mem : e.routine ∈ m.routines
  routine? : k.routine? key i.key = some (e.routine.along (.sink s))

/-- A routine that reports by itself, and the remote one that stands for it once it is part of a
driver. -/
def Counterpart (m : Module ReportScript) (client : Client) (address : UInt64) (k : Keyed Routine)
    (s : Sink) (r r' : Routine) : Prop :=
  ∃ script ∈ m.routines, r = script.along .own ∧ ∃ fixture routine,
    r' = .remote ⟨client, address, fixture, routine⟩ ∧
      k.routine? fixture routine = some (script.along (.sink s))

section

variable {m : Module ReportScript} {k : Keyed Routine} {s : Sink}

lemma getElem?_groups (h : Keyed.Numbers (m.map (·.along (.sink s))) k) {i : Nat}
    {f : Fixture ReportScript} (hf : m.fixtures[i]? = some f) :
    k.groups.toList[i]? = some (Keyed.groupOf (f.map (·.along (.sink s)))) := by
  rw [h.groups_eq, Module.map, List.getElem?_map, List.getElem?_map, hf]
  rfl

/-- A client reads the entries of every fixture. -/
lemma forall₂_read (h : Keyed.Numbers (m.map (·.along (.sink s))) k) {i : Nat}
    {f : Fixture ReportScript} (hf : m.fixtures[i]? = some f) :
    List.Forall₂ (Keyed.Read m k s (UInt16.ofNat i)) (Keyed.entriesOf f)
      (Image.entryInfos 0 (Keyed.entriesOf (f.map (·.along (.sink s))))) := by
  have hg := getElem?_groups h hf
  have hi := (List.getElem?_eq_some_iff.mp hg).1
  have hle := h.groups_le
  have hentries := h.entries_le _ (List.mem_of_getElem? hg)
  rw [Keyed.groupOf, Keyed.entriesOf_map, List.toList_toArray, List.length_map] at hentries
  rw [Keyed.maxKeys] at hle hentries
  refine forall₂_of_getElem? ?_ fun j e info he hinfo => ?_
  · rw [Image.length_entryInfos, Keyed.entriesOf_map, List.length_map]
  · have hj := (List.getElem?_eq_some_iff.mp he).1
    have he' : (Keyed.entriesOf (f.map (·.along (.sink s))))[j]?
        = some (e.map (·.along (.sink s))) := by
      rw [Keyed.entriesOf_map, List.getElem?_map, he, Option.map_some]
    rw [Image.getElem?_entryInfos, he', Option.map_some, Nat.zero_add] at hinfo
    obtain rfl := Option.some.inj hinfo
    refine ⟨rfl, rfl, ?_, ?_⟩
    · exact List.mem_flatMap.mpr ⟨f, List.mem_of_getElem? hf,
        List.mem_map_of_mem (List.mem_of_getElem? he)⟩
    · rw [Image.routine?_eq, toNat_ofNat16 (by omega), toNat_ofNat16 (by omega), hg,
        Option.bind_some, Keyed.groupOf, List.toList_toArray, he']
      rfl

variable (client : Client) (address : UInt64)

/-- The fixture that a client makes of what it reads is like the one that was connected. -/
lemma alike_fixtureOf {f : Fixture ReportScript} (info : Image.FixtureInfo)
    (hname : f.name = info.name)
    (h : List.Forall₂ (Keyed.Read m k s info.key) (Keyed.entriesOf f) info.entries) :
    Fixture.Alike (Counterpart m client address k s) (f.map (·.along .own))
      ((client.fixtureOf address info).map .remote) := by
  have hroutine {e : Keyed.Entry ReportScript} {i : Image.EntryInfo}
      (hei : Keyed.Read m k s info.key e i) : Counterpart m client address k s
        (e.routine.along .own) (.remote (client.routineOf address info.key i)) :=
    ⟨e.routine, hei.mem, rfl, info.key, i.key, rfl, hei.routine?⟩
  have hframing (role : Role) (hrole : role ≠ .testCase) :
      Option.Rel (Counterpart m client address k s) ((f.framing role).map (·.along .own))
        (((info.entries.reverse.find? (·.role = role)).map
          (client.routineOf address info.key)).map .remote) := by
    -- the client takes the last entry in a role, and there is no other
    rw [← Keyed.find?_reverse_entriesOf f hrole]
    have hrel := rel_find? (p := (·.role = role)) (q := (·.role = role))
      (List.forall₂_reverse_iff.mpr h) fun e i hei => by rw [hei.role_eq]
    generalize (Keyed.entriesOf f).reverse.find? (·.role = role) = e,
      info.entries.reverse.find? (·.role = role) = i at hrel
    cases hrel with
    | none => exact .none
    | some hei => exact .some (hroutine hei)
  have hcases : List.Forall₂ (Keyed.Read m k s info.key)
      (f.cases.map fun c => ⟨.testCase, c.name, c.routine⟩)
      (info.entries.filter (·.role = .testCase)) := by
    rw [← Keyed.filter_entriesOf]
    exact List.rel_filter (fun e i hei => by simp only [hei.role_eq]) h
  exact {
    name_eq := hname
    setup := hframing .setup (by decide)
    teardown := hframing .teardown (by decide)
    before := hframing .before (by decide)
    after := hframing .after (by decide)
    cases := by
      simp only [Fixture.map, Client.fixtureOf, List.map_map, List.forall₂_map_left_iff,
        List.forall₂_map_right_iff] at hcases ⊢
      exact hcases.imp fun c i hci => ⟨hci.name_eq, hroutine hci⟩ }

/-- The module that a client loads is like the one that was connected, and nobody adopts threads for
its fixtures. -/
lemma alike_moduleOf (h : Keyed.Numbers (m.map (·.along (.sink s))) k) (name : String) :
    List.Forall₂ (fun f f' => Fixture.Alike (Counterpart m client address k s) f f' ∧
        f'.flags.anonymousThreads = false)
      (m.map (·.along .own)).fixtures
      ((client.moduleOf address name (Client.infoOf k)).map .remote).fixtures := by
  simp only [Module.map, Client.moduleOf, Module.ofFixtures, Client.infoOf,
    List.forall₂_map_left_iff, List.forall₂_map_right_iff]
  refine forall₂_of_getElem? ?_ fun i f info hf hinfo => ?_
  · rw [Image.length_groupInfos, h.groups_eq, List.length_map, Module.map, List.length_map]
  · rw [Image.getElem?_groupInfos, getElem?_groups h hf, Option.map_some, Nat.zero_add] at hinfo
    obtain rfl := Option.some.inj hinfo
    have hread := forall₂_read h hf
    have halike := alike_fixtureOf client address ⟨UInt16.ofNat i, f.name, _⟩ rfl hread
    have hflags : ({} : FixtureFlags).anonymousThreads = false := by decide
    exact ⟨⟨halike.name_eq, halike.setup, halike.teardown, halike.before, halike.after,
      halike.cases⟩, hflags⟩

end

end Testbench
