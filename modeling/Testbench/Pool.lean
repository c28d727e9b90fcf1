/-!
# Pools

Things that are made one after the other and named by the number they were made with. Nothing leaves
a pool, so a name stays good.
-/

namespace Testbench

/-- Things named by consecutive numbers. -/
structure Pool (α : Type) where
  /-- The things, in the order in which they were made. -/
  items : Array α

namespace Pool

variable {α β : Type}

/-- Nothing. -/
def empty : Pool α := ⟨#[]⟩

instance : Inhabited (Pool α) := ⟨empty⟩

/-- Adds a thing, and answers its name. -/
def add (p : Pool α) (a : α) : Nat × Pool α := (p.items.size, ⟨p.items.push a⟩)

/-- The thing of a name. -/
def get? (p : Pool α) (i : Nat) : Option α := p.items[i]?

/-- Changes the thing of a name, if there is one. -/
def modify (p : Pool α) (i : Nat) (f : α → α) : Pool α := ⟨p.items.modify i f⟩

/-- Changes the thing of a name and answers about it; `fallback` is the answer if there is none. -/
def update (p : Pool α) (i : Nat) (fallback : β) (f : α → β × α) : β × Pool α :=
  match p.items[i]? with
  | none => (fallback, p)
  | some a => let (b, a) := f a; (b, ⟨p.items.setIfInBounds i a⟩)

end Pool

end Testbench
