import Testbench.Driver.Sink
import Testbench.Proofs.World

/-!
# What reports are made of

To report, a thread asks for its place, looks at the world, tells an observer, sets a value or its
own level, and perhaps unwinds.  What is so of each of these, and of what is made of such, is so of
all that a thread does to report.
-/

namespace Testbench.Guests

open World

variable {ρ ε α β : Type} {reg : RegistryId}

/-- What a thread does to report, or to act on what it is told then. -/
inductive Reports (reg : RegistryId) : {α : Type} → Act ρ ε α → Prop
  | assertion (site : Site) (expression : String) :
      Reports reg (Report.assertion reg site expression)
  | comparison (expected actual : UInt32) (site : Site) (expression : String) :
      Reports reg (Report.comparison reg expected actual site expression)
  | inconclusiveness (message : String) : Reports reg (Report.inconclusiveness reg message)
  | log (message : String) : Reports reg (Report.log reg message)
  | failure : Reports reg (Report.failure reg)
  | value (derive : Bool) (tag : ValueTag) : Reports reg (Report.value reg derive tag)
  | setValue (derive : Bool) (tag : ValueTag) (v : UInt64) :
      Reports reg (Report.setValue reg derive tag v)
  | apply (v : Verdict) : Reports reg v.apply
  | sinkApply (version : UInt32) (v : Verdict) : Reports reg (Sink.apply ⟨version, reg⟩ v)

namespace Reports

/-- A property of computations that is so of the parts of reports, and of what is made of such. -/
structure Closed (reg : RegistryId) (P : {α : Type} → Act ρ ε α → Prop) : Prop where
  quiet : ∀ {α : Type} {m : Act ρ ε α}, Quietly m → P m
  unwind : ∀ {α : Type} (payload : Payload), P (Flow.unwind payload : Act ρ ε α)
  membership : ∀ derive, P (membership reg derive)
  setValue : ∀ f tag v, P (changeFilament f (·.setValue tag v))
  bind : ∀ {α β : Type} {m : Act ρ ε α} {k : α → Act ρ ε β}, P m → (∀ a, P (k a)) → P (m >>= k)

namespace Closed

variable {P : {α : Type} → Act ρ ε α → Prop} (hP : Closed reg P)
include hP

lemma pure (a : α) : P (Pure.pure a : Act ρ ε α) := hP.quiet (.pure a)

lemma send (m : Member) (detail : Event.Detail) : P (Report.send m detail : Act ρ ε Disposition) :=
  hP.bind (hP.quiet (.stackFor _)) fun _ => hP.bind (hP.quiet (.see _)) fun _ =>
    hP.quiet (.tell _ _ _)

lemma asMember {g : Member → Act ρ ε Verdict} (hg : ∀ m, P (g m)) : P (Report.asMember reg g) := by
  refine hP.bind (hP.membership true) fun answer => ?_
  cases answer with
  | ok m => exact hg m
  | error why => exact hP.bind (hP.quiet (.see _)) fun _ => hP.pure _

lemma assertion (site : Site) (expression : String) :
    P (Report.assertion reg site expression : Act ρ ε Verdict) :=
  hP.asMember fun m => hP.bind (hP.send m _) fun _ => hP.pure _

/-- Acting on a verdict, in programs -/
lemma apply (v : Verdict) : P (v.apply : Act ρ ε Disposition) := by
  cases v with
  | raise signal => exact hP.unwind _
  | _ => exact hP.pure _

/-- and in drivers. -/
lemma sinkApply (version : UInt32) (v : Verdict) :
    P (Sink.apply ⟨version, reg⟩ v : Act ρ ε Disposition) := by
  have hsettle : P (Sink.settleLevel ⟨version, reg⟩ : Act ρ ε Unit) := by
    refine hP.bind (hP.quiet (.see _)) fun level => ?_
    split
    · refine hP.bind (hP.membership false) fun answer => ?_
      have hlower : P (lowerLevel .passive : Act ρ ε Unit) :=
        hP.bind (hP.quiet (.see _)) fun _ => hP.quiet (.changeThread _)
      cases answer with
      | ok m =>
        exact hP.bind (hP.quiet (.see _)) fun _ => hP.bind (hP.quiet (.tell _ _ _)) fun _ => hlower
      | error why => exact hlower
    · exact hP.pure _
  cases v with
  | proceed => exact hP.bind (hP.pure ()) fun _ => hP.apply .proceed
  | breakIn => exact hP.bind (hP.pure ()) fun _ => hP.apply .breakIn
  | raise signal => exact hP.bind hsettle fun _ => hP.apply (.raise signal)

/-- So it is so of all that a thread does to report. -/
theorem reports {m : Act ρ ε α} (h : Reports reg m) : P m := by
  cases h with
  | assertion site expression => exact hP.assertion site expression
  | comparison expected actual site expression =>
    rw [Report.comparison]
    split
    · exact hP.pure _
    · exact hP.assertion _ _
  | inconclusiveness message | log message =>
    exact hP.asMember fun m => hP.bind (hP.send m _) fun _ => hP.pure _
  | failure => exact hP.asMember fun _ => hP.pure _
  | value derive tag =>
    refine hP.bind (hP.membership derive) fun answer => ?_
    cases answer with
    | ok m => exact hP.bind (hP.quiet (.see _)) fun _ => hP.pure _
    | error why => exact hP.pure _
  | setValue derive tag v =>
    refine hP.bind (hP.membership derive) fun answer => ?_
    cases answer with
    | ok m => exact hP.bind (hP.setValue _ _ _) fun _ => hP.pure _
    | error why => exact hP.pure _
  | apply v => exact hP.apply v
  | sinkApply version v => exact hP.sinkApply version v

end Closed

end Reports

end Testbench.Guests
