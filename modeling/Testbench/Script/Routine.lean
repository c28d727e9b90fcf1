import Testbench.Script.Threads

/-!
# What scripted routines do

`exec` runs a routine of a scenario. It nests as deep as it is given room for, since the steps of a
routine may run actions and call drivers, which run routines again; everything else is recursion on
the steps.
-/

namespace Testbench.Script

open World

/-- The name of the recorder before which routines run actions. -/
def mainRecorder : String := "ctx"

/-- The word for an assertion of some style. -/
def AssertionStyle.word : AssertionStyle → Word
  | plain => .assertion
  | formatted => .formattedAssertion
  | breaking => .breakingAssertion

/-- The word for a comparison. -/
def comparisonWord (breaking : Bool) : Word := if breaking then .breakingComparison else .comparison

/-- Leaves a disposition in the trace, and breaks if that is it and is wanted. -/
def heed (word : Word) (breaking : Bool) (d : Disposition) : Play Unit := do
  leave word (.disposition d)
  if breaking && d == .breakIn then Report.debugBreak

/-- Makes an assertion. -/
def assertion (p : Path) (style : AssertionStyle) (expression : String) (site : Site) :
    Play Unit := do
  match ← p.assertion (style == .formatted) site expression with
  | .ok d => heed style.word (style == .breaking) d
  | .error why => leave style.word (.error (Text.explain why))

/-- Compares two words. -/
def comparison (p : Path) (breaking : Bool) (expected actual : UInt32) (expression : String)
    (site : Site) : Play Unit := do
  heed (comparisonWord breaking) breaking (← p.comparison expected actual site expression)

/-- Fails, and goes on if that is all it came to. -/
def failure (p : Path) : Play Unit := do
  match ← p.failure with
  | .ok () => pure ()
  | .error why => leave .failure (.error (Text.explain why))
  leave .failure .returned

/-- Tells a routine its place. -/
def tellPlace (p : Path) (derive : Bool) : Play Unit := do
  match ← p.place derive with
  | .ok place => leave .place (.place place)
  | .error why => leave .place (.error (Text.explain why))

/-- Tells a routine of a driver the version of its sink. -/
def tellVersion : Path → Play Unit
  | .own | .shared => return ()
  | .sink s => leave .version (.number s.version.toNat)

/-- Adds an action to a sequence. -/
def addStep (sequence action : String) : Play Unit := do
  match ← addToSequence sequence action with
  | .ok e => leave .add (.extent e)
  | .error why => leave .add (.error (Text.explain why))

mutual

/-- What a step does, where `exec` runs the routines that it leads to. -/
def bodyOf (exec : Routine → Play Unit) (scope : Scope) : Step → Body Unit
  | .trace text => Body.lift (leave .trace (.text text))
  | .log message => Body.lift (scope.path.log message)
  | .failure => Body.lift (failure scope.path)
  | .inconclusiveness message => Body.lift do
    scope.path.inconclusiveness message
    leave .inconclusiveness .returned
  | .assertion style expression site => Body.lift (assertion scope.path style expression site)
  | .comparison breaking expected actual expression site =>
    Body.lift (comparison scope.path breaking expected actual expression site)
  | .panicking text => Body.lift (World.panicking text)
  | .raise s => Flow.unwind (.signal s)
  | .verdict v => Body.lift do leave .verdict (.disposition (← v.apply))
  | .debugger => Body.lift (leave .debugger (.truth false))
  | .value tag => Body.lift do leave .value (← scope.path.value tag)
  | .setValue tag v => Body.lift do leave .setValue (← scope.path.setValue tag v)
  | .spawn mode steps last => spawn scope mode (bodyOfAll exec scope steps).perform last
  | .anonymous mode steps last =>
    spawnAnonymous scope mode (bodyOfAll exec scope steps).perform last
  | .fill count => do
    Body.repeated (spawn scope .deferred (return ()) []) count
    Body.lift (leave .fill (.number (← Body.deferred)))
  | .catching steps => do
    let result ← (bodyOfAll exec scope steps).attempt
    Body.lift (leave .catching (.caught result))
  | .inCall number steps =>
    if scope.call = number then bodyOfAll exec scope steps else return ()
  | .repeated times steps => Body.repeated (bodyOfAll exec scope steps) times
  | .configure settings => Body.lift (Bookshelf.configure mainRecorder settings)
  | .add sequence action => Body.lift (addStep sequence action)
  | .run action => Body.lift do leave .run (.run (← runAction exec action mainRecorder))
  | .reset => Body.lift scope.path.reset
  | .place derive => Body.lift (tellPlace scope.path derive)
  | .level => Body.lift do leave .level (.level (← World.level))
  | .raiseLevel l => Body.lift do let _ ← World.raiseLevel l
  | .lowerLevel l => Body.lift (World.lowerLevel l)
  | .version => Body.lift (tellVersion scope.path)
  | .call plan => Body.lift do leave .call (.call (← callDriver exec plan))
  | .park => Body.lift Script.park
termination_by structural s => s

/-- What some steps do, one after the other. -/
def bodyOfAll (exec : Routine → Play Unit) (scope : Scope) : List Step → Body Unit
  | [] => return ()
  | s :: rest => do
    bodyOf exec scope s
    bodyOfAll exec scope rest
termination_by structural l => l

end

/-- Runs a routine, with room for routines to nest so deep. -/
def exec : Nat → Routine → Play Unit
  | 0, _ => Flow.exhaust
  | depth + 1, .scripted path id steps => do
    let call ← countCall id
    (bodyOfAll (exec depth) ⟨path, call⟩ steps).perform
  | depth + 1, .remote r => r.run (exec depth)

/-- Runs a routine. -/
def Routine.run (r : Routine) : Play Unit := exec room r

/-- Runs some steps outside of any routine. -/
def runSteps (scope : Scope) (steps : List Step) : Play Unit :=
  (bodyOfAll Routine.run scope steps).perform

/-- Lets the threads go that stayed, in rounds: those that come to stay meanwhile go last. -/
def releaseRounds : Nat → Play Unit
  | 0 => Flow.exhaust
  | rounds + 1 => do
    match ← onStore fun s => (s.lingering, { s with lingering := [] }) with
    | [] => return ()
    | waiting =>
      waiting.forM fun l => endLingering l (runSteps l.scope l.last)
      releaseRounds rounds

/-- Lets all threads go that stayed. -/
def releaseLingering : Play Unit := releaseRounds room

end Testbench.Script
