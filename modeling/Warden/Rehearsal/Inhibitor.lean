import Warden.KeepAwake.Token

/-!
# A rehearsed inhibitor

An inhibitor that blocks nothing: it counts what it is asked for, and may be made to fail.

## Main definitions

* `RehearsedInhibitor`: what it was asked for and how it fails
* `RehearsedInhibitor.inhibitor`: the inhibitor
-/

namespace Warden.Rehearsal

open Warden.KeepAwake

/-- What an inhibitor was asked for, and how it fails. -/
structure RehearsedInhibitor where
  acquireFailure : Option Failure := none
  releaseFailure : Option Failure := none
  acquired : Nat := 0
  /-- How often it was asked to let go, failures included. -/
  released : Nat := 0
  /-- The names it was asked to block suspension in, the last one first. -/
  names : List String := []
  deriving Inhabited

namespace RehearsedInhibitor

/-- The inhibitor; `part` and `put` say where it is kept in the outside world. -/
def inhibitor {ε : Type} (part : ε → RehearsedInhibitor) (put : ε → RehearsedInhibitor → ε) :
    Inhibitor ε where
  acquire name := Act.within part put do
    Act.modify fun i => { i with names := name :: i.names }
    Act.raise? (← Act.view acquireFailure)
    Act.modify fun i => { i with acquired := i.acquired + 1 }
  release := Act.within part put do
    Act.modify fun i => { i with released := i.released + 1 }
    Act.raise? (← Act.view releaseFailure)

end RehearsedInhibitor

/-- A token over a rehearsed inhibitor, with the number of blocks that are entered. -/
structure HeldBlocks where
  awake : Awake RehearsedInhibitor
  entered : Nat := 0

namespace HeldBlocks

/-- The inhibitor of the blocks. -/
def counted : Inhibitor RehearsedInhibitor :=
  RehearsedInhibitor.inhibitor id fun _ after => after

/-- An act on the token. -/
def onToken {α : Type} (act : Act (Awake RehearsedInhibitor) α) : Act HeldBlocks α :=
  act.within awake fun blocks awake => { blocks with awake }

/-- Enters a block. -/
def enter : Act HeldBlocks Bool := do
  let held ← onToken (KeepAwake.enter counted)
  Act.modify fun blocks => { blocks with entered := blocks.entered + 1 }
  return held

/-- Leaves the block that was entered last. -/
def leave : Act HeldBlocks Unit := do
  if (← Act.get).entered == 0 then Act.fail .nothingOpen
  Act.modify fun blocks => { blocks with entered := blocks.entered - 1 }
  onToken (KeepAwake.release counted)

/-- A block that fails or not; answers whether the token was held. -/
def block (failure : Option Failure) : Act HeldBlocks Bool :=
  onToken <| KeepAwake.hold counted fun held => do
    Act.raise? failure
    return held

end HeldBlocks

end Warden.Rehearsal
