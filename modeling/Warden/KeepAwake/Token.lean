import Warden.Act

/-!
# The keep-awake token

While the server runs the host must not be suspended. The token stands for that: it is held or not,
however often it is asked for. Taking it asks an inhibitor to block suspension, and giving it back
asks the inhibitor to let go.

## Main definitions

* `Inhibitor`: what blocks suspension
* `Awake`: the token beside the outside world of the inhibitor
* `acquire`, `release`: take the token and give it back
* `enter`: take the token for a block, which runs without it when it cannot be had
* `hold`: a block with the token, which is given back on every way out
-/

namespace Warden.KeepAwake

/-- What blocks suspension of the host, in the name of somebody, and lets go again. -/
structure Inhibitor (ε : Type) where
  acquire : String → Act ε Unit
  release : Act ε Unit

/-- What blocks suspension as a part of a larger outside world. -/
def Inhibitor.within {σ ε : Type} (part : σ → ε) (put : σ → ε → σ) (inhibitor : Inhibitor ε) :
    Inhibitor σ where
  acquire name := (inhibitor.acquire name).within part put
  release := inhibitor.release.within part put

/-- The token, with the name in which suspension is blocked. -/
structure Token where
  name : String := "tcmg:server"
  held : Bool := false
  deriving DecidableEq, Repr, Inhabited

/-- The token beside an outside world. -/
structure Awake (ε : Type) where
  token : Token
  outside : ε

variable {ε α : Type}

/-- An act on the outside world. -/
def outside (act : Act ε α) : Act (Awake ε) α :=
  act.within Awake.outside fun awake outside => { awake with outside }

/-- The token is marked as held or not. -/
def mark (held : Bool) : Act (Awake ε) Unit :=
  Act.modify fun awake => { awake with token := { awake.token with held } }

/-- Takes the token, unless it is held. -/
def acquire (inhibitor : Inhibitor ε) : Act (Awake ε) Unit := do
  let token ← Act.view Awake.token
  unless token.held do
    outside (inhibitor.acquire token.name)
    mark true
    Act.note .debug s!"KeepAlive: {token.name} acquired"

/-- Gives the token back, if it is held. A failed system call of the inhibitor is logged. -/
def release (inhibitor : Inhibitor ε) : Act (Awake ε) Unit := do
  let token ← Act.view Awake.token
  if token.held then
    mark false
    Act.recover Failure.isSystem (outside inhibitor.release) fun failure =>
      Act.note .warning s!"KeepAlive: release of {token.name} failed: {failure.text}"
    Act.note .debug s!"KeepAlive: {token.name} released"

/-- Takes the token for a block and answers whether it is held. The block runs without it when it is
not available. -/
def enter (inhibitor : Inhibitor ε) : Act (Awake ε) Bool := do
  Act.recover Failure.isUnavailable (acquire inhibitor) fun failure => do
    let token ← Act.view Awake.token
    Act.note .warning
      s!"KeepAlive: {token.name} unavailable, continuing without it: {failure.text}"
  Act.view (·.token.held)

/-- A block with the token, given back on every way out. The block is told whether it is held. -/
def hold (inhibitor : Inhibitor ε) (block : Bool → Act (Awake ε) α) : Act (Awake ε) α := do
  let held ← enter inhibitor
  (block held).always (release inhibitor)

end Warden.KeepAwake
