import Warden.Text.Line

/-!
# IPv4 addresses

An address is written as four numbers of at most 255 with points between them and without leading
zeros, so that no address has two written forms.

## Main definitions

* `Ipv4`: an address
* `Ipv4.ofText?`: the address that a text is
* `Ipv4.text`: an address as text
* `Ipv4.isLoopback`: an address of the host itself
-/

namespace Warden.Network

/-- An address of four bytes. -/
structure Ipv4 where
  first : UInt8
  second : UInt8
  third : UInt8
  fourth : UInt8
  deriving DecidableEq, Repr

namespace Ipv4

/-- The number that digits stand for. -/
def numberOf (digits : List Char) : Nat :=
  digits.foldl (fun n c => n * 10 + (c.toNat - '0'.toNat)) 0

/-- The byte that a text is: up to three digits without a leading zero. -/
def byte? (text : List Char) : Option UInt8 :=
  let isNumber := !text.isEmpty && text.all Char.isDigit && text.length ≤ 3
  let isPadded := text.length != 1 && text.head? == some '0'
  let number := numberOf text
  if isNumber && !isPadded && number ≤ 255 then some (UInt8.ofNat number) else none

/-- The address that a text is. -/
def ofText? (text : String) : Option Ipv4 := do
  match Text.splitAtEach (· == '.') text.toList with
  | [a, b, c, d] => return ⟨← byte? a, ← byte? b, ← byte? c, ← byte? d⟩
  | _ => none

/-- The address as text. -/
def text (ip : Ipv4) : String :=
  s!"{ip.first}.{ip.second}.{ip.third}.{ip.fourth}"

/-- The address is one of the host itself: its first byte is 127. -/
def isLoopback (ip : Ipv4) : Bool :=
  ip.first == 127

end Ipv4

end Warden.Network
