import LineBridge.Fault
import LineBridge.Text.Numeral

/-! Where a bridge is served: a host and a number, with the last colon between them. -/

namespace LineBridge

structure Endpoint where
  host : String
  number : UInt16
deriving DecidableEq, Repr

namespace Endpoint

/-- The number is looked at only if there is a colon; what the host may be is left open. -/
def ofText (text : String) : Except Fault Endpoint :=
  let backwards := text.toList.reverse
  let digits := (backwards.takeWhile (· != ':')).reverse
  match backwards.dropWhile (· != ':') with
  | [] => .error (.link .badEndpoint)
  | _ :: host =>
    match Numeral.read 10 UInt16.size digits with
    | .error _ => .error (.link .badNumber)
    | .ok n => .ok ⟨String.ofList host.reverse, UInt16.ofNat n⟩

end Endpoint

end LineBridge
