import BaseStation.Sacch.DecodeError
import BaseStation.Text.Padding

namespace BaseStation.Sacch

structure Header where
  msPower : UInt8
  fastPower : Bool
  repetition : Bool
  timingAdvance : UInt8
  deriving DecidableEq, Repr

namespace Header

instance : Inhabited Header := ⟨⟨0, false, false, 0⟩⟩

def zero : Header := ⟨0, false, false, 0⟩

def bit (weight : Nat) : Bool → Nat
  | true => weight
  | false => 0

def ofFirst (first advance : UInt8) : Header where
  msPower := UInt8.ofNat (first.toNat % 32)
  fastPower := first.toNat / 32 % 2 = 1
  repetition := first.toNat / 64 % 2 = 1
  timingAdvance := advance

def decode : List UInt8 → Except DecodeError Header
  | [] => .error (.ended (some "b0"))
  | [_] => .error (.ended (some "ta"))
  | first :: advance :: _ => .ok (ofFirst first advance)

def firstOctet (header : Header) : UInt8 :=
  UInt8.ofNat (header.msPower.toNat % 32 + bit 32 header.fastPower + bit 64 header.repetition)

def encode (header : Header) : List UInt8 :=
  [header.firstOctet, header.timingAdvance]

def text (header : Header) : String :=
  "SacchL1Header \x7b ms_pwr: " ++ toString header.msPower.toNat
    ++ ", fpc_epc: " ++ Text.ofBool header.fastPower
    ++ ", srr_sro: " ++ Text.ofBool header.repetition
    ++ ", ta: " ++ toString header.timingAdvance.toNat ++ " \x7d"

end Header

end BaseStation.Sacch
