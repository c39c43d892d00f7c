/-! Values of parameters: five kinds, and the equality that callers see on them. It is equality of
content, except that floats are equal as numbers: the two zeros are equal, and what is not a number
equals nothing, itself included. -/
namespace GraphPlugin

/-- A double-precision number as its bits: sign, eleven bits of exponent, 52 of fraction. -/
structure Binary64 where
  bits : UInt64
deriving DecidableEq

namespace Binary64

def exponent (x : Binary64) : Nat := x.bits.toNat / Nat.pow 2 52 % Nat.pow 2 11

def fraction (x : Binary64) : Nat := x.bits.toNat % Nat.pow 2 52

def isNaN (x : Binary64) : Bool := x.exponent == 2047 && x.fraction != 0

def isZero (x : Binary64) : Bool := x.exponent == 0 && x.fraction == 0

def equal (x y : Binary64) : Bool :=
  !x.isNaN && !y.isNaN && (x.bits == y.bits || (x.isZero && y.isZero))

end Binary64

inductive Attribute
  | text (value : String)
  | int (value : Int64)
  | float (value : Binary64)
  | bool (value : Bool)
  | bytes (value : List UInt8)
deriving DecidableEq

namespace Attribute

def equal : Attribute → Attribute → Bool
  | text s, text t => s == t
  | int i, int j => i == j
  | float x, float y => x.equal y
  | bool a, bool b => a == b
  | bytes v, bytes w => v == w
  | _, _ => false

end Attribute

end GraphPlugin
