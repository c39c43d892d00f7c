/-! Identifiers of objects in the shared store. Their text has a fixed width, so that texts sort as
the numbers do. -/
namespace GraphPlugin

structure ObjectId where
  value : UInt64
deriving DecidableEq

namespace ObjectId

instance : LT ObjectId := ⟨fun a b => a.value < b.value⟩

theorem lt_iff (a b : ObjectId) : a < b ↔ a.value < b.value := Iff.rfl

/-- The lowest digits of a number to base sixteen, with the highest of them first. -/
def hexDigits (n : Nat) : Nat → List Char
  | 0 => []
  | width + 1 => hexDigits (n / 16) width ++ [Nat.digitChar (n % 16)]

def text (id : ObjectId) : String := String.ofList ('o' :: hexDigits id.value.toNat 16)

/-- The identifier a distance further on, beginning again at zero after the last one. -/
def offset (id : ObjectId) (distance : UInt64) : ObjectId := ⟨id.value + distance⟩

def sort (ids : List ObjectId) : List ObjectId :=
  ids.mergeSort fun a b => decide (a.value ≤ b.value)

end ObjectId

end GraphPlugin
