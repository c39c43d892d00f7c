import GraphPlugin.Attribute
import GraphPlugin.Keyed

/-! The parameters that a caller hands to an operation: named values, listed in key order, so that
all workers walk the same bag in the same order. -/
namespace GraphPlugin

abbrev Params := Keyed Attribute

namespace Params

def replace (p : Params) (key : String) (value : Attribute) : Option Attribute × Params :=
  (p.get? key, p.insert key value)

def getText? (p : Params) (key : String) : Option String :=
  match p.get? key with
  | some (.text s) => some s
  | _ => none

def getInt? (p : Params) (key : String) : Option Int64 :=
  match p.get? key with
  | some (.int i) => some i
  | _ => none

def getFloat? (p : Params) (key : String) : Option Binary64 :=
  match p.get? key with
  | some (.float x) => some x
  | _ => none

def getBool? (p : Params) (key : String) : Option Bool :=
  match p.get? key with
  | some (.bool b) => some b
  | _ => none

def getBytes? (p : Params) (key : String) : Option (List UInt8) :=
  match p.get? key with
  | some (.bytes v) => some v
  | _ => none

def equal (p q : Params) : Bool :=
  p.entries.isEqv q.entries fun a b => a.1 == b.1 && a.2.equal b.2

end Params

end GraphPlugin
