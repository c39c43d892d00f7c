import GraphPlugin.Call
import GraphPlugin.Failure

/-! What a backend exports: functions of known signatures under known symbols. -/
namespace GraphPlugin

/-- The type of an exported function: one that a host knows how to call, or any other type. -/
inductive Signature
  | version
  | operation (shape : Shape)
  | other (number : Nat)
deriving DecidableEq

/-- The place of a function in its backend: the number of the backend and the function's own name,
whatever symbol it is exported under. -/
structure Label where
  backend : Nat
  name : String
deriving DecidableEq

/-- A function for an operation. Backends may remember: the same arguments can have another answer
at another moment, and moments are told apart by the number of calls before them. They can also keep
handles, and hand them back later. -/
structure Entry (s : Shape) where
  label : Label
  run : (moment : Nat) → (stash : List Handle) → (args : Arguments s) →
    Except BackendError (Response (args.known stash))

structure VersionReport where
  label : Label
  version : Version

/-- An exported function of a given signature. One of another type is never called. -/
def Export : Signature → Type
  | .version => VersionReport
  | .operation shape => Entry shape
  | .other _ => Label

structure EntryPoint where
  symbol : String
  signature : Signature
deriving DecidableEq

def EntryPoint.version : EntryPoint := ⟨"GraphLinkAbiVersion", .version⟩

def Operation.entryPoint (o : Operation) : EntryPoint := ⟨o.symbol, .operation o.shape⟩

end GraphPlugin
