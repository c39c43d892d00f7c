import GraphPlugin.Version

/-! What can go wrong, and how it is said. The message of a failure ends with the message of its
cause, so a whole chain of causes can be read off its end. -/
namespace GraphPlugin

inductive Lifecycle
  | unready
  | ready
  | failed
deriving DecidableEq

namespace Lifecycle

def text : Lifecycle → String
  | unready => "unready"
  | ready => "ready"
  | failed => "failed"

def label : Lifecycle → String
  | unready => "Unready"
  | ready => "Ready"
  | failed => "Failed"

end Lifecycle

structure BackendError where
  code : UInt32
  message : String
deriving DecidableEq

def BackendError.text (e : BackendError) : String :=
  "[" ++ toString e.code.toNat ++ "] " ++ e.message

inductive LookupError
  | notRegistered (path : String)
  | notFound (symbol : String)
  | signatureMismatch (symbol : String)
deriving DecidableEq

namespace LookupError

def message : LookupError → String
  | notRegistered path => "No static library registered at " ++ path
  | notFound symbol => "Symbol not found: " ++ symbol
  | signatureMismatch symbol =>
    "Symbol " ++ symbol ++ " was registered with a different signature"

end LookupError

mutual

inductive InvokerError
  | cannotOpen (path : String) (cause : Cause)
  | missingSymbol (symbol path : String) (cause : Cause)
  | incompatible (path : String) (expected found : Version)
  | unsupported (operation reason : String)
  | wrongState (id : String) (state expected : Lifecycle)
  | badArgument (operation reason : String)
  | backend (symbol : String) (cause : BackendError)

inductive Cause
  | text (message : String)
  | lookup (error : LookupError)
  | linker (words : String)
  | entryPoint (error : BackendError)
  | invoker (error : InvokerError)

end

mutual

def InvokerError.message : InvokerError → String
  | .cannotOpen path cause => "Failed to open library " ++ path ++ ": " ++ cause.message
  | .missingSymbol symbol path cause =>
    "Missing symbol " ++ symbol ++ " in " ++ path ++ ": " ++ cause.message
  | .incompatible path expected found =>
    "Incompatible ABI version in " ++ path ++ ": expected " ++ expected.text ++ ", found " ++
      found.text
  | .unsupported operation reason => "Unsupported operation " ++ operation ++ ": " ++ reason
  | .wrongState id state expected =>
    "Invoker " ++ id ++ " is " ++ state.text ++ ", expected " ++ expected.text
  | .badArgument operation reason => "Invalid argument to " ++ operation ++ ": " ++ reason
  | .backend symbol cause => symbol ++ " failed: " ++ cause.text

def Cause.message : Cause → String
  | .text message => message
  | .lookup error => error.message
  | .linker words => words
  | .entryPoint error => error.text
  | .invoker error => error.message

end

def InvokerError.cause? : InvokerError → Option Cause
  | .cannotOpen _ cause => some cause
  | .missingSymbol _ _ cause => some cause
  | .backend _ cause => some (.entryPoint cause)
  | _ => none

mutual

def InvokerError.chain : InvokerError → List Cause
  | .cannotOpen _ cause => cause :: cause.chain
  | .missingSymbol _ _ cause => cause :: cause.chain
  | .backend _ cause => [.entryPoint cause]
  | _ => []

def Cause.chain : Cause → List Cause
  | .invoker error => error.chain
  | _ => []

end

namespace InvokerError

inductive Kind
  | cannotOpen
  | missingSymbol
  | incompatible
  | unsupported
  | wrongState
  | badArgument
  | backend
deriving DecidableEq

def kind : InvokerError → Kind
  | cannotOpen _ _ => .cannotOpen
  | missingSymbol _ _ _ => .missingSymbol
  | incompatible _ _ _ => .incompatible
  | unsupported _ _ => .unsupported
  | wrongState _ _ _ => .wrongState
  | badArgument _ _ => .badArgument
  | backend _ _ => .backend

/-- The backend's own error, to look at or to take out of the failure. -/
def backendError? : InvokerError → Option BackendError
  | backend _ cause => some cause
  | _ => none

def unresolved? : InvokerError → Option String
  | missingSymbol symbol _ _ => some symbol
  | _ => none

theorem chain_eq (e : InvokerError) :
    e.chain = match e.cause? with
      | none => []
      | some cause => cause :: cause.chain := by
  cases e <;> simp [chain, cause?, Cause.chain]

end InvokerError

end GraphPlugin
