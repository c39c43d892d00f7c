import GraphPlugin.Handle
import GraphPlugin.Operation
import GraphPlugin.Params
import GraphPlugin.Worker

/-! What goes to an entry point and what comes back. -/
namespace GraphPlugin

inductive Arguments : Shape → Type
  | load (comm : CommSpec) (client : StoreClient) (name : String) (params : Params) :
      Arguments .load
  | extend (target : ObjectId) (comm : CommSpec) (client : StoreClient) (name : String)
      (params : Params) : Arguments .extend
  | toArrow (client : StoreClient) (comm : CommSpec) (source : Handle) (name : String) :
      Arguments .toArrow
  | toDynamic (comm : CommSpec) (source : Handle) (name : String) : Arguments .toDynamic

namespace Arguments

variable {s : Shape}

def name : Arguments s → String
  | load _ _ name _ => name
  | extend _ _ _ name _ => name
  | toArrow _ _ _ name => name
  | toDynamic _ _ name => name

def comm : Arguments s → CommSpec
  | load comm _ _ _ => comm
  | extend _ comm _ _ _ => comm
  | toArrow _ comm _ _ => comm
  | toDynamic comm _ _ => comm

def client? : Arguments s → Option StoreClient
  | load _ client _ _ => some client
  | extend _ _ client _ _ => some client
  | toArrow client _ _ _ => some client
  | toDynamic _ _ _ => none

def target? : Arguments s → Option ObjectId
  | extend target _ _ _ _ => some target
  | _ => none

def params? : Arguments s → Option Params
  | load _ _ _ params => some params
  | extend _ _ _ _ params => some params
  | _ => none

def source? : Arguments s → Option Handle
  | toArrow _ _ source _ => some source
  | toDynamic _ source _ => some source
  | _ => none

/-- The arguments as an entry point receives them, with a wrapper taken off the source: a backend
gets back the handle that it once returned. -/
def unwrapped : Arguments s → Arguments s
  | load comm client name params => load comm client name params
  | extend target comm client name params => extend target comm client name params
  | toArrow client comm source name => toArrow client comm source.unwrapped name
  | toDynamic comm source name => toDynamic comm source.unwrapped name

/-- What an entry point knows: its source, what has been kept of earlier calls, and what is inside.
-/
def known (args : Arguments s) (stash : List Handle) : List Handle :=
  (args.source?.toList ++ stash).flatMap Handle.parts

theorem source_known {args : Arguments s} {h : Handle} (given : args.source? = some h)
    (stash : List Handle) : h ∈ args.known stash :=
  List.mem_flatMap.2 ⟨h, by simp [given], h.mem_parts_self⟩

theorem source?_unwrapped (args : Arguments s) :
    args.unwrapped.source? = args.source?.map Handle.unwrapped := by
  cases args <;> rfl

end Arguments

/-- What a backend makes or passes on in a call: a handle that it knows, or a new fragment, which
may hold others and show one of them as the handle inside. -/
inductive Product (known : List Handle)
  | known (handle : Handle) (given : handle ∈ known)
  | fragment (content : Fragment) (held : List (Product known)) (shown : Option Nat)

/-- What comes of a call that goes well. A backend may keep what it hands back, and more beside. -/
structure Response (known : List Handle) where
  back : Product known
  stashed : List (Product known) := []
  stashesBack : Bool := false

namespace Response

variable {known : List Handle}

def made (content : Fragment) : Response known where
  back := .fragment content [] none

def returned (handle : Handle) (given : handle ∈ known) : Response known where
  back := .known handle given

end Response

inductive Call
  | version
  | operation (shape : Shape) (args : Arguments shape)

end GraphPlugin
