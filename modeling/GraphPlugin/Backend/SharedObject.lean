import GraphPlugin.Loader
import GraphPlugin.Role

/-! A shared object with a graph backend, which numbers fragments by the store they are in. How such
objects are found, and what is said of those that are not, is the system's business. -/
namespace GraphPlugin.SharedObject

def refusedGraph : String := "refused-graph"

/-- Loaded fragments are numbered by a parameter, or else by the instance of the store. -/
def objectId (o : Operation) (args : Arguments o.shape) : ObjectId :=
  match o, args with
  | .loadGraph, .load _ client _ params =>
    match params.getInt? "object_id" with
    | some i => if 0 ≤ i then ⟨i.toUInt64⟩ else ⟨client.instanceId⟩
    | none => ⟨client.instanceId⟩
  | .addVertices, .extend target _ _ _ _ => target.offset 1
  | .addEdges, .extend target _ _ _ _ => target.offset 2
  | .toArrow, .toArrow _ _ source _ => source.objectId.offset 100
  | .toDynamic, .toDynamic _ source _ => source.objectId.offset 200

def kind : Operation → FragmentKind
  | .toDynamic => .dynamic
  | _ => .arrow

def run (o : Operation) (stash : List Handle) (args : Arguments o.shape) :
    Except BackendError (Response (args.known stash)) :=
  if args.name = refusedGraph then .error ⟨9, "refused " ++ args.name⟩
  else .ok (.made ⟨objectId o args, args.name, kind o⟩)

def backend : Backend where
  report := ⟨⟨0, EntryPoint.version.symbol⟩, Version.current⟩
  entry o := ⟨⟨0, o.symbol⟩, fun _ => run o⟩

/-- The object, once it is opened. Of symbols that it does not export the system speaks in its own
words. -/
def library (undefined : String → String) : Library where
  resolve
    | ⟨symbol, signature⟩ =>
      match Role.ofSymbol? symbol with
      | some role =>
        if same : role.signature = signature then .ok (same ▸ backend.function role)
        else .error (.linker (undefined symbol))
      | none => .error (.linker (undefined symbol))

end GraphPlugin.SharedObject
