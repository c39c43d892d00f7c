import GraphPlugin.Loader
import GraphPlugin.Role

/-! Backends that follow a script: they tell a given version, refuse given graphs, and otherwise
make fragments whose identifiers follow from the arguments, or give a conversion's source back. -/
namespace GraphPlugin.Scripted

structure Rule where
  symbol : String
  graph : Option String
  error : BackendError

structure Script where
  version : Version := Version.current
  echo : Bool := false
  rules : List Rule := []

namespace Script

def refusal? (s : Script) (o : Operation) (graph : String) : Option BackendError :=
  (s.rules.find? fun rule =>
    rule.symbol == o.symbol && (rule.graph == none || rule.graph == some graph)).map Rule.error

/-- A number for a name: its bytes as digits to base 31, behind a 17, within 64 bits. -/
def nameNumber (name : String) : UInt64 :=
  (Text.utf8 name).foldl (fun acc byte => acc * 31 + byte.toUInt64) 17

def chosenId? (params : Params) : Option UInt64 :=
  match params.getInt? "object_id" with
  | some i => if 0 ≤ i then some i.toUInt64 else none
  | none => none

/-- The identifier of what an operation of a numbered backend makes. Backends are a thousand apart.
-/
def objectId (number : Nat) (o : Operation) (args : Arguments o.shape) : ObjectId :=
  let base : ObjectId :=
    match o, args with
    | .loadGraph, .load _ _ name params => ⟨(chosenId? params).getD (nameNumber name)⟩
    | .addVertices, .extend target _ _ _ _ => target.offset 1
    | .addEdges, .extend target _ _ _ _ => target.offset 2
    | .toArrow, .toArrow _ _ source _ => source.objectId.offset 100
    | .toDynamic, .toDynamic _ source _ => source.objectId.offset 200
  base.offset (1000 * UInt64.ofNat number)

def kind : Operation → FragmentKind
  | .toDynamic => .dynamic
  | _ => .arrow

def run (s : Script) (number : Nat) (o : Operation) (stash : List Handle)
    (args : Arguments o.shape) : Except BackendError (Response (args.known stash)) :=
  match s.refusal? o args.name with
  | some error => .error error
  | none =>
    match given : args.source?, s.echo with
    | some source, true => .ok (.returned source (Arguments.source_known given stash))
    | _, _ => .ok (.made ⟨objectId number o args, args.name, kind o⟩)

def backend (s : Script) (number : Nat) : Backend where
  report := ⟨⟨number, EntryPoint.version.symbol⟩, s.version⟩
  entry o := ⟨⟨number, o.symbol⟩, fun _ => s.run number o⟩

end Script

end GraphPlugin.Scripted
