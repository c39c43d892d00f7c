import GraphPlugin.Export
import GraphPlugin.Path
import GraphPlugin.SymbolTable

/-! Libraries and the loaders that open them. To an invoker a library is what it answers for each
entry point, and a loader is what it answers for each path. -/
namespace GraphPlugin

structure Library where
  resolve : (e : EntryPoint) → Except Cause (Export e.signature)

namespace Library

def ofTable (t : SymbolTable Export) : Library where
  resolve e := (t.resolve e.symbol e.signature).mapError .lookup

def withFailures (l : Library) (failures : List (String × String)) : Library where
  resolve e :=
    match failures.lookup e.symbol with
    | some text => .error (.text text)
    | none => l.resolve e

end Library

structure Loader where
  origin : Origin
  openAt : String → Except Cause Library

/-- Tables under paths, in the order in which the paths were first registered. -/
structure TableLoader where
  entries : List (String × SymbolTable Export) := []

namespace TableLoader

def replaceOrAppend (path : String) (table : SymbolTable Export) :
    List (String × SymbolTable Export) → List (String × SymbolTable Export)
  | [] => [(path, table)]
  | e :: rest =>
    if Path.Same e.1 path then (e.1, table) :: rest else e :: replaceOrAppend path table rest

/-- A table under a path. Another spelling of a registered path keeps the first spelling and gets
the new table. -/
def register (l : TableLoader) (path : String) (table : SymbolTable Export) : TableLoader :=
  ⟨replaceOrAppend path table l.entries⟩

def openAt (l : TableLoader) (path : String) : Except LookupError (SymbolTable Export) :=
  match l.entries.find? fun e => Path.Same e.1 path with
  | some e => .ok e.2
  | none => .error (.notRegistered path)

/-- The loader that an invoker is given: it can be made to fail on every path, and its libraries to
fail on some symbols. -/
def toLoader (l : TableLoader) (openFailure : Option String) (failures : List (String × String)) :
    Loader where
  origin := .inProcess
  openAt path :=
    match openFailure with
    | some text => .error (.text text)
    | none =>
      match l.openAt path with
      | .ok table => .ok ((Library.ofTable table).withFailures failures)
      | .error e => .error (.lookup e)

end TableLoader

end GraphPlugin
