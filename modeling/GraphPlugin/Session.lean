import GraphPlugin.Backend.Scripted
import GraphPlugin.Host

/-! Sessions: a host together with named symbol tables and named loaders, over a number of scripted
backends. -/
namespace GraphPlugin

/-- Where a new invoker gets its library from: a named loader, which can be made to fail, or the
system. -/
inductive LibrarySource
  | tables (loader : String) (openFailure : Option String) (failures : List (String × String))
  | system

inductive Step
  | newTable (name : String)
  | fullTable (name : String) (backend : Nat)
  | copyTable (name result : String)
  | register (name symbol : String) (role : Role) (backend : Nat)
  | remove (name symbol : String)
  | inspectTable (name : String) (asked : List String)
  | probe (name symbol : String) (role : Role)
  | newLoader (name : String)
  | copyLoader (name result : String)
  | serve (name path table : String)
  | openTable (name path result : String)
  | inspectLoader (name : String)
  | create (name id path : String) (source : LibrarySource) (unload : Option Bool)
  | act (action : Action)

inductive Probed
  | version (v : Version)
  | handle (h : Handle)
  | failed (error : BackendError)

inductive Answer (b : Build)
  | done
  | size (n : Nat)
  | table (table : SymbolTable Export) (asked : List (String × Bool))
  | probed (result : Probed)
  | text (s : String)
  | loader (loader : TableLoader)
  | lookupFailed (error : LookupError)
  | unknown (name : String)
  | host (reply : Reply b)

structure Session (b : Build) where
  system : Loader
  scripts : List Scripted.Script := []
  tables : Keyed (SymbolTable Export) := .empty
  loaders : Keyed TableLoader := .empty
  host : Host b := {}

namespace Session

variable {b : Build}

/-- A backend by its number. Those that have no script follow the shortest one. -/
def backend (s : Session b) (number : Nat) : Backend :=
  (s.scripts[number]?.getD {}).backend number

def fullTable (backend : Backend) : SymbolTable Export :=
  Role.all.foldl (fun t r => t.register r.symbol r.signature (backend.function r)) .empty

def probeArguments (source : Handle) : (shape : Shape) → Arguments shape
  | .load => .load .single ⟨"/probe.sock", 9⟩ "probe" .empty
  | .extend => .extend ⟨7⟩ .single ⟨"/probe.sock", 9⟩ "probe" .empty
  | .toArrow => .toArrow ⟨"/probe.sock", 9⟩ .single source "probe"
  | .toDynamic => .toDynamic .single source "probe"

/-- The call of a function by itself, without an invoker. What comes back is kept for as long as it
takes to look at it. -/
def callDirectly (s : Holdings) (source : Handle) :
    (role : Role) → Export role.signature → Holdings × List Event × Probed
  | .version, (report : VersionReport) =>
    (s, [.calling none report.label .version], .version report.version)
  | .operation o, (entry : Entry o.shape) =>
    let args := probeArguments source o.shape
    let call := Event.calling none entry.label (.operation o.shape args)
    match entry.run s.calls s.stash args with
    | .error error => (s.called, [call], .failed error)
    | .ok response =>
      let (h, s) := s.called.accept .inProcess response
      let (s, drops) := s.drop h
      (s, call :: drops, .handle h)

/-- A probe makes a source, whether the function takes one or not, and drops it after the call. -/
def probe (s : Holdings) (role : Role) (function : Export role.signature) :
    Holdings × List Event × Probed :=
  let (source, s) := s.addFragment .inProcess ⟨⟨70⟩, "probe-source", .dynamic⟩ [] none
  let (s, events, result) := callDirectly s source role function
  let (s, drops) := s.drop source
  (s, events ++ drops, result)

def say (s : Session b) (answer : Answer b) : Outcome (Session b) (Answer b) := ⟨s, [], answer⟩

def act (s : Session b) (action : Action) : Outcome (Session b) (Answer b) :=
  let outcome := s.host.step action
  ⟨{ s with host := outcome.state }, outcome.events, .host outcome.answer⟩

def changeTable (s : Session b) (name : String)
    (change : SymbolTable Export → SymbolTable Export) : Outcome (Session b) (Answer b) :=
  match s.tables.get? name with
  | none => s.say (.unknown name)
  | some table =>
    let table := change table
    { s with tables := s.tables.insert name table }.say (.size table.size)

def step (s : Session b) : Step → Outcome (Session b) (Answer b)
  | .newTable name => { s with tables := s.tables.insert name .empty }.say .done
  | .fullTable name number =>
    { s with tables := s.tables.insert name (fullTable (s.backend number)) }.say .done
  | .copyTable name result =>
    match s.tables.get? name with
    | none => s.say (.unknown name)
    | some table => { s with tables := s.tables.insert result table }.say .done
  | .register name symbol role number =>
    s.changeTable name fun t =>
      t.register symbol role.signature ((s.backend number).function role)
  | .remove name symbol => s.changeTable name fun t => t.remove symbol
  | .inspectTable name asked =>
    match s.tables.get? name with
    | none => s.say (.unknown name)
    | some table => s.say (.table table (asked.map fun symbol => (symbol, table.contains symbol)))
  | .probe name symbol role =>
    match s.tables.get? name with
    | none => s.say (.unknown name)
    | some table =>
      match table.resolve symbol role.signature with
      | .error error => s.say (.lookupFailed error)
      | .ok function =>
        let (holdings, events, result) := probe s.host.holdings role function
        ⟨{ s with host := { s.host with holdings } }, events, .probed result⟩
  | .newLoader name => { s with loaders := s.loaders.insert name {} }.say .done
  | .copyLoader name result =>
    match s.loaders.get? name with
    | none => s.say (.unknown name)
    | some loader => { s with loaders := s.loaders.insert result loader }.say .done
  | .serve name path table =>
    match s.loaders.get? name, s.tables.get? table with
    | none, _ => s.say (.unknown name)
    | some _, none => s.say (.unknown table)
    | some loader, some exports =>
      { s with loaders := s.loaders.insert name (loader.register path exports) }.say .done
  | .openTable name path result =>
    match s.loaders.get? name with
    | none => s.say (.unknown name)
    | some loader =>
      match loader.openAt path with
      | .error error => s.say (.lookupFailed error)
      | .ok table =>
        { s with tables := s.tables.insert result table }.say (.text table.debug)
  | .inspectLoader name =>
    match s.loaders.get? name with
    | none => s.say (.unknown name)
    | some loader => s.say (.loader loader)
  | .create name id path (.tables loader openFailure failures) unload =>
    match s.loaders.get? loader with
    | none => s.say (.unknown loader)
    | some tables => s.act (.create name id path (tables.toLoader openFailure failures) unload)
  | .create name id path .system unload =>
    s.act (.create name id path s.system unload)
  | .act action => s.act action

def run (s : Session b) : List Step → List (List Event × Answer b) × List Event
  | [] => ([], s.host.shutDown.2)
  | step :: rest =>
    let outcome := s.step step
    let (steps, last) := outcome.state.run rest
    ((outcome.events, outcome.answer) :: steps, last)

end Session

end GraphPlugin
