import GraphPlugin.Export

/-! The trace that a host leaves: what it logs, what it asks of loaders and libraries, which entry
points it calls, and what is dropped and released, in order. -/
namespace GraphPlugin

inductive Log
  | initialising (id path : String) (symbols : List String)
  | loaded (id path : String)
  | notLoaded (id : String) (error : InvokerError)
  | versionUnchecked (path : String)
  | forwarding (id symbol name : String)
  | conversionRejected (id operation : String)

namespace Log

inductive Level
  | debug
  | info
  | warn
deriving DecidableEq

def level : Log → Level
  | loaded _ _ => .info
  | notLoaded _ _ => .warn
  | _ => .debug

def message : Log → String
  | initialising _ _ _ => "Initialising plugin invoker"
  | loaded id path => "Loaded plugin " ++ id ++ " from " ++ path
  | notLoaded id error => "Failed to load plugin " ++ id ++ ": " ++ error.message
  | versionUnchecked _ =>
    "Library does not export " ++ EntryPoint.version.symbol ++ ", skipping ABI check"
  | forwarding _ _ _ => "Forwarding call"
  | conversionRejected _ _ => "Rejecting conversion in a non-experimental build"

def fields : Log → List (String × String)
  | initialising id path symbols =>
    [("id", id), ("path", path), ("symbols", Text.commaSeparated symbols)]
  | loaded _ _ => []
  | notLoaded _ _ => []
  | versionUnchecked path => [("path", path)]
  | forwarding id symbol name => [("id", id), ("symbol", symbol), ("graph_name", name)]
  | conversionRejected id operation => [("id", id), ("operation", operation)]

end Log

/-- One thing that happens. A call names the opened library it goes to, if there is one: functions
can also be called straight from a table. -/
inductive Event
  | log (entry : Log)
  | opening (origin : Origin) (path : String)
  | resolving (library : Tag) (symbol : String)
  | calling (library : Option Tag) (label : Label) (call : Call)
  | released (library : Tag)
  | dropped (fragment : Tag)

namespace Event

/-- What the system's loader brings in leaves no trace but in the log, which may be off. -/
def shown (logging : Bool) : Event → Bool
  | log _ => logging
  | opening origin _ => origin == .inProcess
  | resolving library _ => library.origin == .inProcess
  | calling (some library) _ _ => library.origin == .inProcess
  | calling none _ _ => true
  | released library => library.origin == .inProcess
  | dropped fragment => fragment.origin == .inProcess

end Event

end GraphPlugin
