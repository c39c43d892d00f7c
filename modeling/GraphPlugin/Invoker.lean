import GraphPlugin.Holdings
import GraphPlugin.Invoker.Bindings

/-! Invokers. An invoker opens one library, once, binds the functions that its build needs, and from
then on hands calls to them and handles back, each handle bound to a share of the library. -/
namespace GraphPlugin

inductive Status (b : Build)
  | unready
  | ready (bindings : Bindings b.operations) (library : Tag)
  | failed

structure Invoker (b : Build) where
  id : String
  path : String
  loader : Loader
  unloadOnDrop : Bool := true
  status : Status b := .unready

structure Outcome (σ α : Type) where
  state : σ
  events : List Event
  answer : α

/-- The handle that a caller gets for what an entry point hands back: always a new binding to the
library whose entry point it was. -/
def Holdings.adopt {known : List Handle} (s : Holdings) (library : Tag)
    (response : Response known) : Handle × Holdings :=
  let (back, s) := s.accept library.origin response
  s.bind library back

namespace Invoker

variable {b : Build}

def state (p : Invoker b) : Lifecycle :=
  match p.status with
  | .unready => .unready
  | .ready _ _ => .ready
  | .failed => .failed

def isReady (p : Invoker b) : Bool := p.state == .ready

/-- The policy for the library that is yet to be opened. -/
def setUnloadOnDrop (p : Invoker b) (unload : Bool) : Invoker b := { p with unloadOnDrop := unload }

def library? (p : Invoker b) : Option Tag :=
  match p.status with
  | .ready _ library => some library
  | _ => none

def debug (p : Invoker b) : String :=
  "PluginInvoker \x7b id: " ++ Text.quoted p.id ++ ", lib_path: " ++ Text.quoted p.path ++
    ", unload_on_drop: " ++ toString p.unloadOnDrop ++ ", state: " ++ p.state.label ++ ", .. \x7d"

def wrongState (p : Invoker b) (expected : Lifecycle) : InvokerError :=
  .wrongState p.id p.state expected

/-- Opens the library and binds its functions. This can be done once: whatever comes of it stays. A
library that does not serve is released at once, whatever the policy. -/
def init (p : Invoker b) (s : Holdings) :
    Outcome (Invoker b × Holdings) (Except InvokerError Unit) :=
  match p.status with
  | .unready =>
    let attempt := [Event.log (.initialising p.id p.path b.requiredSymbols),
      .opening p.loader.origin p.path]
    match p.loader.openAt p.path with
    | .error cause =>
      let error := InvokerError.cannotOpen p.path cause
      ⟨({ p with status := .failed }, s), attempt ++ [.log (.notLoaded p.id error)],
        .error error⟩
    | .ok library =>
      let (tag, s) := s.addLibrary p.loader.origin
      match library.bind tag p.path b.operations with
      | (events, .error error) =>
        ⟨({ p with status := .failed }, s),
          attempt ++ events ++ [.released tag, .log (.notLoaded p.id error)], .error error⟩
      | (events, .ok bindings) =>
        ⟨({ p with status := .ready bindings tag }, s.share tag p.unloadOnDrop),
          attempt ++ events ++ [.log (.loaded p.id p.path)], .ok ()⟩
  | _ => ⟨(p, s), [], .error (p.wrongState .unready)⟩

def conversionsLeftOut : String := "compiled without the `experimental` feature"

def emptyName : String := "graph name must not be empty"

/-- Hands a call to the bound function and binds what comes back. Conversions take any name, the
other operations need one. -/
def invoke (p : Invoker b) (s : Holdings) (o : Operation) (args : Arguments o.shape) :
    Outcome Holdings (Except InvokerError Handle) :=
  if offered : o ∈ b.operations then
    match p.status with
    | .ready bindings library =>
      if o.isConversion = false ∧ args.name = "" then
        ⟨s, [], .error (.badArgument o.symbol emptyName)⟩
      else
        let entry := bindings o offered
        let events := [Event.log (.forwarding p.id o.symbol args.name),
          .calling (some library) entry.label (.operation o.shape args.unwrapped)]
        match entry.run s.calls s.stash args.unwrapped with
        | .error error => ⟨s.called, events, .error (.backend o.symbol error)⟩
        | .ok response =>
          let (handle, s) := s.called.adopt library response
          ⟨s, events, .ok handle⟩
    | _ => ⟨s, [], .error (p.wrongState .ready)⟩
  else
    ⟨s, [.log (.conversionRejected p.id o.symbol)],
      .error (.unsupported o.symbol conversionsLeftOut)⟩

def close (p : Invoker b) (s : Holdings) : Holdings × List Event :=
  match p.library? with
  | some library => s.giveUp library
  | none => (s, [])

end Invoker

end GraphPlugin
