import GraphPlugin.Invoker

/-! A host: named invokers and named handles, and the steps that it can take with them. A value that
gets a name in use takes the place of the one that had it, which is then dropped. One step is not
the host's own: a backend can let go of a handle that it has kept. -/
namespace GraphPlugin

inductive Request
  | loadGraph (comm : CommSpec) (client : StoreClient) (name : String) (params : Params)
  | addVertices (target : ObjectId ⊕ String) (comm : CommSpec) (client : StoreClient)
      (name : String) (params : Params)
  | addEdges (target : ObjectId ⊕ String) (comm : CommSpec) (client : StoreClient)
      (name : String) (params : Params)
  | toArrow (client : StoreClient) (comm : CommSpec) (source : String) (name : String)
  | toDynamic (comm : CommSpec) (source : String) (name : String)

inductive Action
  | create (name id path : String) (loader : Loader) (unload : Option Bool)
  | setUnloadOnDrop (name : String) (unload : Bool)
  | init (name : String)
  | inspect (name : String)
  | close (name : String)
  | invoke (name : String) (request : Request) (result : String)
  | make (content : Fragment) (holds : List String) (shown : Option Nat) (result : String)
  | describe (handle : String)
  | clone (handle result : String)
  | takeInner (handle result : String)
  | drop (handle : String)
  | unstash (place : Nat)

inductive Reply (b : Build)
  | done
  | invoker (p : Invoker b)
  | initialised (state : Lifecycle) (result : Except InvokerError Unit)
  | handle (h : Handle)
  | noHandle
  | refused (error : InvokerError)
  | unknown (name : String)

structure Host (b : Build) where
  invokers : Keyed (Invoker b) := .empty
  handles : Keyed Handle := .empty
  holdings : Holdings := {}

namespace Host

variable {b : Build}

def find {α : Type} (named : Keyed α) (name : String) : Except String α :=
  match named.get? name with
  | some value => .ok value
  | none => .error name

def findAll (host : Host b) : List String → Except String (List Handle)
  | [] => .ok []
  | name :: rest =>
    match find host.handles name, host.findAll rest with
    | .error name, _ => .error name
    | .ok _, .error name => .error name
    | .ok h, .ok hs => .ok (h :: hs)

/-- A handle under a name, for which the holdings already count a reference. -/
def keepHandle (host : Host b) (name : String) (h : Handle) (s : Holdings) :
    Host b × List Event :=
  let handles := host.handles.insert name h
  match host.handles.get? name with
  | none => ({ host with handles, holdings := s }, [])
  | some old =>
    let (s, events) := s.drop old
    ({ host with handles, holdings := s }, events)

def keepInvoker (host : Host b) (name : String) (p : Invoker b) : Host b × List Event :=
  let invokers := host.invokers.insert name p
  match host.invokers.get? name with
  | none => ({ host with invokers }, [])
  | some old =>
    let (s, events) := old.close host.holdings
    ({ host with invokers, holdings := s }, events)

def target (host : Host b) : ObjectId ⊕ String → Except String ObjectId
  | .inl id => .ok id
  | .inr name => (find host.handles name).map Handle.objectId

def arguments (host : Host b) : Request → Except String ((o : Operation) × Arguments o.shape)
  | .loadGraph comm client name params => .ok ⟨.loadGraph, .load comm client name params⟩
  | .addVertices target comm client name params =>
    (host.target target).map fun id => ⟨.addVertices, .extend id comm client name params⟩
  | .addEdges target comm client name params =>
    (host.target target).map fun id => ⟨.addEdges, .extend id comm client name params⟩
  | .toArrow client comm source name =>
    (find host.handles source).map fun h => ⟨.toArrow, .toArrow client comm h name⟩
  | .toDynamic comm source name =>
    (find host.handles source).map fun h => ⟨.toDynamic, .toDynamic comm h name⟩

/-- A step that names what is not there has no effect. -/
def refuse (host : Host b) (name : String) : Outcome (Host b) (Reply b) :=
  ⟨host, [], .unknown name⟩

def answerHandle (host : Host b) (result : String) (h : Handle) (s : Holdings)
    (events : List Event) : Outcome (Host b) (Reply b) :=
  let (host, drops) := host.keepHandle result h s
  ⟨host, events ++ drops, .handle h⟩

def stepInit (host : Host b) (name : String) (p : Invoker b) : Outcome (Host b) (Reply b) :=
  let outcome := p.init host.holdings
  let p := outcome.state.1
  ⟨{ host with invokers := host.invokers.insert name p, holdings := outcome.state.2 },
    outcome.events, .initialised p.state outcome.answer⟩

def stepInvoke (host : Host b) (p : Invoker b) (o : Operation) (args : Arguments o.shape)
    (result : String) : Outcome (Host b) (Reply b) :=
  let outcome := p.invoke host.holdings o args
  match outcome.answer with
  | .ok h => host.answerHandle result h outcome.state outcome.events
  | .error error => ⟨{ host with holdings := outcome.state }, outcome.events, .refused error⟩

def step (host : Host b) : Action → Outcome (Host b) (Reply b)
  | .create name id path loader unload =>
    let p : Invoker b := { id, path, loader, unloadOnDrop := unload.getD true }
    let (host, events) := host.keepInvoker name p
    ⟨host, events, .invoker p⟩
  | .setUnloadOnDrop name unload =>
    match find host.invokers name with
    | .error name => host.refuse name
    | .ok p =>
      let p := p.setUnloadOnDrop unload
      ⟨{ host with invokers := host.invokers.insert name p }, [], .invoker p⟩
  | .init name =>
    match find host.invokers name with
    | .error name => host.refuse name
    | .ok p => host.stepInit name p
  | .inspect name =>
    match find host.invokers name with
    | .error name => host.refuse name
    | .ok p => ⟨host, [], .invoker p⟩
  | .close name =>
    match find host.invokers name with
    | .error name => host.refuse name
    | .ok p =>
      let (s, events) := p.close host.holdings
      ⟨{ host with invokers := host.invokers.erase name, holdings := s }, events, .done⟩
  | .invoke name request result =>
    match find host.invokers name, host.arguments request with
    | .error name, _ => host.refuse name
    | .ok _, .error name => host.refuse name
    | .ok p, .ok ⟨o, args⟩ => host.stepInvoke p o args result
  | .make content holds shown result =>
    match host.findAll holds with
    | .error name => host.refuse name
    | .ok held =>
      let (h, s) := (host.holdings.retainAll held).addFragment .inProcess content held shown
      host.answerHandle result h s []
  | .describe handle =>
    match find host.handles handle with
    | .error name => host.refuse name
    | .ok h => ⟨host, [], .handle h⟩
  | .clone handle result =>
    match find host.handles handle with
    | .error name => host.refuse name
    | .ok h => host.answerHandle result h (host.holdings.retain h) []
  | .takeInner handle result =>
    match find host.handles handle with
    | .error name => host.refuse name
    | .ok h =>
      match h.inner? with
      | none => ⟨host, [], .noHandle⟩
      | some inner => host.answerHandle result inner (host.holdings.retain inner) []
  | .drop handle =>
    match find host.handles handle with
    | .error name => host.refuse name
    | .ok h =>
      let (s, events) := host.holdings.drop h
      ⟨{ host with handles := host.handles.erase handle, holdings := s }, events, .done⟩
  | .unstash place =>
    match host.holdings.stash[place]? with
    | none => ⟨host, [], .noHandle⟩
    | some h =>
      let (s, events) := (host.holdings.unstash place).drop h
      ⟨{ host with holdings := s }, events, .done⟩

def run (host : Host b) : List Action → Host b × List (List Event × Reply b)
  | [] => (host, [])
  | action :: rest =>
    let outcome := host.step action
    let (last, steps) := outcome.state.run rest
    (last, (outcome.events, outcome.answer) :: steps)

/-- All invokers go away, in the order of their names, then all handles. -/
def shutDown (host : Host b) : Host b × List Event :=
  let actions := host.invokers.keys.map .close ++ host.handles.keys.map .drop
  let (last, steps) := host.run actions
  (last, steps.flatMap (·.1))

end Host

end GraphPlugin
