import GraphPlugin.Host

/-! What an initialisation, an operation and a step of a host can lead to, one case for each. Proofs
about invokers and hosts go by these cases and leave the functions closed. -/
namespace GraphPlugin

variable {b : Build}

namespace Library

theorem checkVersion_ok {l : Library} {report : VersionReport} (tag : Tag) (path : String)
    (found : l.resolve .version = .ok report) :
    l.checkVersion tag path =
      ([.resolving tag EntryPoint.version.symbol, .calling (some tag) report.label .version],
        if Version.current.compatible report.version then .ok ()
        else .error (.incompatible path Version.current report.version)) := by
  unfold checkVersion
  rw [found]

theorem checkVersion_error {l : Library} {cause : Cause} (tag : Tag) (path : String)
    (missing : l.resolve .version = .error cause) :
    l.checkVersion tag path =
      ([.resolving tag EntryPoint.version.symbol, .log (.versionUnchecked path)], .ok ()) := by
  unfold checkVersion
  rw [missing]

theorem bindAll_cons_error {l : Library} {o : Operation} {cause : Cause} (tag : Tag)
    (path : String) (rest : List Operation) (missing : l.resolve o.entryPoint = .error cause) :
    l.bindAll tag path (o :: rest) =
      ([.resolving tag o.symbol], .error (.missingSymbol o.symbol path cause)) := by
  rw [bindAll, missing]

theorem bindAll_cons_ok {l : Library} {o : Operation} {entry : Entry o.shape} (tag : Tag)
    (path : String) (rest : List Operation) (found : l.resolve o.entryPoint = .ok entry) :
    l.bindAll tag path (o :: rest) =
      (.resolving tag o.symbol :: (l.bindAll tag path rest).1,
        (l.bindAll tag path rest).2.map (.cons entry)) := by
  rw [bindAll, found]

theorem bind_of_rejected {l : Library} {tag : Tag} {path : String} {events : List Event}
    {error : InvokerError} (ops : List Operation)
    (rejected : l.checkVersion tag path = (events, .error error)) :
    l.bind tag path ops = (events, .error error) := by
  unfold bind
  rw [rejected]

theorem bind_of_passed {l : Library} {tag : Tag} {path : String} {events : List Event}
    (ops : List Operation) (passed : l.checkVersion tag path = (events, .ok ())) :
    l.bind tag path ops = (events ++ (l.bindAll tag path ops).1, (l.bindAll tag path ops).2) := by
  unfold bind
  rw [passed]

end Library

namespace Invoker

def attempt (p : Invoker b) : List Event :=
  [.log (.initialising p.id p.path b.requiredSymbols), .opening p.loader.origin p.path]

def nextTag (p : Invoker b) (s : Holdings) : Tag := s.libraries.next p.loader.origin

variable {p : Invoker b} {s : Holdings}

theorem init_again (started : p.status ≠ .unready) :
    p.init s = ⟨(p, s), [], .error (p.wrongState .unready)⟩ := by
  unfold init
  cases status : p.status with
  | unready => contradiction
  | ready bindings library => rfl
  | failed => rfl

theorem init_unopened {cause : Cause} (unready : p.status = .unready)
    (unopened : p.loader.openAt p.path = .error cause) :
    p.init s = ⟨({ p with status := .failed }, s),
      p.attempt ++ [.log (.notLoaded p.id (.cannotOpen p.path cause))],
      .error (.cannotOpen p.path cause)⟩ := by
  unfold init
  rw [unready, unopened]
  rfl

theorem init_unbound {l : Library} {events : List Event} {error : InvokerError}
    (unready : p.status = .unready) (opened : p.loader.openAt p.path = .ok l)
    (bound : l.bind (p.nextTag s) p.path b.operations = (events, .error error)) :
    p.init s = ⟨({ p with status := .failed }, (s.addLibrary p.loader.origin).2),
      p.attempt ++ events ++ [.released (p.nextTag s), .log (.notLoaded p.id error)],
      .error error⟩ := by
  unfold nextTag at bound
  unfold init
  simp only [unready, opened, Holdings.addLibrary, bound]
  rfl

theorem init_bound {l : Library} {events : List Event} {bindings : Bindings b.operations}
    (unready : p.status = .unready) (opened : p.loader.openAt p.path = .ok l)
    (bound : l.bind (p.nextTag s) p.path b.operations = (events, .ok bindings)) :
    p.init s = ⟨({ p with status := .ready bindings (p.nextTag s) },
        (s.addLibrary p.loader.origin).2.share (p.nextTag s) p.unloadOnDrop),
      p.attempt ++ events ++ [.log (.loaded p.id p.path)], .ok ()⟩ := by
  unfold nextTag at bound
  unfold init
  simp only [unready, opened, Holdings.addLibrary, bound]
  rfl

inductive Inits (p : Invoker b) (s : Holdings) :
    Outcome (Invoker b × Holdings) (Except InvokerError Unit) → Prop
  | again : p.status ≠ .unready → Inits p s ⟨(p, s), [], .error (p.wrongState .unready)⟩
  | unopened {cause : Cause} : p.status = .unready → p.loader.openAt p.path = .error cause →
      Inits p s ⟨({ p with status := .failed }, s),
        p.attempt ++ [.log (.notLoaded p.id (.cannotOpen p.path cause))],
        .error (.cannotOpen p.path cause)⟩
  | unbound {l : Library} {events : List Event} {error : InvokerError} :
      p.status = .unready → p.loader.openAt p.path = .ok l →
      l.bind (p.nextTag s) p.path b.operations = (events, .error error) →
      Inits p s ⟨({ p with status := .failed }, (s.addLibrary p.loader.origin).2),
        p.attempt ++ events ++ [.released (p.nextTag s), .log (.notLoaded p.id error)],
        .error error⟩
  | served {l : Library} {events : List Event} {bindings : Bindings b.operations} :
      p.status = .unready → p.loader.openAt p.path = .ok l →
      l.bind (p.nextTag s) p.path b.operations = (events, .ok bindings) →
      Inits p s ⟨({ p with status := .ready bindings (p.nextTag s) },
          (s.addLibrary p.loader.origin).2.share (p.nextTag s) p.unloadOnDrop),
        p.attempt ++ events ++ [.log (.loaded p.id p.path)], .ok ()⟩

theorem init_cases (p : Invoker b) (s : Holdings) : p.Inits s (p.init s) := by
  cases status : p.status with
  | unready =>
    cases opened : p.loader.openAt p.path with
    | error cause =>
      rw [init_unopened status opened]
      exact .unopened status opened
    | ok l =>
      cases bound : l.bind (p.nextTag s) p.path b.operations with
      | mk events result =>
        cases result with
        | error error =>
          rw [init_unbound status opened bound]
          exact .unbound status opened bound
        | ok bindings =>
          rw [init_bound status opened bound]
          exact .served status opened bound
  | ready bindings library =>
    unfold init
    rw [status]
    exact .again (by simp [status])
  | failed =>
    unfold init
    rw [status]
    exact .again (by simp [status])

def Named (o : Operation) (args : Arguments o.shape) : Prop :=
  o.isConversion = true ∨ args.name ≠ ""

def forwarding (p : Invoker b) (library : Tag) {o : Operation} (entry : Entry o.shape)
    (args : Arguments o.shape) : List Event :=
  [.log (.forwarding p.id o.symbol args.name),
    .calling (some library) entry.label (.operation o.shape args.unwrapped)]

section Invocation

variable {bindings : Bindings b.operations} {library : Tag} {o : Operation}
  {args : Arguments o.shape}

theorem named_iff : Named o args ↔ ¬ (o.isConversion = false ∧ args.name = "") := by
  unfold Named
  cases o.isConversion <;> simp

theorem invoke_refused {error : BackendError} (ready : p.status = .ready bindings library)
    (offered : o ∈ b.operations) (named : Named o args)
    (refused : (bindings o offered).run s.calls s.stash args.unwrapped = .error error) :
    p.invoke s o args = ⟨s.called, p.forwarding library (bindings o offered) args,
      .error (.backend o.symbol error)⟩ := by
  unfold invoke
  simp only [dif_pos offered, ready, if_neg (named_iff.1 named), refused]
  rfl

theorem invoke_done {response : Response (args.unwrapped.known s.stash)}
    (ready : p.status = .ready bindings library)
    (offered : o ∈ b.operations) (named : Named o args)
    (done : (bindings o offered).run s.calls s.stash args.unwrapped = .ok response) :
    p.invoke s o args = ⟨(s.called.adopt library response).2,
      p.forwarding library (bindings o offered) args, .ok (s.called.adopt library response).1⟩ := by
  unfold invoke
  simp only [dif_pos offered, ready, if_neg (named_iff.1 named), done]
  rfl

theorem invoke_unnamed (ready : p.status = .ready bindings library) (offered : o ∈ b.operations)
    (unnamed : ¬ Named o args) :
    p.invoke s o args = ⟨s, [], .error (.badArgument o.symbol emptyName)⟩ := by
  unfold invoke
  simp only [dif_pos offered, ready, if_pos (Classical.not_not.1 (mt named_iff.2 unnamed))]

theorem invoke_notReady (offered : o ∈ b.operations) (idle : p.library? = none) :
    p.invoke s o args = ⟨s, [], .error (p.wrongState .ready)⟩ := by
  unfold invoke
  rw [dif_pos offered]
  unfold library? at idle
  cases status : p.status with
  | unready => rfl
  | ready bindings library => simp [status] at idle
  | failed => rfl

theorem invoke_leftOut (out : o ∉ b.operations) :
    p.invoke s o args = ⟨s, [.log (.conversionRejected p.id o.symbol)],
      .error (.unsupported o.symbol conversionsLeftOut)⟩ :=
  dif_neg out

end Invocation

inductive Invokes (p : Invoker b) (s : Holdings) (o : Operation) (args : Arguments o.shape) :
    Outcome Holdings (Except InvokerError Handle) → Prop
  | leftOut : o ∉ b.operations →
      Invokes p s o args ⟨s, [.log (.conversionRejected p.id o.symbol)],
        .error (.unsupported o.symbol conversionsLeftOut)⟩
  | notReady : o ∈ b.operations → p.library? = none →
      Invokes p s o args ⟨s, [], .error (p.wrongState .ready)⟩
  | unnamed {bindings : Bindings b.operations} {library : Tag} : o ∈ b.operations →
      p.status = .ready bindings library → ¬ Named o args →
      Invokes p s o args ⟨s, [], .error (.badArgument o.symbol emptyName)⟩
  | refused {bindings : Bindings b.operations} {library : Tag} {error : BackendError}
      (offered : o ∈ b.operations) : p.status = .ready bindings library → Named o args →
      (bindings o offered).run s.calls s.stash args.unwrapped = .error error →
      Invokes p s o args ⟨s.called, p.forwarding library (bindings o offered) args,
        .error (.backend o.symbol error)⟩
  | done {bindings : Bindings b.operations} {library : Tag}
      {response : Response (args.unwrapped.known s.stash)}
      (offered : o ∈ b.operations) : p.status = .ready bindings library → Named o args →
      (bindings o offered).run s.calls s.stash args.unwrapped = .ok response →
      Invokes p s o args ⟨(s.called.adopt library response).2,
        p.forwarding library (bindings o offered) args, .ok (s.called.adopt library response).1⟩

theorem invoke_cases (p : Invoker b) (s : Holdings) (o : Operation) (args : Arguments o.shape) :
    p.Invokes s o args (p.invoke s o args) := by
  by_cases offered : o ∈ b.operations
  · have notReady (idle : p.library? = none) : p.Invokes s o args (p.invoke s o args) := by
      rw [invoke_notReady offered idle]
      exact .notReady offered idle
    cases status : p.status with
    | unready => exact notReady (by simp [library?, status])
    | failed => exact notReady (by simp [library?, status])
    | ready bindings library =>
      by_cases named : Named o args
      · cases result : (bindings o offered).run s.calls s.stash args.unwrapped with
        | error error =>
          rw [invoke_refused status offered named result]
          exact .refused offered status named result
        | ok response =>
          rw [invoke_done status offered named result]
          exact .done offered status named result
      · rw [invoke_unnamed status offered named]
        exact .unnamed offered status named
  · rw [invoke_leftOut offered]
    exact .leftOut offered

end Invoker

namespace Host

theorem find_eq_ok_iff {α : Type} (named : Keyed α) (name : String) (value : α) :
    find named name = .ok value ↔ named.get? name = some value := by
  unfold find
  cases named.get? name <;> simp

theorem findAll_eq_ok_iff (host : Host b) (names : List String) (held : List Handle) :
    host.findAll names = .ok held ↔ names.map host.handles.get? = held.map some := by
  induction names generalizing held with
  | nil => cases held <;> simp [findAll]
  | cons name rest ih =>
    have first := find_eq_ok_iff host.handles name
    cases found : find host.handles name with
    | error missing =>
      have none : ∀ h, host.handles.get? name ≠ some h := fun h there => by
        simp [(first h).2 there] at found
      cases held <;> simp [findAll, found, none]
    | ok h =>
      have here := (first h).1 found
      cases others : host.findAll rest with
      | error missing =>
        have none : ∀ hs : List Handle, rest.map host.handles.get? ≠ hs.map some :=
          fun hs there => by
          simp [(ih hs).2 there] at others
        cases held <;> simp [findAll, found, others, none]
      | ok hs =>
        have there := (ih hs).1 others
        cases held <;> simp [findAll, found, others, here, there, List.map_inj_right]

theorem named_of_findAll {host : Host b} {names : List String} {held : List Handle}
    (found : host.findAll names = .ok held) {h : Handle} (hh : h ∈ held) :
    ∃ name, host.handles.get? name = some h := by
  have all := (findAll_eq_ok_iff host names held).1 found
  have there : some h ∈ names.map host.handles.get? := all ▸ List.mem_map_of_mem hh
  obtain ⟨name, -, here⟩ := List.mem_map.1 there
  exact ⟨name, here⟩

theorem map_eq_ok_iff {α β : Type} {f : α → β} {found : Except String α} {value : β} :
    found.map f = .ok value ↔ ∃ a, found = .ok a ∧ f a = value := by
  cases found <;> simp [Except.map]

def Denotes (host : Host b) (id : ObjectId) : ObjectId ⊕ String → Prop
  | .inl given => given = id
  | .inr name => ∃ h, host.handles.get? name = some h ∧ h.objectId = id

/-- The operation that a request is for, with its arguments: a source is given by its name. -/
inductive Calls (host : Host b) : Request → (o : Operation) → Arguments o.shape → Prop
  | loadGraph {comm client name params} :
      Calls host (.loadGraph comm client name params) .loadGraph (.load comm client name params)
  | addVertices {target id comm client name params} : host.Denotes id target →
      Calls host (.addVertices target comm client name params) .addVertices
        (.extend id comm client name params)
  | addEdges {target id comm client name params} : host.Denotes id target →
      Calls host (.addEdges target comm client name params) .addEdges
        (.extend id comm client name params)
  | toArrow {client comm source h name} : host.handles.get? source = some h →
      Calls host (.toArrow client comm source name) .toArrow (.toArrow client comm h name)
  | toDynamic {comm source h name} : host.handles.get? source = some h →
      Calls host (.toDynamic comm source name) .toDynamic (.toDynamic comm h name)

variable {host : Host b}

theorem Calls.source_named {request : Request} {o : Operation} {args : Arguments o.shape}
    (calls : host.Calls request o args) {h : Handle} (given : args.source? = some h) :
    ∃ name, host.handles.get? name = some h := by
  cases calls with
  | loadGraph => cases given
  | addVertices _ => cases given
  | addEdges _ => cases given
  | toArrow found =>
    cases given
    exact ⟨_, found⟩
  | toDynamic found =>
    cases given
    exact ⟨_, found⟩

theorem target_eq_ok_iff {id : ObjectId} {target : ObjectId ⊕ String} :
    host.target target = .ok id ↔ host.Denotes id target := by
  cases target with
  | inl given => simp [Host.target, Denotes]
  | inr name => simp [Host.target, Denotes, map_eq_ok_iff, find_eq_ok_iff]

theorem arguments_eq_ok_iff {request : Request} {o : Operation} {args : Arguments o.shape} :
    host.arguments request = .ok ⟨o, args⟩ ↔ host.Calls request o args := by
  constructor
  · intro asked
    cases request with
    | loadGraph comm client name params =>
      cases asked
      exact .loadGraph
    | addVertices target comm client name params =>
      obtain ⟨id, found, same⟩ := map_eq_ok_iff.1 asked
      cases same
      exact .addVertices (target_eq_ok_iff.1 found)
    | addEdges target comm client name params =>
      obtain ⟨id, found, same⟩ := map_eq_ok_iff.1 asked
      cases same
      exact .addEdges (target_eq_ok_iff.1 found)
    | toArrow client comm source name =>
      obtain ⟨h, found, same⟩ := map_eq_ok_iff.1 asked
      cases same
      exact .toArrow ((find_eq_ok_iff _ _ _).1 found)
    | toDynamic comm source name =>
      obtain ⟨h, found, same⟩ := map_eq_ok_iff.1 asked
      cases same
      exact .toDynamic ((find_eq_ok_iff _ _ _).1 found)
  · intro calls
    cases calls with
    | loadGraph => rfl
    | addVertices denotes =>
      exact map_eq_ok_iff.2 ⟨_, target_eq_ok_iff.2 denotes, rfl⟩
    | addEdges denotes =>
      exact map_eq_ok_iff.2 ⟨_, target_eq_ok_iff.2 denotes, rfl⟩
    | toArrow found =>
      exact map_eq_ok_iff.2 ⟨_, (find_eq_ok_iff _ _ _).2 found, rfl⟩
    | toDynamic found =>
      exact map_eq_ok_iff.2 ⟨_, (find_eq_ok_iff _ _ _).2 found, rfl⟩

inductive Steps (host : Host b) : Action → Outcome (Host b) (Reply b) → Prop
  | refused {action name} : Steps host action (host.refuse name)
  | created {name id path loader unload} {p : Invoker b} :
      p = { id, path, loader, unloadOnDrop := unload.getD true } →
      Steps host (.create name id path loader unload)
        ⟨(host.keepInvoker name p).1, (host.keepInvoker name p).2, .invoker p⟩
  | policySet {name unload p} : host.invokers.get? name = some p →
      Steps host (.setUnloadOnDrop name unload)
        ⟨{ host with invokers := host.invokers.insert name (p.setUnloadOnDrop unload) }, [],
          .invoker (p.setUnloadOnDrop unload)⟩
  | initialised {name p} : host.invokers.get? name = some p →
      Steps host (.init name) (host.stepInit name p)
  | inspected {name p} : Steps host (.inspect name) ⟨host, [], .invoker p⟩
  | closed {name p} : host.invokers.get? name = some p →
      Steps host (.close name)
        ⟨{ host with
            invokers := host.invokers.erase name, holdings := (p.close host.holdings).1 },
          (p.close host.holdings).2, .done⟩
  | invoked {name request result o args} {p : Invoker b} : host.invokers.get? name = some p →
      host.arguments request = .ok ⟨o, args⟩ →
      Steps host (.invoke name request result) (host.stepInvoke p o args result)
  | made {content holds shown result held} : host.findAll holds = .ok held →
      Steps host (.make content holds shown result)
        (host.answerHandle result
          ((host.holdings.retainAll held).addFragment .inProcess content held shown).1
          ((host.holdings.retainAll held).addFragment .inProcess content held shown).2 [])
  | described {handle h} : Steps host (.describe handle) ⟨host, [], .handle h⟩
  | cloned {handle result h} : host.handles.get? handle = some h →
      Steps host (.clone handle result)
        (host.answerHandle result h (host.holdings.retain h) [])
  | hollow {handle result} : Steps host (.takeInner handle result) ⟨host, [], .noHandle⟩
  | taken {handle result h inner} : host.handles.get? handle = some h →
      h.inner? = some inner →
      Steps host (.takeInner handle result)
        (host.answerHandle result inner (host.holdings.retain inner) [])
  | dropped {handle h} : host.handles.get? handle = some h →
      Steps host (.drop handle)
        ⟨{ host with handles := host.handles.erase handle, holdings := (host.holdings.drop h).1 },
          (host.holdings.drop h).2, .done⟩
  | absent {place} : Steps host (.unstash place) ⟨host, [], .noHandle⟩
  | unstashed {place h} : host.holdings.stash[place]? = some h →
      Steps host (.unstash place)
        ⟨{ host with holdings := ((host.holdings.unstash place).drop h).1 },
          ((host.holdings.unstash place).drop h).2, .done⟩

theorem step_cases (host : Host b) (action : Action) : host.Steps action (host.step action) := by
  cases action with
  | create name id path loader unload => exact .created rfl
  | setUnloadOnDrop name unload =>
    rw [step]
    cases found : find host.invokers name with
    | error name => exact .refused
    | ok p => exact .policySet ((find_eq_ok_iff _ _ _).1 found)
  | init name =>
    rw [step]
    cases found : find host.invokers name with
    | error name => exact .refused
    | ok p => exact .initialised ((find_eq_ok_iff _ _ _).1 found)
  | inspect name =>
    rw [step]
    cases found : find host.invokers name with
    | error name => exact .refused
    | ok p => exact .inspected
  | close name =>
    rw [step]
    cases found : find host.invokers name with
    | error name => exact .refused
    | ok p => exact .closed ((find_eq_ok_iff _ _ _).1 found)
  | invoke name request result =>
    rw [step]
    cases found : find host.invokers name with
    | error name => exact .refused
    | ok p =>
      cases asked : host.arguments request with
      | error name => exact .refused
      | ok call => exact .invoked ((find_eq_ok_iff _ _ _).1 found) asked
  | make content holds shown result =>
    rw [step]
    cases found : host.findAll holds with
    | error name => exact .refused
    | ok held => exact .made found
  | describe handle =>
    rw [step]
    cases found : find host.handles handle with
    | error name => exact .refused
    | ok h => exact .described
  | clone handle result =>
    rw [step]
    cases found : find host.handles handle with
    | error name => exact .refused
    | ok h => exact .cloned ((find_eq_ok_iff _ _ _).1 found)
  | takeInner handle result =>
    rw [step]
    cases found : find host.handles handle with
    | error name => exact .refused
    | ok h =>
      cases inside : h.inner? with
      | none => simpa only [inside] using .hollow
      | some inner =>
        simpa only [inside] using .taken ((find_eq_ok_iff _ _ _).1 found) inside
  | drop handle =>
    rw [step]
    cases found : find host.handles handle with
    | error name => exact .refused
    | ok h => exact .dropped ((find_eq_ok_iff _ _ _).1 found)
  | unstash place =>
    cases kept : host.holdings.stash[place]? with
    | none =>
      simp only [step, kept]
      exact .absent
    | some h =>
      simp only [step, kept]
      exact .unstashed kept

end Host

end GraphPlugin
