import GraphPlugin.Backend.SharedObject
import GraphPlugin.Proofs.Lookalikes

/-! What can be seen of a library. Two runs of the same steps whose invokers get libraries that
resolve the symbols of the build alike answer the same, come to the same states, and show the same
calls and logs. What else a library exports, which kind of loader it came from and how its table was
filled cannot be told. -/
namespace GraphPlugin

variable {b : Build}

/-- The same action, or one that gives an invoker a loader of any kind that cannot be told from its
own. -/
inductive Action.Lookalike (b : Build) : Action → Action → Prop
  | same {action : Action} :
      (∀ name id path loader unload, action ≠ .create name id path loader unload) →
      Lookalike b action action
  | create {name id path : String} {loader other : Loader} {unload : Option Bool} :
      Loader.Same .renamed b path loader other →
      Lookalike b (.create name id path loader unload) (.create name id path other unload)

/-- The same answer, but for identities. -/
inductive Reply.Lookalike : Reply b → Reply b → Prop
  | done : Lookalike .done .done
  | invoker {p q : Invoker b} : p.Lookalike q → Lookalike (.invoker p) (.invoker q)
  | initialised (state : Lifecycle) (result : Except InvokerError Unit) :
      Lookalike (.initialised state result) (.initialised state result)
  | handle {h k : Handle} : h.Renamed k → Lookalike (.handle h) (.handle k)
  | noHandle : Lookalike .noHandle .noHandle
  | refused (error : InvokerError) : Lookalike (.refused error) (.refused error)
  | unknown (name : String) : Lookalike (.unknown name) (.unknown name)

namespace Host

variable {host other : Host b} {action again : Action} {actions others : List Action}

structure Lookalike (host other : Host b) : Prop where
  invokers : ∀ name, Option.Rel Invoker.Lookalike (host.invokers.get? name)
    (other.invokers.get? name)
  handles : ∀ name, Option.Rel Handle.Renamed (host.handles.get? name) (other.handles.get? name)
  holdings : host.holdings.Lookalike other.holdings

structure StepAlike (first second : Outcome (Host b) (Reply b)) : Prop where
  state : first.state.Lookalike second.state
  answer : first.answer.Lookalike second.answer
  events : ShowAlike first.events second.events

theorem start_lookalike (b : Build) : (start b).Lookalike (start b) :=
  ⟨fun _ => .none, fun _ => .none, rfl, .nil⟩

section Named

variable {α : Type} {same : α → α → Prop} {named others : Keyed α}

theorem find_related {name : String}
    (related : Option.Rel same (named.get? name) (others.get? name)) :
    (∃ x y, find named name = .ok x ∧ find others name = .ok y ∧ same x y) ∨
      find named name = .error name ∧ find others name = .error name := by
  unfold find
  generalize named.get? name = found, others.get? name = there at related ⊢
  cases related with
  | none => exact .inr ⟨rfl, rfl⟩
  | some pair => exact .inl ⟨_, _, rfl, rfl, pair⟩

end Named

theorem refuse_alike (alike : host.Lookalike other) (name : String) :
    StepAlike (host.refuse name) (other.refuse name) := ⟨alike, .unknown name, .of_renamed .nil⟩

theorem withInvoker_alike (alike : host.Lookalike other) (name : String)
    {first second : Invoker b → Outcome (Host b) (Reply b)}
    (each : ∀ p q, p.Lookalike q → StepAlike (first p) (second q)) :
    StepAlike
      (match find host.invokers name with
      | .error name => host.refuse name
      | .ok p => first p)
      (match find other.invokers name with
      | .error name => other.refuse name
      | .ok q => second q) := by
  rcases find_related (alike.invokers name) with ⟨p, q, found, there, same⟩ | ⟨missing, absent⟩
  · rw [found, there]
    exact each p q same
  · rw [missing, absent]
    exact refuse_alike alike name

theorem withHandle_alike (alike : host.Lookalike other) (name : String)
    {first second : Handle → Outcome (Host b) (Reply b)}
    (each : ∀ h k, h.Renamed k → StepAlike (first h) (second k)) :
    StepAlike
      (match find host.handles name with
      | .error name => host.refuse name
      | .ok h => first h)
      (match find other.handles name with
      | .error name => other.refuse name
      | .ok k => second k) := by
  rcases find_related (alike.handles name) with ⟨h, k, found, there, renamed⟩ | ⟨missing, absent⟩
  · rw [found, there]
    exact each h k renamed
  · rw [missing, absent]
    exact refuse_alike alike name

theorem close_same (p : Invoker b) (s : Holdings) :
    (p.close s).1.calls = s.calls ∧ (p.close s).1.stash = s.stash := by
  obtain ⟨shares, same⟩ := close_fst p s
  rw [same]
  exact ⟨rfl, rfl⟩

theorem keepInvoker_same (host : Host b) (name : String) (p : Invoker b) :
    (host.keepInvoker name p).1.holdings.calls = host.holdings.calls ∧
      (host.keepInvoker name p).1.holdings.stash = host.holdings.stash := by
  obtain ⟨shares, kept⟩ := host.holdings_keepInvoker name p
  rw [kept]
  exact ⟨rfl, rfl⟩

theorem drop_same (s : Holdings) (h : Handle) :
    (s.drop h).1.calls = s.calls ∧ (s.drop h).1.stash = s.stash := by
  obtain ⟨_, _, kept⟩ := s.drop_fst h
  rw [kept]
  exact ⟨rfl, rfl⟩

theorem answerHandle_same (host : Host b) (result : String) (h : Handle) (s : Holdings)
    (events : List Event) :
    (host.answerHandle result h s events).state.holdings.calls = s.calls ∧
      (host.answerHandle result h s events).state.holdings.stash = s.stash := by
  obtain ⟨_, _, kept⟩ := host.holdings_answerHandle result h s events
  rw [kept]
  exact ⟨rfl, rfl⟩

theorem create_alike (alike : host.Lookalike other) (name id path : String) {loader again : Loader}
    (unload : Option Bool) (loaders : Loader.Same .renamed b path loader again) :
    StepAlike (host.step (.create name id path loader unload))
      (other.step (.create name id path again unload)) := by
  let p : Invoker b := { id, path, loader, unloadOnDrop := unload.getD true }
  let q : Invoker b := { id, path, loader := again, unloadOnDrop := unload.getD true }
  have same : p.Lookalike q := ⟨rfl, rfl, loaders, rfl, .unready⟩
  refine ⟨⟨fun key => ?_, fun key => ?_, ?_⟩, .invoker same, ?_⟩
  · show Option.Rel _ ((host.keepInvoker name p).1.invokers.get? key)
      ((other.keepInvoker name q).1.invokers.get? key)
    rw [invokers_keepInvoker, invokers_keepInvoker]
    exact Keyed.rel_insert alike.invokers name same key
  · show Option.Rel _ ((host.keepInvoker name p).1.handles.get? key)
      ((other.keepInvoker name q).1.handles.get? key)
    rw [handles_keepInvoker, handles_keepInvoker]
    exact alike.handles key
  · exact alike.holdings.of_same (host.keepInvoker_same name p) (other.keepInvoker_same name q)
  · exact .of_loud (keepInvoker_not_quiet name p) (keepInvoker_not_quiet name q)

theorem answerHandle_alike (alike : host.Lookalike other) {s t : Holdings}
    (holdings : s.Lookalike t) (result : String) {h k : Handle} (renamed : h.Renamed k)
    {events more : List Event} (shown : ShowAlike events more) :
    StepAlike (host.answerHandle result h s events) (other.answerHandle result k t more) := by
  obtain ⟨drops, first, loud⟩ := host.answerHandle_events result h s events
  obtain ⟨drops', second, loud'⟩ := other.answerHandle_events result k t more
  refine ⟨⟨fun key => ?_, fun key => ?_, ?_⟩, .handle renamed, ?_⟩
  · rw [invokers_answerHandle, invokers_answerHandle]
    exact alike.invokers key
  · rw [handles_answerHandle, handles_answerHandle]
    exact Keyed.rel_insert alike.handles result renamed key
  · exact holdings.of_same (host.answerHandle_same result h s events)
      (other.answerHandle_same result k t more)
  · rw [first, second]
    exact shown.append (.of_loud loud loud')

theorem init_alike (alike : host.Lookalike other) (name : String) :
    StepAlike (host.step (.init name)) (other.step (.init name)) := by
  refine withInvoker_alike alike name fun p q same => ?_
  have init := same.init alike.holdings
  refine ⟨⟨Keyed.rel_insert alike.invokers name init.invokers, alike.handles, init.holdings⟩, ?_,
    init.events⟩
  show Reply.Lookalike (.initialised _ _) (.initialised _ _)
  rw [init.answer, init.invokers.state]
  exact .initialised _ _

inductive CallRenamed : (o : Operation) × Arguments o.shape → (o : Operation) × Arguments o.shape →
    Prop
  | mk {o : Operation} {args again : Arguments o.shape} : args.Same .renamed again →
      CallRenamed ⟨o, args⟩ ⟨o, again⟩

theorem target_alike (alike : host.Lookalike other) (target : ObjectId ⊕ String) :
    other.target target = host.target target := by
  cases target with
  | inl id => rfl
  | inr name =>
    rcases find_related (alike.handles name) with ⟨h, k, found, there, renamed⟩ | ⟨missing, absent⟩
    · simp only [Host.target, found, there, Except.map, Handle.objectId, renamed.content]
    · simp only [Host.target, missing, absent]

theorem arguments_alike (alike : host.Lookalike other) (request : Request) :
    Agree CallRenamed (host.arguments request) (other.arguments request) := by
  cases request with
  | loadGraph comm client name params => exact .ok (.mk .load)
  | addVertices target comm client name params =>
    simp only [arguments, target_alike alike]
    cases host.target target with
    | error missing => exact .error missing
    | ok id => exact .ok (.mk .extend)
  | addEdges target comm client name params =>
    simp only [arguments, target_alike alike]
    cases host.target target with
    | error missing => exact .error missing
    | ok id => exact .ok (.mk .extend)
  | toArrow client comm source name =>
    rcases find_related (alike.handles source) with
      ⟨h, k, found, there, renamed⟩ | ⟨missing, absent⟩
    · simp only [arguments, found, there]
      exact .ok (.mk (.toArrow renamed))
    · simp only [arguments, missing, absent]
      exact .error source
  | toDynamic comm source name =>
    rcases find_related (alike.handles source) with
      ⟨h, k, found, there, renamed⟩ | ⟨missing, absent⟩
    · simp only [arguments, found, there]
      exact .ok (.mk (.toDynamic renamed))
    · simp only [arguments, missing, absent]
      exact .error source

theorem stepInvoke_alike (alike : host.Lookalike other) {p q : Invoker b} (same : p.Lookalike q)
    {o : Operation} {args again : Arguments o.shape} (renamed : args.Same .renamed again)
    (result : String) :
    StepAlike (host.stepInvoke p o args result) (other.stepInvoke q o again result) := by
  have invoked := same.invoke alike.holdings renamed
  unfold stepInvoke
  generalize p.invoke host.holdings o args = first, q.invoke other.holdings o again = second
    at invoked ⊢
  obtain ⟨s, events, answer⟩ := first
  obtain ⟨t, more, answer'⟩ := second
  obtain ⟨holdings, shown, answers⟩ := invoked
  cases answers with
  | error error => exact ⟨⟨alike.invokers, alike.handles, holdings⟩, .refused error, shown⟩
  | ok handles => exact answerHandle_alike alike holdings result handles shown

theorem invoke_alike (alike : host.Lookalike other) (name result : String) (request : Request) :
    StepAlike (host.step (.invoke name request result))
      (other.step (.invoke name request result)) := by
  rcases find_related (alike.invokers name) with ⟨p, q, found, there, same⟩ | ⟨missing, absent⟩
  · have asked := arguments_alike alike request
    simp only [step, found, there]
    generalize host.arguments request = call, other.arguments request = again at asked
    cases asked with
    | error missing => exact refuse_alike alike missing
    | ok calls =>
      cases calls with
      | mk renamed => exact stepInvoke_alike alike same renamed result
  · simp only [step, missing, absent]
    exact refuse_alike alike name

theorem findAll_alike (alike : host.Lookalike other) (names : List String) :
    Agree (List.Forall₂ Handle.Renamed) (host.findAll names) (other.findAll names) := by
  induction names with
  | nil => exact .ok .nil
  | cons name rest ih =>
    unfold findAll
    rcases find_related (alike.handles name) with ⟨h, k, found, there, renamed⟩ | ⟨missing, absent⟩
    · rw [found, there]
      generalize host.findAll rest = first, other.findAll rest = second at ih
      cases ih with
      | error name => exact .error name
      | ok others => exact .ok (.cons renamed others)
    · rw [missing, absent]
      exact .error name

theorem step_alike (alike : host.Lookalike other) (same : Action.Lookalike b action again) :
    StepAlike (host.step action) (other.step again) := by
  cases same with
  | create loaders => exact create_alike alike _ _ _ _ loaders
  | same uncreated =>
    cases action with
    | create name id path loader unload => exact absurd rfl (uncreated name id path loader unload)
    | setUnloadOnDrop name unload =>
      refine withInvoker_alike alike name fun p q same => ?_
      have set : (p.setUnloadOnDrop unload).Lookalike (q.setUnloadOnDrop unload) :=
        ⟨same.id, same.path, same.loader, rfl, same.status⟩
      exact ⟨⟨Keyed.rel_insert alike.invokers name set, alike.handles, alike.holdings⟩,
        .invoker set, .of_renamed .nil⟩
    | init name => exact init_alike alike name
    | inspect name =>
      exact withInvoker_alike alike name fun p q same => ⟨alike, .invoker same, .of_renamed .nil⟩
    | close name =>
      refine withInvoker_alike alike name fun p q same => ?_
      have holdings := alike.holdings.of_same (close_same p host.holdings)
        (close_same q other.holdings)
      exact ⟨⟨Keyed.rel_erase alike.invokers name, alike.handles, holdings⟩, .done,
        .of_loud (close_not_quiet _ _) (close_not_quiet _ _)⟩
    | invoke name request result => exact invoke_alike alike name result request
    | make content holds shown result =>
      have held := findAll_alike alike holds
      simp only [step]
      generalize host.findAll holds = first, other.findAll holds = second at held
      cases held with
      | error name => exact refuse_alike alike name
      | @ok held others related =>
        have made := (alike.holdings.retainAll held others).addFragment .inProcess content held
          others shown
        exact answerHandle_alike alike made result (.fragment related) (.of_renamed .nil)
    | describe handle =>
      exact withHandle_alike alike handle fun h k renamed =>
        ⟨alike, .handle renamed, .of_renamed .nil⟩
    | clone handle result =>
      refine withHandle_alike alike handle fun h k renamed => ?_
      exact answerHandle_alike alike (alike.holdings.retain h k) result renamed (.of_renamed .nil)
    | takeInner handle result =>
      refine withHandle_alike alike handle fun h k renamed => ?_
      have inside := renamed.inner?
      generalize h.inner? = inner, k.inner? = inner' at inside
      cases inside with
      | none => exact ⟨alike, .noHandle, .of_renamed .nil⟩
      | @some inner inner' within =>
        have retained := alike.holdings.retain inner inner'
        exact answerHandle_alike alike retained result within (.of_renamed .nil)
    | drop handle =>
      refine withHandle_alike alike handle fun h k renamed => ?_
      have holdings := alike.holdings.of_same (drop_same host.holdings h)
        (drop_same other.holdings k)
      exact ⟨⟨alike.invokers, Keyed.rel_erase alike.handles handle, holdings⟩, .done,
        .of_loud (Holdings.drop_not_quiet _ _) (Holdings.drop_not_quiet _ _)⟩
    | unstash place =>
      have kept := getElem?_related alike.holdings.stash place
      simp only [step]
      generalize host.holdings.stash[place]? = first, other.holdings.stash[place]? = second at kept
      cases kept with
      | none => exact ⟨alike, .noHandle, .of_renamed .nil⟩
      | @some h k _ =>
        have left : (host.holdings.unstash place).Lookalike (other.holdings.unstash place) :=
          ⟨alike.holdings.calls, eraseIdx_related alike.holdings.stash place⟩
        have holdings := left.of_same (drop_same _ h) (drop_same _ k)
        exact ⟨⟨alike.invokers, alike.handles, holdings⟩, .done,
          .of_loud (Holdings.drop_not_quiet _ _) (Holdings.drop_not_quiet _ _)⟩

def RunsRenamed (first second : List (List Event × Reply b)) : Prop :=
  List.Forall₂ (fun step again => step.2.Lookalike again.2 ∧ ShowAlike step.1 again.1) first second

theorem run_alike (alike : host.Lookalike other)
    (same : List.Forall₂ (Action.Lookalike b) actions others) :
    (host.after actions).Lookalike (other.after others) ∧
      RunsRenamed (host.run actions).2 (other.run others).2 := by
  induction same generalizing host other with
  | nil => exact ⟨alike, .nil⟩
  | cons first _ ih =>
    have step := step_alike alike first
    obtain ⟨last, steps⟩ := ih step.state
    exact ⟨last, .cons ⟨step.answer, step.events⟩ steps⟩

/-- Of its library an invoker sees the version and the symbols of its build. With loaders of one
kind, runs whose libraries agree in these are the same, and with loaders of any kind they are the
same but for identities, which tell nothing of what is in a fragment. Tables agree when the last
edits of these symbols do. -/
structure SeesOnlyBound (b : Build) : Prop where
  exact : ∀ actions others, List.Forall₂ (Action.Twin (.exports b)) actions others →
    ((start b).after actions).Twin (.exports b) ((start b).after others) ∧
      RunsTwin (.exports b) ((start b).run actions).2 ((start b).run others).2
  renamed : ∀ actions others, List.Forall₂ (Action.Lookalike b) actions others →
    ((start b).after actions).Lookalike ((start b).after others) ∧
      RunsRenamed ((start b).run actions).2 ((start b).run others).2
  states : ∀ p q : Invoker b, p.Twin (.exports b) q ∨ p.Lookalike q →
    q.state = p.state ∧ q.debug = p.debug
  contents : ∀ h k : Handle, h.Renamed k → k.content = h.content
  tables : ∀ (l k : TableLoader) path edits others openFailure failures,
    l.openAt path = .ok (SymbolTable.ofEdits edits) →
      k.openAt path = .ok (SymbolTable.ofEdits others) → SymbolTable.SameEdits b edits others →
        (Leeway.exports b).loaders path (l.toLoader openFailure failures)
          (k.toLoader openFailure failures)

theorem sees_only_bound (b : Build) : SeesOnlyBound b where
  exact _ _ same := run_exports (start_twin _ b b) same
  renamed _ _ same := run_alike (start_lookalike b) same
  states p q same := by
    rcases same with twin | alike
    · exact ⟨twin.state, twin.debug⟩
    · exact ⟨alike.state, alike.debug⟩
  contents _ _ renamed := renamed.content
  tables _ _ _ _ _ openFailure failures opened again same := by
    refine ⟨rfl, ?_⟩
    simp only [Loader.Same, TableLoader.toLoader, opened, again]
    cases openFailure with
    | some text => exact .error _
    | none => exact .ok (Library.same_of_edits same failures)

end Host

namespace SharedObject

theorem objectId_same (o : Operation) {args again : Arguments o.shape}
    (same : args.Same .renamed again) : objectId o again = objectId o args := by
  cases o with
  | loadGraph => cases same; rfl
  | addVertices => cases same; rfl
  | addEdges => cases same; rfl
  | toArrow =>
    cases same with
    | toArrow source => simp only [objectId, Handle.objectId, Handle.Renamed.content source]
  | toDynamic =>
    cases same with
    | toDynamic source => simp only [objectId, Handle.objectId, Handle.Renamed.content source]

theorem entry_same (o : Operation) : (backend.entry o).Same .renamed (backend.entry o) where
  label := rfl
  run moment stash kept args again _ same := by
    show SameAnswer .renamed (run o stash args) (run o kept again)
    unfold run
    rw [same.name, objectId_same o same]
    split
    · exact .refused _
    · exact .done ⟨.fragment .nil, .nil, rfl⟩

/-- A loader of the system that finds the object under every path, and says nothing of symbols that
it does not export. -/
def loader : Loader := ⟨.system, fun _ => .ok (library id)⟩

def table : Loader := .serving (Session.fullTable backend)

theorem loader_same (b : Build) : Loader.Same .renamed b "/lib" loader table := by
  have opened : table.openAt "/lib" =
      .ok ((Library.ofTable (Session.fullTable backend)).withFailures []) := rfl
  unfold Loader.Same
  rw [opened]
  refine .ok ⟨rfl, fun o _ => ?_⟩
  have exported : (library id).resolve o.entryPoint = .ok (backend.entry o) := by cases o <;> rfl
  have registered : ((Library.ofTable (Session.fullTable backend)).withFailures []).resolve
      o.entryPoint = .ok (backend.entry o) :=
    congrArg (Except.mapError Cause.lookup) (Session.resolve_fullTable backend o)
  rw [exported, registered]
  exact .ok (entry_same o)

end SharedObject

namespace Host

open SharedObject

def converted (loader : Loader) : List Action :=
  [.create "p" "plugin" "/lib" loader none, .init "p",
    .invoke "p" (.loadGraph .single ⟨"/store", 1⟩ "graph" .empty) "h",
    .invoke "p" (.toArrow ⟨"/store", 1⟩ .single "h" "arrow") "a", .inspect "p"]

theorem sees_only_bound_of_shared_object :
    ((start .experimental).after (converted SharedObject.loader)).handles.get? "a" ≠
        ((start .experimental).after (converted table)).handles.get? "a" ∧
      RunsRenamed ((start .experimental).run (converted SharedObject.loader)).2
        ((start .experimental).run (converted table)).2 := by
  have same : List.Forall₂ (Action.Lookalike .experimental) (converted SharedObject.loader)
      (converted table) :=
    .cons (.create (loader_same _)) (.cons (.same nofun) (.cons (.same nofun)
      (.cons (.same nofun) (.cons (.same nofun) .nil))))
  exact ⟨by decide, ((sees_only_bound .experimental).renamed _ _ same).2⟩

end Host

end GraphPlugin
