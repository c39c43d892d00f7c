import GraphPlugin.Proofs.Lives

/-! Two hosts side by side. They may be hosts of different builds, and what they are given may
differ in the policies and in the loaders of their invokers. As long as their initialisations come
out alike and they are asked for operations that both builds offer or neither, each step has the
same answer in both, and leaves the same trace but for releases. -/
namespace GraphPlugin

variable {b c : Build}

/-- How much may differ in what the two hosts are given: the loaders, for the path that they are to
open, and the policies. -/
structure Leeway where
  loaders : String → Loader → Loader → Prop
  policies : Bool → Bool → Prop
  loaders_refl : ∀ path loader, loaders path loader loader
  policies_refl : ∀ policy, policies policy policy

namespace Event

def notRelease : Event → Bool
  | released _ => false
  | _ => true

end Event

/-- What is left of a trace when releases are taken out of it. -/
def butReleases (events : List Event) : List Event := events.filter Event.notRelease

@[simp] theorem butReleases_nil : butReleases [] = [] := rfl

@[simp] theorem butReleases_append (events more : List Event) :
    butReleases (events ++ more) = butReleases events ++ butReleases more := List.filter_append _ _

@[simp] theorem butReleases_dropped (tag : Tag) (events : List Event) :
    butReleases (.dropped tag :: events) = .dropped tag :: butReleases events := rfl

@[simp] theorem butReleases_released (library : Tag) (events : List Event) :
    butReleases (.released library :: events) = butReleases events := rfl

namespace Holdings

/-- The same but for the libraries that stay loaded for good. -/
def Alike (s t : Holdings) : Prop := ∃ kept, t = { s with kept }

theorem Alike.refl (s : Holdings) : s.Alike s := ⟨s.kept, rfl⟩

theorem giveUp_kept (s : Holdings) (kept : List Tag) (library : Tag) :
    ({ s with kept := kept }.giveUp library).1 = { (s.giveUp library).1 with kept } ∧
      butReleases ({ s with kept := kept }.giveUp library).2 =
        butReleases (s.giveUp library).2 := by
  have silent : ∀ t : Holdings, butReleases (t.giveUp library).2 = [] := by
    intro t
    unfold giveUp
    dsimp only
    split <;> rfl
  exact ⟨by rw [giveUp_fst, giveUp_fst], by rw [silent, silent]⟩

mutual

theorem drop_kept (kept : List Tag) : ∀ (h : Handle) (s : Holdings),
    ({ s with kept := kept }.drop h).1 = { (s.drop h).1 with kept } ∧
      butReleases ({ s with kept := kept }.drop h).2 = butReleases (s.drop h).2
  | .fragment tag content held shown, s => by
    simp only [drop]
    split
    · exact ⟨rfl, rfl⟩
    · obtain ⟨state, events⟩ := dropAll_kept kept held (s.forget (.fragment tag))
      exact ⟨state, congrArg (Event.dropped tag :: ·) events⟩
  | .bound number library inner, s => by
    simp only [drop]
    split
    · exact ⟨rfl, rfl⟩
    · obtain ⟨state, events⟩ := drop_kept kept inner (s.forget (.binding number))
      simp only [forget] at state events
      rw [state, butReleases_append, butReleases_append, events]
      obtain ⟨left, releases⟩ := giveUp_kept _ kept library
      exact ⟨left, by rw [releases]⟩

theorem dropAll_kept (kept : List Tag) : ∀ (held : List Handle) (s : Holdings),
    ({ s with kept := kept }.dropAll held).1 = { (s.dropAll held).1 with kept } ∧
      butReleases ({ s with kept := kept }.dropAll held).2 = butReleases (s.dropAll held).2
  | [], _ => ⟨rfl, rfl⟩
  | h :: rest, s => by
    obtain ⟨state, events⟩ := drop_kept kept h s
    obtain ⟨left, more⟩ := dropAll_kept kept rest (s.drop h).1
    rw [dropAll_cons, dropAll_cons, state, butReleases_append, butReleases_append, events, more]
    exact ⟨left, rfl⟩

end

section Products

variable {known : List Handle}

mutual

theorem build_kept (kept : List Tag) (origin : Origin) : ∀ (product : Product known) (s : Holdings),
    { s with kept := kept }.build origin product =
      ((s.build origin product).1, { (s.build origin product).2 with kept })
  | .known _ _, _ => rfl
  | .fragment content held shown, s => by
    simp only [build, buildAll_kept kept origin held s]
    rfl

theorem buildAll_kept (kept : List Tag) (origin : Origin) :
    ∀ (products : List (Product known)) (s : Holdings),
      { s with kept := kept }.buildAll origin products =
        ((s.buildAll origin products).1, { (s.buildAll origin products).2 with kept })
  | [], _ => rfl
  | product :: rest, s => by
    simp only [buildAll, build_kept kept origin product s, buildAll_kept kept origin rest _]

end

theorem accept_kept (s : Holdings) (kept : List Tag) (origin : Origin) (response : Response known) :
    { s with kept := kept }.accept origin response =
      ((s.accept origin response).1, { (s.accept origin response).2 with kept }) := by
  simp only [accept, build_kept, buildAll_kept]
  rfl

end Products

variable {s t : Holdings}

theorem Alike.drop (alike : s.Alike t) (h : Handle) :
    (s.drop h).1.Alike (t.drop h).1 ∧ butReleases (t.drop h).2 = butReleases (s.drop h).2 := by
  obtain ⟨kept, rfl⟩ := alike
  obtain ⟨state, events⟩ := s.drop_kept kept h
  exact ⟨⟨kept, state⟩, events⟩

theorem Alike.giveUp (alike : s.Alike t) (library : Tag) :
    (s.giveUp library).1.Alike (t.giveUp library).1 ∧
      butReleases (t.giveUp library).2 = butReleases (s.giveUp library).2 := by
  obtain ⟨kept, rfl⟩ := alike
  obtain ⟨state, events⟩ := s.giveUp_kept kept library
  exact ⟨⟨kept, state⟩, events⟩

theorem Alike.called (alike : s.Alike t) : s.called.Alike t.called := by
  obtain ⟨kept, rfl⟩ := alike
  exact ⟨kept, rfl⟩

theorem Alike.retain (alike : s.Alike t) (h : Handle) : (s.retain h).Alike (t.retain h) := by
  obtain ⟨kept, rfl⟩ := alike
  exact ⟨kept, rfl⟩

theorem Alike.retainAll (alike : s.Alike t) (hs : List Handle) :
    (s.retainAll hs).Alike (t.retainAll hs) := by
  obtain ⟨kept, rfl⟩ := alike
  exact ⟨kept, rfl⟩

theorem Alike.unstash (alike : s.Alike t) (place : Nat) :
    (s.unstash place).Alike (t.unstash place) := by
  obtain ⟨kept, rfl⟩ := alike
  exact ⟨kept, rfl⟩

theorem Alike.stash (alike : s.Alike t) : t.stash = s.stash := by
  obtain ⟨kept, rfl⟩ := alike
  rfl

theorem Alike.addFragment (alike : s.Alike t) (origin : Origin) (content : Fragment)
    (held : List Handle) (shown : Option Nat) :
    (t.addFragment origin content held shown).1 = (s.addFragment origin content held shown).1 ∧
      (s.addFragment origin content held shown).2.Alike
        (t.addFragment origin content held shown).2 := by
  obtain ⟨kept, rfl⟩ := alike
  exact ⟨rfl, kept, rfl⟩

theorem Alike.adopt {known : List Handle} (alike : s.Alike t) (library : Tag)
    (response : Response known) :
    (t.adopt library response).1 = (s.adopt library response).1 ∧
      (s.adopt library response).2.Alike (t.adopt library response).2 := by
  obtain ⟨kept, rfl⟩ := alike
  simp only [Holdings.adopt, accept_kept]
  exact ⟨rfl, kept, rfl⟩

theorem Alike.addLibrary (alike : s.Alike t) (origin : Origin) :
    (t.addLibrary origin).1 = (s.addLibrary origin).1 ∧
      (s.addLibrary origin).2.Alike (t.addLibrary origin).2 := by
  obtain ⟨kept, rfl⟩ := alike
  exact ⟨rfl, kept, rfl⟩

theorem Alike.share (alike : s.Alike t) (library : Tag) (unload other : Bool) :
    (s.share library unload).Alike (t.share library other) := by
  obtain ⟨kept, rfl⟩ := alike
  exact ⟨_, rfl⟩

end Holdings

/-- They stand alike, with the same functions for the operations that both builds offer. -/
inductive Status.Twin : Status b → Status c → Prop
  | unready : Twin .unready .unready
  | ready {bindings : Bindings b.operations} {others : Bindings c.operations} {library : Tag} :
      (∀ o offered again, others o again = bindings o offered) →
      Twin (.ready bindings library) (.ready others library)
  | failed : Twin .failed .failed

namespace Invoker

variable {w : Leeway} {p : Invoker b} {q : Invoker c} {s t : Holdings} {o : Operation}

structure Twin (w : Leeway) (p : Invoker b) (q : Invoker c) : Prop where
  id : q.id = p.id
  path : q.path = p.path
  loader : w.loaders p.path p.loader q.loader
  policy : w.policies p.unloadOnDrop q.unloadOnDrop
  status : p.status.Twin q.status

/-- Two outcomes of an initialisation that leave twins and have the same answer. -/
structure InitTwin (w : Leeway)
    (first : Outcome (Invoker b × Holdings) (Except InvokerError Unit))
    (second : Outcome (Invoker c × Holdings) (Except InvokerError Unit)) : Prop where
  invokers : first.state.1.Twin w second.state.1
  holdings : first.state.2.Alike second.state.2
  answer : second.answer = first.answer

theorem Twin.state (twin : p.Twin w q) : q.state = p.state := by
  have same := twin.status
  unfold Invoker.state
  generalize p.status = status, q.status = other at same ⊢
  cases same <;> rfl

theorem Twin.library? (twin : p.Twin w q) : q.library? = p.library? := by
  have same := twin.status
  unfold Invoker.library?
  generalize p.status = status, q.status = other at same ⊢
  cases same <;> rfl

theorem Twin.unready_iff (twin : p.Twin w q) : q.status = .unready ↔ p.status = .unready := by
  have same := twin.status
  generalize p.status = status, q.status = other at same ⊢
  cases same <;> simp

theorem Twin.wrongState (twin : p.Twin w q) (expected : Lifecycle) :
    q.wrongState expected = p.wrongState expected := by
  unfold Invoker.wrongState
  rw [twin.id, twin.state]

theorem Twin.setUnloadOnDrop (twin : p.Twin w q) {unload other : Bool}
    (policy : w.policies unload other) :
    (p.setUnloadOnDrop unload).Twin w (q.setUnloadOnDrop other) :=
  ⟨twin.id, twin.path, twin.loader, policy, twin.status⟩

theorem Twin.close (twin : p.Twin w q) (alike : s.Alike t) :
    (p.close s).1.Alike (q.close t).1 ∧ butReleases (q.close t).2 = butReleases (p.close s).2 := by
  unfold Invoker.close
  rw [twin.library?]
  cases p.library? with
  | none => exact ⟨alike, rfl⟩
  | some library => exact alike.giveUp library

theorem Twin.invoke (twin : p.Twin w q) (alike : s.Alike t)
    (both : o ∈ b.operations ↔ o ∈ c.operations) (args : Arguments o.shape) :
    (p.invoke s o args).state.Alike (q.invoke t o args).state ∧
      (q.invoke t o args).events = (p.invoke s o args).events ∧
      (q.invoke t o args).answer = (p.invoke s o args).answer := by
  have outcome := p.invoke_cases s o args
  have forwards : ∀ library (entry : Entry o.shape),
      q.forwarding library entry args = p.forwarding library entry args := by
    intro library entry
    rw [forwarding, forwarding, twin.id]
  have held := alike
  obtain ⟨kept, rfl⟩ := alike
  -- The functions that the twin of a ready invoker has are the same ones.
  have bound : ∀ {bindings library} (offered : o ∈ b.operations),
      p.status = .ready bindings library →
      ∃ others, q.status = .ready others library ∧
        others o (both.1 offered) = bindings o offered := by
    intro bindings library offered ready
    have same := twin.status
    rw [ready] at same
    generalize q.status = status at same ⊢
    cases same with
    | ready agree => exact ⟨_, rfl, agree o offered _⟩
  generalize p.invoke s o args = result at outcome ⊢
  cases outcome with
  | leftOut out =>
    rw [invoke_leftOut (mt both.2 out), twin.id]
    exact ⟨held, rfl, rfl⟩
  | notReady offered idle =>
    rw [invoke_notReady (both.1 offered) (twin.library?.trans idle), twin.wrongState]
    exact ⟨held, rfl, rfl⟩
  | unnamed offered ready unnamed =>
    obtain ⟨others, ready, _⟩ := bound offered ready
    rw [invoke_unnamed ready (both.1 offered) unnamed]
    exact ⟨held, rfl, rfl⟩
  | refused offered ready named refused =>
    obtain ⟨others, ready, same⟩ := bound offered ready
    rw [← same] at refused
    rw [invoke_refused (s := { s with kept }) ready (both.1 offered) named refused, same]
    exact ⟨held.called, forwards _ _, rfl⟩
  | @done _ library response offered ready named done =>
    obtain ⟨others, ready, same⟩ := bound offered ready
    rw [← same] at done
    rw [invoke_done (s := { s with kept }) ready (both.1 offered) named done, same]
    obtain ⟨handle, state⟩ := held.called.adopt library response
    exact ⟨state, forwards _ _, congrArg Except.ok handle⟩

end Invoker

/-- The same action, or one that gives an invoker a loader and a policy within the leeway. -/
inductive Action.Twin (w : Leeway) : Action → Action → Prop
  | same (action : Action) : Twin w action action
  | create {name id path : String} {loader other : Loader} {unload policy : Option Bool} :
      w.loaders path loader other → w.policies (unload.getD true) (policy.getD true) →
      Twin w (.create name id path loader unload) (.create name id path other policy)
  | setUnloadOnDrop {name : String} {unload policy : Bool} : w.policies unload policy →
      Twin w (.setUnloadOnDrop name unload) (.setUnloadOnDrop name policy)

inductive Reply.Twin (w : Leeway) : Reply b → Reply c → Prop
  | done : Twin w .done .done
  | invoker {p : Invoker b} {q : Invoker c} : p.Twin w q → Twin w (.invoker p) (.invoker q)
  | initialised (state : Lifecycle) (result : Except InvokerError Unit) :
      Twin w (.initialised state result) (.initialised state result)
  | handle (h : Handle) : Twin w (.handle h) (.handle h)
  | noHandle : Twin w .noHandle .noHandle
  | refused (error : InvokerError) : Twin w (.refused error) (.refused error)
  | unknown (name : String) : Twin w (.unknown name) (.unknown name)

def Request.operation : Request → Operation
  | .loadGraph _ _ _ _ => .loadGraph
  | .addVertices _ _ _ _ _ => .addVertices
  | .addEdges _ _ _ _ _ => .addEdges
  | .toArrow _ _ _ _ => .toArrow
  | .toDynamic _ _ _ => .toDynamic

/-- An operation that the action asks for is offered by both builds or by neither. -/
def Action.Common (b c : Build) (action : Action) : Prop :=
  ∀ name request result, action = .invoke name request result →
    (request.operation ∈ b.operations ↔ request.operation ∈ c.operations)

theorem Action.common_self (b : Build) (action : Action) : action.Common b b :=
  fun _ _ _ _ => Iff.rfl

namespace Host

variable {w : Leeway} {host : Host b} {other : Host c} {s t : Holdings}

structure Twin (w : Leeway) (host : Host b) (other : Host c) : Prop where
  invokers : ∀ name, Option.Rel (Invoker.Twin w) (host.invokers.get? name)
    (other.invokers.get? name)
  handles : other.handles = host.handles
  holdings : host.holdings.Alike other.holdings

theorem start_twin (w : Leeway) (b c : Build) : (start b).Twin w (start c) :=
  ⟨fun _ => .none, rfl, .refl _⟩

/-- Two outcomes of a step that cannot be told apart, but for releases and what the leeway allows.
-/
structure StepTwin (w : Leeway) (first : Outcome (Host b) (Reply b))
    (second : Outcome (Host c) (Reply c)) : Prop where
  state : first.state.Twin w second.state
  answer : Reply.Twin w first.answer second.answer
  events : butReleases second.events = butReleases first.events

theorem Calls.operation {request : Request} {o : Operation} {args : Arguments o.shape}
    (calls : host.Calls request o args) : request.operation = o := by
  cases calls <;> rfl

theorem refuse_twin (twin : host.Twin w other) (name : String) :
    StepTwin w (host.refuse name) (other.refuse name) := ⟨twin, .unknown name, rfl⟩

theorem keepInvoker_twin (twin : host.Twin w other) (name : String) {p : Invoker b} {q : Invoker c}
    (same : p.Twin w q) :
    (host.keepInvoker name p).1.Twin w (other.keepInvoker name q).1 ∧
      butReleases (other.keepInvoker name q).2 = butReleases (host.keepInvoker name p).2 := by
  have related := twin.invokers name
  unfold keepInvoker
  generalize host.invokers.get? name = found, other.invokers.get? name = again at related ⊢
  cases related with
  | none => exact ⟨⟨Keyed.rel_insert twin.invokers name same, twin.handles, twin.holdings⟩, rfl⟩
  | some old =>
    obtain ⟨alike, events⟩ := old.close twin.holdings
    exact ⟨⟨Keyed.rel_insert twin.invokers name same, twin.handles, alike⟩, events⟩

theorem answerHandle_twin (twin : host.Twin w other) (alike : s.Alike t) (result : String)
    {h k : Handle} (same : k = h) (events : List Event) :
    StepTwin w (host.answerHandle result h s events) (other.answerHandle result k t events) := by
  subst same
  unfold answerHandle keepHandle
  rw [twin.handles]
  cases host.handles.get? result with
  | none => exact ⟨⟨twin.invokers, rfl, alike⟩, .handle k, rfl⟩
  | some old =>
    obtain ⟨left, drops⟩ := alike.drop old
    exact ⟨⟨twin.invokers, rfl, left⟩, .handle k, by simp [drops]⟩

theorem stepInvoke_twin (twin : host.Twin w other) {p : Invoker b} {q : Invoker c}
    (same : p.Twin w q) {o : Operation} (both : o ∈ b.operations ↔ o ∈ c.operations)
    (args : Arguments o.shape) (result : String) :
    StepTwin w (host.stepInvoke p o args result) (other.stepInvoke q o args result) := by
  obtain ⟨alike, events, answer⟩ := same.invoke twin.holdings both args
  unfold stepInvoke
  generalize p.invoke host.holdings o args = first, q.invoke other.holdings o args = second
    at alike events answer ⊢
  obtain ⟨s, shown, result⟩ := first
  obtain ⟨t, again, result'⟩ := second
  obtain rfl : again = shown := events
  obtain rfl : result' = result := answer
  cases result' with
  | error error => exact ⟨⟨twin.invokers, twin.handles, alike⟩, .refused error, rfl⟩
  | ok h => exact answerHandle_twin twin alike _ rfl _

theorem stepInit_twin (twin : host.Twin w other) (name : String) {p : Invoker b} {q : Invoker c}
    (init : Invoker.InitTwin w (p.init host.holdings) (q.init other.holdings)) :
    (host.stepInit name p).state.Twin w (other.stepInit name q).state ∧
      Reply.Twin w (host.stepInit name p).answer (other.stepInit name q).answer := by
  refine ⟨⟨Keyed.rel_insert twin.invokers name init.invokers, twin.handles, init.holdings⟩, ?_⟩
  show Reply.Twin w (.initialised _ _) (.initialised _ _)
  rw [init.answer, init.invokers.state]
  exact .initialised _ _

theorem arguments_twin (twin : host.Twin w other) (request : Request) :
    other.arguments request = host.arguments request := by
  cases request <;> simp only [arguments, target, twin.handles]

theorem findAll_twin (twin : host.Twin w other) (names : List String) :
    other.findAll names = host.findAll names := by
  induction names with
  | nil => rfl
  | cons name rest ih => rw [findAll, findAll, twin.handles, ih]

theorem withInvoker_twin (twin : host.Twin w other) (name : String)
    {first : Invoker b → Outcome (Host b) (Reply b)}
    {second : Invoker c → Outcome (Host c) (Reply c)}
    (each : ∀ p q, p.Twin w q → StepTwin w (first p) (second q)) :
    StepTwin w
      (match find host.invokers name with
      | .error name => host.refuse name
      | .ok p => first p)
      (match find other.invokers name with
      | .error name => other.refuse name
      | .ok q => second q) := by
  have related := twin.invokers name
  rw [find_eq, find_eq]
  generalize host.invokers.get? name = found, other.invokers.get? name = again at related ⊢
  cases related with
  | none => exact refuse_twin twin name
  | some same => exact each _ _ same

theorem withHandle_twin (twin : host.Twin w other) (name : String)
    {first : Handle → Outcome (Host b) (Reply b)} {second : Handle → Outcome (Host c) (Reply c)}
    (each : ∀ h, StepTwin w (first h) (second h)) :
    StepTwin w
      (match find host.handles name with
      | .error name => host.refuse name
      | .ok h => first h)
      (match find other.handles name with
      | .error name => other.refuse name
      | .ok h => second h) := by
  rw [twin.handles]
  cases find host.handles name with
  | error name => exact refuse_twin twin name
  | ok h => exact each h

theorem create_twin (twin : host.Twin w other) (name id path : String) {loader again : Loader}
    {unload policy : Option Bool} (loaders : w.loaders path loader again)
    (policies : w.policies (unload.getD true) (policy.getD true)) :
    StepTwin w (host.step (.create name id path loader unload))
      (other.step (.create name id path again policy)) := by
  have same : Invoker.Twin w (b := b) (c := c) ⟨id, path, loader, unload.getD true, .unready⟩
      ⟨id, path, again, policy.getD true, .unready⟩ := ⟨rfl, rfl, loaders, policies, .unready⟩
  obtain ⟨hosts, events⟩ := keepInvoker_twin twin name same
  exact ⟨hosts, .invoker same, events⟩

theorem setUnloadOnDrop_twin (twin : host.Twin w other) (name : String) {unload policy : Bool}
    (policies : w.policies unload policy) :
    StepTwin w (host.step (.setUnloadOnDrop name unload))
      (other.step (.setUnloadOnDrop name policy)) := by
  refine withInvoker_twin twin name fun p q same => ?_
  have set := same.setUnloadOnDrop policies
  exact ⟨⟨Keyed.rel_insert twin.invokers name set, twin.handles, twin.holdings⟩, .invoker set, rfl⟩

theorem invoke_twin (twin : host.Twin w other) (name result : String) {request : Request}
    (both : request.operation ∈ b.operations ↔ request.operation ∈ c.operations) :
    StepTwin w (host.step (.invoke name request result))
      (other.step (.invoke name request result)) := by
  have related := twin.invokers name
  rw [step, step, arguments_twin twin, find_eq, find_eq]
  generalize host.invokers.get? name = found, other.invokers.get? name = again at related ⊢
  cases related with
  | none => exact refuse_twin twin name
  | some same =>
    cases asked : host.arguments request with
    | error missing => exact refuse_twin twin missing
    | ok call =>
      rw [(arguments_eq_ok_iff.1 asked).operation] at both
      exact stepInvoke_twin twin same both call.2 result

/-- A step is the same in both hosts, unless it is an initialisation. -/
theorem step_twin (twin : host.Twin w other) {action again : Action}
    (same : Action.Twin w action again) (common : action.Common b c)
    (later : ∀ name, action ≠ .init name) : StepTwin w (host.step action) (other.step again) := by
  cases same with
  | create loaders policies => exact create_twin twin _ _ _ loaders policies
  | setUnloadOnDrop policies => exact setUnloadOnDrop_twin twin _ policies
  | same =>
    cases action with
    | create name id path loader unload =>
      exact create_twin twin name id path (w.loaders_refl _ _) (w.policies_refl _)
    | setUnloadOnDrop name unload => exact setUnloadOnDrop_twin twin name (w.policies_refl _)
    | init name => exact absurd rfl (later name)
    | inspect name => exact withInvoker_twin twin name fun p q same => ⟨twin, .invoker same, rfl⟩
    | close name =>
      refine withInvoker_twin twin name fun p q same => ?_
      obtain ⟨alike, events⟩ := same.close twin.holdings
      exact ⟨⟨Keyed.rel_erase twin.invokers name, twin.handles, alike⟩, .done, events⟩
    | invoke name request result =>
      exact invoke_twin twin name result (common name request result rfl)
    | make content holds shown result =>
      rw [step, step, findAll_twin twin]
      cases host.findAll holds with
      | error name => exact refuse_twin twin name
      | ok held =>
        obtain ⟨handle, alike⟩ :=
          (twin.holdings.retainAll held).addFragment .inProcess content held shown
        exact answerHandle_twin twin alike result handle []
    | describe handle => exact withHandle_twin twin handle fun h => ⟨twin, .handle h, rfl⟩
    | clone handle result =>
      exact withHandle_twin twin handle fun h =>
        answerHandle_twin twin (twin.holdings.retain h) result rfl []
    | takeInner handle result =>
      refine withHandle_twin twin handle fun h => ?_
      cases h.inner? with
      | none => exact ⟨twin, .noHandle, rfl⟩
      | some inner => exact answerHandle_twin twin (twin.holdings.retain inner) result rfl []
    | drop handle =>
      refine withHandle_twin twin handle fun h => ?_
      obtain ⟨alike, events⟩ := twin.holdings.drop h
      exact ⟨⟨twin.invokers, congrArg (Keyed.erase · handle) twin.handles, alike⟩, .done, events⟩
    | unstash place =>
      rw [step, step, twin.holdings.stash]
      cases host.holdings.stash[place]? with
      | none => exact ⟨twin, .noHandle, rfl⟩
      | some h =>
        obtain ⟨alike, events⟩ := (twin.holdings.unstash place).drop h
        exact ⟨⟨twin.invokers, twin.handles, alike⟩, .done, events⟩

end Host

end GraphPlugin
