import GraphPlugin.Proofs.Twins
import GraphPlugin.Proofs.Usage

/-! What the policy of an invoker can be seen by. Two runs of the same steps, but for the policies
that invokers are given, answer the same and leave the same trace, except that a library whose
initialisation went well may be released in the one and not in the other. -/
namespace GraphPlugin

variable {b : Build}

def Leeway.policy : Leeway where
  loaders _ := Eq
  policies _ _ := True
  loaders_refl _ _ := rfl
  policies_refl _ := trivial

inductive Action.SameButPolicy : Action → Action → Prop
  | same (action : Action) : SameButPolicy action action
  | create {name id path : String} {loader : Loader} {unload policy : Option Bool} :
      SameButPolicy (.create name id path loader unload) (.create name id path loader policy)
  | setUnloadOnDrop {name : String} {unload policy : Bool} :
      SameButPolicy (.setUnloadOnDrop name unload) (.setUnloadOnDrop name policy)

/-- The second is the first with a policy of its own. -/
def Invoker.SameButPolicy (p q : Invoker b) : Prop := ∃ unload, q = p.setUnloadOnDrop unload

inductive Reply.SameButPolicy : Reply b → Reply b → Prop
  | same (reply : Reply b) : SameButPolicy reply reply
  | invoker {p q : Invoker b} : p.SameButPolicy q → SameButPolicy (.invoker p) (.invoker q)

structure Host.SameButPolicy (host other : Host b) : Prop where
  invokers : ∀ name, Option.Rel Invoker.SameButPolicy (host.invokers.get? name)
    (other.invokers.get? name)
  handles : other.handles = host.handles

theorem Action.SameButPolicy.symm {action again : Action} (same : action.SameButPolicy again) :
    again.SameButPolicy action := by
  cases same with
  | same => exact .same action
  | create => exact .create
  | setUnloadOnDrop => exact .setUnloadOnDrop

theorem Action.SameButPolicy.twin {action again : Action} (same : action.SameButPolicy again) :
    Action.Twin .policy action again := by
  cases same with
  | same => exact .same action
  | create => exact .create rfl trivial
  | setUnloadOnDrop => exact .setUnloadOnDrop trivial

theorem Action.SameButPolicy.init {action : Action} {name : String}
    (same : action.SameButPolicy (.init name)) : action = .init name := by
  cases same with
  | same => rfl

theorem Invoker.Twin.sameButPolicy {p q : Invoker b} (twin : p.Twin .policy q) :
    p.SameButPolicy q := by
  obtain ⟨id, path, loader, _, status⟩ := twin
  refine ⟨q.unloadOnDrop, ?_⟩
  obtain ⟨_, _, _, unload, status'⟩ := q
  obtain ⟨_, _, _, _, _⟩ := p
  cases id
  cases path
  cases loader
  cases status with
  | unready => rfl
  | failed => rfl
  | ready agree =>
    cases funext₂ fun o offered => agree o offered offered
    rfl

theorem Reply.Twin.sameButPolicy {reply again : Reply b} (twin : Reply.Twin .policy reply again) :
    reply.SameButPolicy again := by
  cases twin with
  | invoker same => exact .invoker same.sameButPolicy
  | _ => exact .same _

theorem Host.Twin.sameButPolicy {host other : Host b} (twin : host.Twin .policy other) :
    host.SameButPolicy other := by
  refine ⟨fun name => ?_, twin.handles⟩
  have related := twin.invokers name
  generalize host.invokers.get? name = found, other.invokers.get? name = again at related ⊢
  cases related with
  | none => exact .none
  | some same => exact .some same.sameButPolicy

theorem Invoker.SameButPolicy.twin {p q : Invoker b} (same : p.SameButPolicy q) :
    p.Twin .policy q := by
  obtain ⟨unload, rfl⟩ := same
  refine ⟨rfl, rfl, rfl, trivial, ?_⟩
  show p.status.Twin p.status
  cases p.status with
  | unready => exact .unready
  | failed => exact .failed
  | ready bindings library => exact .ready fun _ _ _ => rfl

theorem Invoker.debug_eq (p : Invoker b) :
    p.debug = "PluginInvoker \x7b id: " ++ Text.quoted p.id ++ ", lib_path: " ++
      Text.quoted p.path ++ ", unload_on_drop: " ++ toString p.unloadOnDrop ++
      (", state: " ++ p.state.label ++ ", .. \x7d") := by
  unfold Invoker.debug
  generalize "PluginInvoker \x7b id: " ++ Text.quoted p.id ++
    ", lib_path: " ++ Text.quoted p.path ++ ", unload_on_drop: " ++ toString p.unloadOnDrop = front
  generalize ", state: " = x, ", .. \x7d" = y
  rw [String.append_assoc, String.append_assoc, String.append_assoc]

theorem Invoker.SameButPolicy.debug {p q : Invoker b} (same : p.SameButPolicy q) :
    ∃ front back, p.debug = front ++ toString p.unloadOnDrop ++ back ∧
      q.debug = front ++ toString q.unloadOnDrop ++ back := by
  obtain ⟨unload, rfl⟩ := same
  have id : (p.setUnloadOnDrop unload).id = p.id := rfl
  have path : (p.setUnloadOnDrop unload).path = p.path := rfl
  have state : (p.setUnloadOnDrop unload).state = p.state := rfl
  refine ⟨_, _, p.debug_eq, ?_⟩
  rw [Invoker.debug_eq, id, path, state]

/-- The same events in the same order, but for releases of certain libraries. -/
inductive SameButReleases (libraries : Tag → Prop) : List Event → List Event → Prop
  | nil : SameButReleases libraries [] []
  | both (e : Event) {events more : List Event} : SameButReleases libraries events more →
      SameButReleases libraries (e :: events) (e :: more)
  | first {n : Tag} {events more : List Event} : libraries n →
      SameButReleases libraries events more →
      SameButReleases libraries (.released n :: events) more
  | second {n : Tag} {events more : List Event} : libraries n →
      SameButReleases libraries events more →
      SameButReleases libraries events (.released n :: more)

namespace SameButReleases

variable {libraries : Tag → Prop} {events more : List Event}

theorem refl (events : List Event) : SameButReleases libraries events events := by
  induction events with
  | nil => exact .nil
  | cons e rest ih => exact .both e ih

theorem of_butReleases (same : butReleases more = butReleases events)
    (first : ∀ n, Event.released n ∈ events → libraries n)
    (second : ∀ n, Event.released n ∈ more → libraries n) :
    SameButReleases libraries events more := by
  induction events generalizing more with
  | nil =>
    induction more with
    | nil => exact .nil
    | cons e rest ih =>
      cases e with
      | released n =>
        exact .second (second n List.mem_cons_self)
          (ih same fun m shown => second m (List.mem_cons_of_mem _ shown))
      | _ => cases same
  | cons e events ih =>
    have rest := fun m shown => first m (List.mem_cons_of_mem e shown)
    by_cases release : e.notRelease = true
    · -- Up to the same event, the other trace can only have releases.
      rw [butReleases, butReleases, List.filter_cons_of_pos release] at same
      induction more with
      | nil => cases same
      | cons f more inner =>
        have behind := fun m shown => second m (List.mem_cons_of_mem f shown)
        cases f with
        | released n => exact .second (second n List.mem_cons_self) (inner same behind)
        | _ =>
          injection same with head tail
          subst head
          exact .both _ (ih tail rest behind)
    · cases e with
      | released n => exact .first (first n List.mem_cons_self) (ih same rest second)
      | _ => exact absurd rfl release

end SameButReleases

namespace Invoker

variable {p q : Invoker b} {s t : Holdings}

theorem SameButPolicy.init (same : p.SameButPolicy q) (alike : s.Alike t) :
    InitTwin .policy (p.init s) (q.init t) ∧ (q.init t).events = (p.init s).events := by
  obtain ⟨unload, rfl⟩ := same
  have tag : (p.setUnloadOnDrop unload).nextTag t = p.nextTag s := by
    obtain ⟨kept, rfl⟩ := alike
    rfl
  have left : ∀ r : Invoker b, r.Twin .policy (r.setUnloadOnDrop unload) :=
    fun r => SameButPolicy.twin ⟨unload, rfl⟩
  have outcome := p.init_cases s
  generalize p.init s = result at outcome ⊢
  cases outcome with
  | again started =>
    rw [init_again (p := p.setUnloadOnDrop unload) started]
    exact ⟨⟨left _, alike, rfl⟩, rfl⟩
  | unopened unready unopened =>
    rw [init_unopened (p := p.setUnloadOnDrop unload) unready unopened]
    exact ⟨⟨left _, alike, rfl⟩, rfl⟩
  | unbound unready opened bound =>
    rw [← tag] at bound ⊢
    rw [init_unbound (p := p.setUnloadOnDrop unload) unready opened bound]
    exact ⟨⟨left _, (alike.addLibrary _).2, rfl⟩, rfl⟩
  | served unready opened bound =>
    rw [← tag] at bound ⊢
    rw [init_bound (p := p.setUnloadOnDrop unload) unready opened bound]
    exact ⟨⟨left _, (alike.addLibrary _).2.share _ _ _, rfl⟩, rfl⟩

end Invoker

namespace Host

variable {host other : Host b} {action again : Action} {actions others : List Action} {n : Tag}

theorem init_twin {w : Leeway} (twin : host.Twin w other) (name : String)
    (each : ∀ p q : Invoker b, p.Twin w q →
      Invoker.InitTwin w (p.init host.holdings) (q.init other.holdings) ∧
        (q.init other.holdings).events = (p.init host.holdings).events) :
    StepTwin w (host.step (.init name)) (other.step (.init name)) ∧
      (other.step (.init name)).events = (host.step (.init name)).events := by
  have related := twin.invokers name
  generalize found : host.invokers.get? name = invoker, there : other.invokers.get? name = another
    at related
  cases related with
  | none =>
    rw [step_init_unknown found, step_init_unknown there]
    exact ⟨refuse_twin twin name, rfl⟩
  | some same =>
    obtain ⟨init, events⟩ := each _ _ same
    obtain ⟨state, replies⟩ := stepInit_twin twin name init
    rw [step_init found, step_init there]
    exact ⟨⟨state, replies, congrArg butReleases events⟩, events⟩

theorem init_sameButPolicy (twin : host.Twin .policy other) (name : String) :
    StepTwin .policy (host.step (.init name)) (other.step (.init name)) ∧
      (other.step (.init name)).events = (host.step (.init name)).events :=
  init_twin twin name fun _ _ same => same.sameButPolicy.init twin.holdings

theorem step_sameButPolicy (twin : host.Twin .policy other)
    (same : action.SameButPolicy again) :
    StepTwin .policy (host.step action) (other.step again) ∧
      ∀ name, action = .init name → (other.step again).events = (host.step action).events := by
  by_cases first : ∃ name, action = .init name
  · obtain ⟨name, rfl⟩ := first
    cases same with
    | same =>
      obtain ⟨steps, events⟩ := init_sameButPolicy twin name
      exact ⟨steps, fun _ _ => events⟩
  · have later := fun name here => first ⟨name, here⟩
    exact ⟨step_twin twin same.twin (action.common_self b) later,
      fun name here => absurd here (later name)⟩

theorem after_sameButPolicy (twin : host.Twin .policy other)
    (same : List.Forall₂ Action.SameButPolicy actions others) :
    (host.after actions).Twin .policy (other.after others) := by
  induction same generalizing host other with
  | nil => exact twin
  | cons first _ ih => exact ih (step_sameButPolicy twin first).1.state

def Served (host : Host b) (actions : List Action) (library : Tag) : Prop :=
  host.Sometime actions fun host action => ∃ p, Opens p library host action ∧ Serves host action

theorem served_of_released
    (shown : Event.released n ∈ (((start b).after actions).step action).events)
    (later : ∀ name, action ≠ .init name) : (start b).Served actions n := by
  obtain ⟨gone, held⟩ := ((step_settles b actions action).released_iff n).1 shown
  have issued : ((start b).after actions).holdings.libraries.Issued n := by
    by_contra new
    have opened := gone.1
    rw [after_snoc] at opened
    obtain ⟨_, name, _, here, _⟩ := opens_of_issued new opened
    exact later name here
  obtain ⟨before, init, rest, rfl, p, opens⟩ := opened_of_issued issued
  refine ⟨before, init, rest, rfl, p, opens, ?_⟩
  rcases opens_cases opens with ⟨fails, _, _⟩ | ⟨serves, _, _⟩
  · have lost := ((more_settles b (before ++ [init]) rest).gone_stays (gone_of_fails opens fails)).1
    rw [List.append_assoc, List.singleton_append] at lost
    exact absurd lost held
  · exact serves

theorem opens_sameButPolicy (twin : host.Twin .policy other) (same : action.SameButPolicy again)
    {p : Invoker b} (opens : Opens p n host action) (serves : Serves host action) :
    (∃ q, Opens q n other again) ∧ Serves other again := by
  have answers := (step_sameButPolicy twin same).1.answer
  rw [serves] at answers
  obtain ⟨name, l, rfl, found, unready, opened, tag⟩ := opens
  constructor
  · cases same with
    | same =>
      have related := twin.invokers name
      rw [found] at related
      generalize there : other.invokers.get? name = again at related
      cases related with
      | @some _ q same =>
        obtain ⟨unload, rfl⟩ := same.sameButPolicy
        refine ⟨_, name, l, rfl, there, unready, opened, tag.trans ?_⟩
        obtain ⟨kept, alike⟩ := twin.holdings
        rw [alike]
        rfl
  · unfold Serves
    generalize (other.step again).answer = reply at answers ⊢
    cases answers with
    | initialised => rfl

theorem split_sameButPolicy {before rest : List Action}
    (same : List.Forall₂ Action.SameButPolicy (before ++ action :: rest) others) :
    ∃ sofar again later, others = sofar ++ again :: later ∧
      List.Forall₂ Action.SameButPolicy before sofar ∧ action.SameButPolicy again := by
  induction before generalizing others with
  | nil =>
    obtain ⟨again, later, first, _, rfl⟩ := List.forall₂_cons_left_iff.1 same
    exact ⟨[], again, later, rfl, .nil, first⟩
  | cons x before ih =>
    obtain ⟨y, others, first, more, rfl⟩ := List.forall₂_cons_left_iff.1 same
    obtain ⟨sofar, again, later, rfl, earlier, here⟩ := ih more
    exact ⟨y :: sofar, again, later, rfl, .cons first earlier, here⟩

theorem served_sameButPolicy (same : List.Forall₂ Action.SameButPolicy actions others)
    (served : (start b).Served actions n) : (start b).Served others n := by
  obtain ⟨before, action, rest, rfl, p, opens, serves⟩ := served
  obtain ⟨sofar, again, later, rfl, earlier, here⟩ := split_sameButPolicy same
  have twin := after_sameButPolicy (start_twin .policy b b) earlier
  obtain ⟨⟨q, reopens⟩, serves⟩ := opens_sameButPolicy twin here opens serves
  exact ⟨sofar, again, later, rfl, q, reopens, serves⟩

theorem events_sameButPolicy {before sofar : List Action}
    (earlier : List.Forall₂ Action.SameButPolicy before sofar) (here : action.SameButPolicy again) :
    SameButReleases (fun n => (start b).Served before n ∧ (start b).Served sofar n)
      (((start b).after before).step action).events
      (((start b).after sofar).step again).events := by
  obtain ⟨steps, inits⟩ :=
    step_sameButPolicy (after_sameButPolicy (start_twin .policy b b) earlier) here
  by_cases first : ∃ name, action = .init name
  · obtain ⟨name, begun⟩ := first
    rw [inits name begun]
    exact .refl _
  · apply SameButReleases.of_butReleases steps.events
    · intro n shown
      have served := served_of_released shown fun name begun => first ⟨name, begun⟩
      exact ⟨served, served_sameButPolicy earlier served⟩
    · intro n shown
      have served := served_of_released shown fun name begun => first ⟨name, (begun ▸ here).init⟩
      have back := earlier.flip.imp fun _ _ same => Action.SameButPolicy.symm same
      exact ⟨served_sameButPolicy back served, served⟩

/-- All that two runs of matching steps have in common: at each point they have come to the same and
answer the same, but for the policies of invokers, and leave the same trace, but for releases of
libraries that came to serve. An initialisation shows the same, with the release that follows when
it fails, and what an invoker says of itself differs in one field. -/
structure RunsMatch (b : Build) (actions others : List Action) : Prop where
  length : others.length = actions.length
  steps : ∀ before action rest, actions = before ++ action :: rest →
    ∃ sofar again later, others = sofar ++ again :: later ∧ sofar.length = before.length ∧
      (((start b).after before).step action).state.SameButPolicy
        (((start b).after sofar).step again).state ∧
      (((start b).after before).step action).answer.SameButPolicy
        (((start b).after sofar).step again).answer ∧
      SameButReleases (fun n => (start b).Served before n ∧ (start b).Served sofar n)
        (((start b).after before).step action).events
        (((start b).after sofar).step again).events ∧
      ∀ name, action = .init name →
        (((start b).after sofar).step again).events = (((start b).after before).step action).events
  debug : ∀ p q : Invoker b, p.SameButPolicy q →
    ∃ front back, p.debug = front ++ toString p.unloadOnDrop ++ back ∧
      q.debug = front ++ toString q.unloadOnDrop ++ back

/-- The policy of an invoker is invisible, except in releases of libraries that came to serve. -/
theorem policy_invisible (same : List.Forall₂ Action.SameButPolicy actions others) :
    RunsMatch b actions others where
  length := same.length_eq.symm
  debug p q same := same.debug
  steps := by
    rintro before action rest rfl
    obtain ⟨sofar, again, later, rfl, earlier, here⟩ := split_sameButPolicy same
    have twin := after_sameButPolicy (start_twin .policy b b) earlier
    obtain ⟨steps, inits⟩ := step_sameButPolicy twin here
    exact ⟨sofar, again, later, rfl, earlier.length_eq.symm, steps.state.sameButPolicy,
      steps.answer.sameButPolicy, events_sameButPolicy earlier here, inits⟩

/-- A handle is made and outlives its invoker, whose policy is given. -/
def outlived (unload : Bool) : List Action :=
  [.create "p" "plugin" "/lib" (.serving (Scripted.Script.table {} 0)) (some unload), .init "p",
    .invoke "p" (.loadGraph .single ⟨"/store", 1⟩ "graph" .empty) "h", .close "p", .drop "h"]

theorem policy_invisible_of_outlived :
    List.Forall₂ Action.SameButPolicy (outlived true) (outlived false) ∧
      RunsMatch .standard (outlived true) (outlived false) ∧
      releases ((start .standard).trace (outlived true)) ⟨.inProcess, 1⟩ = 1 ∧
      releases ((start .standard).trace (outlived false)) ⟨.inProcess, 1⟩ = 0 := by
  have same : List.Forall₂ Action.SameButPolicy (outlived true) (outlived false) :=
    .cons .create (List.forall₂_same.2 fun action _ => .same action)
  exact ⟨same, policy_invisible same, by decide, by decide⟩

end Host

end GraphPlugin
