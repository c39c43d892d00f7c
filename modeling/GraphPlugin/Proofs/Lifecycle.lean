import GraphPlugin.Proofs.Footprint
import GraphPlugin.Proofs.Lives

/-! The life of an invoker, from the step that creates it: unready until it is initialised, and from
then on for good what came of that. It asks its loader once, a second initialisation and a call at
the wrong time are refused without a trace, and nothing that is refused changes an invoker or the
number of shares of a library. -/
namespace GraphPlugin

def Event.isOpening : Event → Bool
  | opening _ _ => true
  | _ => false

/-- The step is a call on the invoker under the name. -/
def Action.isOn (name : String) : Action → Bool
  | setUnloadOnDrop other _ => other == name
  | init other => other == name
  | inspect other => other == name
  | invoke other _ _ => other == name
  | _ => false

namespace Invoker

variable {b : Build} {p : Invoker b}

theorem openings_init (unready : p.status = .unready) (s : Holdings) :
    (p.init s).events.filter Event.isOpening = [.opening p.loader.origin p.path] := by
  have initialises := initialises_init unready s
  have lookups : ∀ symbols : List String,
      (symbols.map (Event.resolving (p.nextTag s))).filter Event.isOpening = [] := by
    simp [Event.isOpening]
  have probes : ∀ {l : Library} {probe : List Event}, l.Passes (p.nextTag s) p.path probe →
      probe.filter Event.isOpening = [] := by
    intro l probe passes
    cases passes <;> rfl
  generalize p.init s = result at initialises ⊢
  cases initialises with
  | unopened _ => rfl
  | incompatible _ _ _ => rfl
  | missing _ passes _ _ _ =>
    simp only [List.filter_append, lookups, probes passes]
    rfl
  | served _ passes _ =>
    simp only [List.filter_append, lookups, probes passes]
    rfl

end Invoker

namespace Host

variable {b : Build} {host : Host b}

/-- What happens in those steps of a run that are calls on the invoker under the name. -/
def callTrace (host : Host b) (name : String) : List Action → List Event
  | [] => []
  | action :: rest =>
    (if action.isOn name then (host.step action).events else []) ++
      (host.step action).state.callTrace name rest

theorem callTrace_append (name : String) (actions more : List Action) :
    host.callTrace name (actions ++ more) =
      host.callTrace name actions ++ (host.after actions).callTrace name more := by
  induction actions generalizing host with
  | nil => rfl
  | cons action rest ih =>
    simp only [List.cons_append, callTrace, ih, after_cons, List.append_assoc]

/-- The life of an invoker after the step that created it. -/
structure LivesOnce (host : Host b) (name : String) (p : Invoker b)
    (life : List Action) : Prop where
  unready : Action.init name ∉ life →
    ∃ q, (host.after life).invokers.get? name = some q ∧ q.state = .unready
  settled : ∀ before later, life = before ++ .init name :: later → Action.init name ∉ before →
    ∃ first last, ((host.after before).step (.init name)).state.invokers.get? name = some first ∧
      (host.after life).invokers.get? name = some last ∧ last.status = first.status ∧
      (first.state = .ready ∧ Serves (host.after before) (.init name) ∨
        first.state = .failed ∧ Fails (host.after before) (.init name))
  unopened : Action.init name ∉ life → (host.callTrace name life).filter Event.isOpening = []
  opened : Action.init name ∈ life →
    (host.callTrace name life).filter Event.isOpening = [.opening p.loader.origin p.path]
  again : ∀ before later, life = before ++ .init name :: later → Action.init name ∈ before →
    ∃ q, (host.after before).invokers.get? name = some q ∧ q.state ≠ .unready ∧
      (host.after before).step (.init name) =
        ⟨host.after before, [], .initialised q.state (.error (.wrongState p.id q.state .unready))⟩
  unreached : ∀ before later request result o args q,
    life = before ++ .invoke name request result :: later →
    (host.after before).Calls request o args → o ∈ b.operations →
    (host.after before).invokers.get? name = some q → q.state ≠ .ready →
      (host.after before).step (.invoke name request result) =
        ⟨host.after before, [], .refused (.wrongState p.id q.state .ready)⟩
  harmless : ∀ before action later error, life = before ++ action :: later →
    ((host.after before).step action).answer = .refused error →
      ((host.after before).step action).state.invokers = (host.after before).invokers ∧
        ((host.after before).step action).state.holdings.shares =
          (host.after before).holdings.shares

section Steps

variable {name : String} {p : Invoker b} {actions : List Action}

theorem openings_settled {action : Action} (found : host.invokers.get? name = some p)
    (settled : p.status ≠ .unready ∨ action ≠ .init name) (on : action.isOn name = true) :
    (host.step action).events.filter Event.isOpening = [] := by
  rw [List.filter_eq_nil_iff]
  intro e shown opening
  have quiet : e.Quiet := by cases e <;> simp_all [Event.isOpening, Event.Quiet]
  rcases quiet_step shown quiet with
    ⟨other, q, rfl, there, shown⟩ | ⟨_, _, _, q, o, args, rfl, _, _, shown⟩
  · obtain rfl : other = name := beq_iff_eq.1 on
    obtain rfl : q = p := Option.some.inj (there.symm.trans found)
    rw [Invoker.init_again (settled.resolve_right (· rfl))] at shown
    cases shown
  · rcases q.invoke_shows _ o args e shown with ⟨_, rfl⟩ | ⟨_, _, _, rfl⟩
    · cases opening
    · cases opening

theorem openings_callTrace_settled (found : host.invokers.get? name = some p)
    (lasts : Lasts name actions) (settled : p.status ≠ .unready ∨ .init name ∉ actions) :
    (host.callTrace name actions).filter Event.isOpening = [] := by
  induction actions generalizing host p with
  | nil => rfl
  | cons action rest ih =>
    have first : p.status ≠ .unready ∨ action ≠ .init name :=
      settled.imp_right fun none same => none (same ▸ List.mem_cons_self)
    obtain ⟨goes, lasts⟩ := lasts_cons_iff.1 lasts
    obtain ⟨unload, next⟩ := step_settled found goes first
    have rest_settled := settled.imp_right fun none => mt (List.mem_cons_of_mem action) none
    have later := ih (p := p.setUnloadOnDrop unload) next lasts rest_settled
    rw [callTrace, List.filter_append, later, List.append_nil]
    by_cases on : action.isOn name = true
    · rw [if_pos on]
      exact openings_settled found first on
    · rw [if_neg on]
      rfl

theorem step_init_again (found : host.invokers.get? name = some p) (started : p.status ≠ .unready) :
    host.step (.init name) =
      ⟨host, [], .initialised p.state (.error (.wrongState p.id p.state .unready))⟩ := by
  rw [step_init found, stepInit, Invoker.init_again started]
  simp [Keyed.insert_of_get? found, Invoker.wrongState]

theorem step_invoke_not_ready {request : Request} {o : Operation} {args : Arguments o.shape}
    (found : host.invokers.get? name = some p) (calls : host.Calls request o args)
    (offered : o ∈ b.operations) (unready : p.state ≠ .ready) (result : String) :
    host.step (.invoke name request result) =
      ⟨host, [], .refused (.wrongState p.id p.state .ready)⟩ := by
  have idle := Invoker.state_ne_ready_iff.1 unready
  rw [step_invoke found (arguments_eq_ok_iff.2 calls), stepInvoke,
    Invoker.invoke_notReady offered idle]
  rfl

theorem step_refused {action : Action} {error : InvokerError}
    (refused : (host.step action).answer = .refused error) :
    (host.step action).state.invokers = host.invokers ∧
      (host.step action).state.holdings.shares = host.holdings.shares := by
  have outcome := host.step_cases action
  generalize host.step action = result at outcome refused ⊢
  cases outcome with
  | @invoked name request result o args p found asked =>
    refine ⟨invokers_stepInvoke _ _ _ _, ?_⟩
    have invokes := stepInvoke_invokes found asked result
    generalize host.stepInvoke p o args result = invoked at invokes refused ⊢
    cases invokes with
    | refused => rfl
    | answered _ _ _ => cases refused
  | _ => cases refused

end Steps

theorem first_init {name : String} {p : Invoker b} (found : host.invokers.get? name = some p)
    (unready : p.status = .unready) :
    ∃ first, (host.step (.init name)).state.invokers.get? name = some first ∧
      first.status ≠ .unready ∧
      (first.state = .ready ∧ Serves host (.init name) ∨
        first.state = .failed ∧ Fails host (.init name)) := by
  have outcome := p.init_cases host.holdings
  unfold Serves Fails
  rw [step_init found, stepInit]
  generalize p.init host.holdings = result at outcome ⊢
  refine ⟨result.state.1, by simp, ?_⟩
  cases outcome with
  | again started => contradiction
  | unopened _ _ => exact ⟨by simp, .inr ⟨rfl, _, rfl⟩⟩
  | unbound _ _ _ => exact ⟨by simp, .inr ⟨rfl, _, rfl⟩⟩
  | served _ _ _ => exact ⟨by simp, .inl ⟨rfl, rfl⟩⟩

theorem after_first_init {name : String} {p : Invoker b} {before later : List Action}
    (found : host.invokers.get? name = some p) (unready : p.status = .unready)
    (lasts : Lasts name (before ++ .init name :: later)) (none : Action.init name ∉ before) :
    ∃ first unload, ((host.after before).step (.init name)).state.invokers.get? name = some first ∧
      first.status ≠ .unready ∧
      (host.after (before ++ .init name :: later)).invokers.get? name =
        some (first.setUnloadOnDrop unload) ∧
      (first.state = .ready ∧ Serves (host.after before) (.init name) ∨
        first.state = .failed ∧ Fails (host.after before) (.init name)) := by
  obtain ⟨lastsBefore, lasts⟩ := lasts_append_iff.1 lasts
  obtain ⟨policy, waiting⟩ := after_settled found lastsBefore (.inr none)
  obtain ⟨first, there, started, outcome⟩ := first_init waiting unready
  obtain ⟨unload, last⟩ := after_settled there (lasts_cons_iff.1 lasts).2 (.inl started)
  refine ⟨first, unload, there, started, ?_, outcome⟩
  rw [after_append, after_cons]
  exact last

theorem openings_callTrace {name : String} {p : Invoker b} {life : List Action}
    (found : host.invokers.get? name = some p) (unready : p.status = .unready)
    (lasts : Lasts name life) (once : Action.init name ∈ life) :
    (host.callTrace name life).filter Event.isOpening = [.opening p.loader.origin p.path] := by
  obtain ⟨before, later, rfl, none⟩ := List.eq_append_cons_of_mem once
  obtain ⟨lastsBefore, lasts⟩ := lasts_append_iff.1 lasts
  obtain ⟨policy, waiting⟩ := after_settled found lastsBefore (.inr none)
  obtain ⟨first, there, started, _⟩ := first_init waiting unready
  have earlier := openings_callTrace_settled found lastsBefore (.inr none)
  have here : ((host.after before).step (.init name)).events.filter Event.isOpening =
      [.opening p.loader.origin p.path] := by
    rw [step_init waiting]
    exact Invoker.openings_init (p := p.setUnloadOnDrop policy) unready _
  have after := openings_callTrace_settled there (lasts_cons_iff.1 lasts).2 (.inl started)
  have on : (Action.init name).isOn name = true := beq_self_eq_true name
  rw [callTrace_append, callTrace, if_pos on, List.filter_append, List.filter_append, earlier, here,
    after]
  rfl

theorem step_init_later {name : String} {p : Invoker b} {before : List Action}
    (found : host.invokers.get? name = some p) (unready : p.status = .unready)
    (lasts : Lasts name before) (again : Action.init name ∈ before) :
    ∃ q, (host.after before).invokers.get? name = some q ∧ q.state ≠ .unready ∧
      (host.after before).step (.init name) =
        ⟨host.after before, [],
          .initialised q.state (.error (.wrongState p.id q.state .unready))⟩ := by
  obtain ⟨earlier, since, rfl, none⟩ := List.eq_append_cons_of_mem again
  obtain ⟨first, policy, _, started, last, _⟩ := after_first_init found unready lasts none
  obtain ⟨q, there, same⟩ := after_id found lasts
  obtain rfl : q = first.setUnloadOnDrop policy := Option.some.inj (there.symm.trans last)
  refine ⟨_, there, Invoker.state_ne_unready_iff.2 started, ?_⟩
  rw [step_init_again there started, same]

/-- Whatever a host does with an invoker that it has just created, it lives once. -/
theorem lives_once (host : Host b) (name id path : String) (loader : Loader) (unload : Option Bool)
    {life : List Action} (lasts : Lasts name life) :
    LivesOnce (host.step (.create name id path loader unload)).state name
      { id, path, loader, unloadOnDrop := unload.getD true } life := by
  have created := host.get?_create name id path loader unload
  generalize (host.step (.create name id path loader unload)).state = host at created ⊢
  generalize fresh : (⟨id, path, loader, unload.getD true, .unready⟩ : Invoker b) = p at created ⊢
  have unready : p.status = .unready := fresh ▸ rfl
  have lastsTo : ∀ {before later}, life = before ++ later → Lasts name before :=
    fun split => (lasts_append_iff.1 (split ▸ lasts)).1
  constructor
  case unready =>
    intro none
    obtain ⟨policy, waiting⟩ := after_settled created lasts (.inr none)
    exact ⟨_, waiting, by simp [Invoker.state, Invoker.setUnloadOnDrop, unready]⟩
  case settled =>
    rintro before later rfl none
    obtain ⟨first, policy, there, _, last, outcome⟩ := after_first_init created unready lasts none
    exact ⟨first, _, there, last, rfl, outcome⟩
  case unopened =>
    exact fun none => openings_callTrace_settled created lasts (.inr none)
  case opened =>
    exact openings_callTrace created unready lasts
  case again =>
    intro before later split again
    exact step_init_later created unready (lastsTo split) again
  case unreached =>
    intro before later request result o args q split calls offered there idle
    obtain ⟨r, again, same⟩ := after_id created (lastsTo split)
    obtain rfl : r = q := Option.some.inj (again.symm.trans there)
    rw [step_invoke_not_ready there calls offered idle, same]
  case harmless =>
    exact fun _ _ _ _ _ refused => step_refused refused

theorem lives_once_of_table :
    Lasts "p" [.setUnloadOnDrop "p" false, .init "p",
        .invoke "p" (.loadGraph .single ⟨"/store", 1⟩ "" .empty) "h", .init "p"] ∧
      LivesOnce ((start .standard).step
          (.create "p" "plugin" "/lib" (.serving (Scripted.Script.table {} 0)) none)).state "p"
        (.ofTable (Scripted.Script.table {} 0))
        [.setUnloadOnDrop "p" false, .init "p",
          .invoke "p" (.loadGraph .single ⟨"/store", 1⟩ "" .empty) "h", .init "p"] := by
  have lasts : Lasts "p" [.setUnloadOnDrop "p" false, .init "p",
      .invoke "p" (.loadGraph .single ⟨"/store", 1⟩ "" .empty) "h", .init "p"] := by
    simp [Lasts, Ends]
  exact ⟨lasts, lives_once _ "p" "plugin" "/lib" _ none lasts⟩

end Host

end GraphPlugin
