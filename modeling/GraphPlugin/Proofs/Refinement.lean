import GraphPlugin.Proofs.Twins
import GraphPlugin.Proofs.Usage

/-! The experimental build refines the standard one. A library that it accepts is accepted by the
standard build, and a library that the standard build rejects is rejected by both for one reason;
what only the experimental build rejects lacks a conversion. A run without conversions goes the same
way in both builds as long as the experimental one accepts what the other does. -/
namespace GraphPlugin

variable {b : Build}

namespace Library

variable {l : Library}

/-- The library does not tell its version, or one that agrees in the major version. -/
def Compatible (l : Library) : Prop :=
  ∀ report : VersionReport, l.resolve .version = .ok report →
    report.version.major = Version.current.major

theorem exists_passes_iff (tag : Tag) (path : String) :
    (∃ probe, l.Passes tag path probe) ↔ l.Compatible := by
  constructor
  · rintro ⟨probe, passes⟩ report told
    cases passes with
    | untold missing => rw [missing] at told; cases told
    | told found agrees =>
      rw [found] at told
      cases told
      exact agrees
  · intro compatible
    refine (l.passes_or_disagrees tag path).resolve_right ?_
    rintro ⟨report, told, other⟩
    exact other (compatible report told)

theorem resolves_iff {ops : List Operation} :
    l.Resolves ops ↔ ∃ bindings : Bindings ops, l.Binds bindings := by
  constructor
  · intro resolves
    refine (l.bound_or_missing ops).resolve_right ?_
    rintro ⟨before, o, after, cause, rfl, _, missing⟩
    obtain ⟨entry, found⟩ := resolves o (by simp)
    rw [missing] at found
    cases found
  · rintro ⟨bindings, binds⟩ o offered
    exact ⟨_, binds o offered⟩

end Library

theorem Build.experimental_operations :
    Build.experimental.operations = Build.standard.operations ++ [.toArrow, .toDynamic] := rfl

theorem Build.experimental_split {before after : List Operation} {o : Operation}
    (split : Build.standard.operations = before ++ o :: after) :
    Build.experimental.operations = before ++ o :: (after ++ [.toArrow, .toDynamic]) := by
  rw [experimental_operations, split, List.append_assoc, List.cons_append]

namespace Invoker

abbrev new (b : Build) (id path : String) (loader : Loader) (unload : Bool) : Invoker b :=
  { id, path, loader, unloadOnDrop := unload }

variable {p : Invoker b} {s : Holdings} {id path : String} {loader : Loader} {unload : Bool}

theorem init_ok_iff (unready : p.status = .unready) (s : Holdings) :
    (p.init s).answer = .ok () ↔
      ∃ l, p.loader.openAt p.path = .ok l ∧ l.Compatible ∧ l.Resolves b.operations := by
  constructor
  · intro answer
    have initialises := initialises_init unready s
    generalize p.init s = result at initialises answer
    cases initialises with
    | served opened passes binds =>
      exact ⟨_, opened, (Library.exists_passes_iff _ _).1 ⟨_, passes⟩,
        Library.resolves_iff.2 ⟨_, binds⟩⟩
    | _ => cases answer
  · rintro ⟨l, opened, compatible, resolves⟩
    obtain ⟨probe, passes⟩ := (Library.exists_passes_iff (p.nextTag s) p.path).2 compatible
    obtain ⟨bindings, binds⟩ := Library.resolves_iff.1 resolves
    rw [← eq_init_of_initialises unready (.served opened passes binds)]

theorem init_missing {l : Library} {before after : List Operation} {o : Operation} {cause : Cause}
    (unready : p.status = .unready) (opened : p.loader.openAt p.path = .ok l)
    (compatible : l.Compatible) (split : b.operations = before ++ o :: after)
    (resolves : l.Resolves before) (missing : l.resolve o.entryPoint = .error cause)
    (s : Holdings) : (p.init s).answer = .error (.missingSymbol o.symbol p.path cause) := by
  obtain ⟨probe, passes⟩ := (Library.exists_passes_iff (p.nextTag s) p.path).2 compatible
  rw [← eq_init_of_initialises unready (.missing opened passes split resolves missing)]

theorem standard_error {s : Holdings} {error : InvokerError}
    (fails : ((new .standard id path loader unload).init s).answer = .error error) (t : Holdings) :
    ((new .experimental id path loader unload).init t).answer = .error error := by
  have initialises := initialises_init (p := new .standard id path loader unload) rfl s
  generalize (new .standard id path loader unload).init s = result at initialises fails
  cases initialises with
  | unopened unopened =>
    cases fails
    rw [init_unopened (p := new .experimental id path loader unload) rfl unopened]
  | incompatible opened found disagrees =>
    cases fails
    rw [← eq_init_of_initialises (p := new .experimental id path loader unload) rfl
      (.incompatible opened found disagrees)]
  | @missing l probe before after o cause opened passes split resolves missing =>
    cases fails
    have compatible := (Library.exists_passes_iff _ _).1 ⟨_, passes⟩
    exact init_missing (p := new .experimental id path loader unload) rfl opened compatible
      (Build.experimental_split split) resolves missing t
  | served _ _ _ => cases fails

theorem experimental_ok {s : Holdings}
    (accepts : ((new .experimental id path loader unload).init s).answer = .ok ()) (t : Holdings) :
    ((new .standard id path loader unload).init t).answer = .ok () := by
  obtain ⟨l, opened, compatible, resolves⟩ := (init_ok_iff rfl s).1 accepts
  refine (init_ok_iff rfl t).2 ⟨l, opened, compatible, fun o offered => resolves o ?_⟩
  exact List.mem_append_left _ offered

theorem accepted_by_standard_iff (id path : String) (loader : Loader) (unload : Bool)
    (s t : Holdings) :
    (((new .standard id path loader unload).init s).answer = .ok () ∧
        ∃ error, ((new .experimental id path loader unload).init t).answer = .error error) ↔
      ∃ l, loader.openAt path = .ok l ∧ l.Compatible ∧ l.Resolves Build.standard.operations ∧
        ¬ l.Resolves [.toArrow, .toDynamic] := by
  have rejects :
      (∃ error, ((new .experimental id path loader unload).init t).answer = .error error) ↔
        ¬ ((new .experimental id path loader unload).init t).answer = .ok () := by
    generalize ((new .experimental id path loader unload).init t).answer = answer
    cases answer <;> simp
  have both : ∀ l : Library, l.Resolves Build.experimental.operations ↔
      l.Resolves Build.standard.operations ∧ l.Resolves [.toArrow, .toDynamic] := by
    intro l
    rw [Build.experimental_operations]
    exact List.forall_mem_append
  rw [rejects, init_ok_iff rfl, init_ok_iff rfl]
  constructor
  · rintro ⟨⟨l, opened, compatible, base⟩, unaccepted⟩
    refine ⟨l, opened, compatible, base, fun conversions => unaccepted ?_⟩
    exact ⟨l, opened, compatible, (both l).2 ⟨base, conversions⟩⟩
  · rintro ⟨l, opened, compatible, base, lacking⟩
    refine ⟨⟨l, opened, compatible, base⟩, ?_⟩
    rintro ⟨again, reopened, _, resolves⟩
    cases opened.symm.trans reopened
    exact lacking ((both l).1 resolves).2

theorem conversion_missing {s t : Holdings} {error : InvokerError}
    (accepts : ((new .standard id path loader unload).init s).answer = .ok ())
    (fails : ((new .experimental id path loader unload).init t).answer = .error error) :
    ∃ l before o after cause, loader.openAt path = .ok l ∧
      [.toArrow, .toDynamic] = before ++ o :: after ∧ l.Resolves before ∧
      l.resolve o.entryPoint = .error cause ∧ error = .missingSymbol o.symbol path cause := by
  obtain ⟨l, opened, compatible, base⟩ := (init_ok_iff rfl s).1 accepts
  rcases l.bound_or_missing [.toArrow, .toDynamic] with
    ⟨bindings, binds⟩ | ⟨before, o, after, cause, split, resolves, missing⟩
  · have conversions := Library.resolves_iff.2 ⟨bindings, binds⟩
    have accepted : ((new .experimental id path loader unload).init t).answer = .ok () :=
      (init_ok_iff rfl t).2 ⟨l, opened, compatible, List.forall_mem_append.2 ⟨base, conversions⟩⟩
    rw [accepted] at fails
    cases fails
  · refine ⟨l, before, o, after, cause, opened, split, resolves, missing, ?_⟩
    have whole : Build.experimental.operations =
        (Build.standard.operations ++ before) ++ o :: after := by
      rw [Build.experimental_operations, split, List.append_assoc]
    have sooner : l.Resolves (Build.standard.operations ++ before) :=
      List.forall_mem_append.2 ⟨base, resolves⟩
    rw [init_missing (p := new .experimental id path loader unload) rfl opened compatible whole
      sooner missing] at fails
    exact (Except.error.inj fails).symm

theorem calls_of_lookups (tag : Tag) (symbols : List String) :
    (symbols.map (Event.resolving tag)).filter Event.isCall = [] := by
  rw [List.filter_eq_nil_iff]
  intro e shown
  obtain ⟨symbol, _, rfl⟩ := List.mem_map.1 shown
  exact Bool.false_ne_true

theorem symbol_of_lookups {l : Library} {n tag : Tag} {symbol path : String} {symbols : List String}
    {first probe last : List Event} (passes : l.Passes tag path probe)
    (asked : symbols ⊆ b.requiredSymbols) (before : Event.resolving n symbol ∉ first)
    (after : Event.resolving n symbol ∉ last)
    (shown : Event.resolving n symbol ∈ first ++ probe ++ symbols.map (.resolving tag) ++ last) :
    symbol = "GraphLinkAbiVersion" ∨ symbol ∈ b.requiredSymbols := by
  simp only [List.mem_append, List.mem_map] at shown
  rcases shown with ((early | probed) | ⟨other, taken, same⟩) | late
  · exact absurd early before
  · left
    cases passes <;> simp_all
  · cases same
    exact .inr (asked taken)
  · exact absurd late after

theorem resolving_of_init {n : Tag} {symbol : String}
    (shown : Event.resolving n symbol ∈ (p.init s).events) :
    symbol = "GraphLinkAbiVersion" ∨ symbol ∈ b.requiredSymbols := by
  by_cases unready : p.status = .unready
  · have initialises := initialises_init unready s
    generalize p.init s = result at initialises shown
    cases initialises with
    | unopened _ => simp at shown
    | incompatible _ _ _ => simp_all
    | missing _ passes _ _ _ =>
      exact symbol_of_lookups passes (List.take_subset _ _) (by simp) (by simp) shown
    | served _ passes _ =>
      exact symbol_of_lookups passes (List.Subset.refl _) (by simp) (by simp) shown
  · rw [init_again unready] at shown
    cases shown

end Invoker

def Leeway.none : Leeway where
  loaders _ := Eq
  policies := Eq
  loaders_refl _ _ := rfl
  policies_refl _ := rfl

namespace Invoker

theorem Initialises.experimental {p : Invoker .standard} {s t : Holdings} (alike : s.Alike t)
    {first : Outcome (Invoker .standard × Holdings) (Except InvokerError Unit)}
    (initialises : p.Initialises s first)
    (accepts : first.answer = .ok () →
      ∃ l, p.loader.openAt p.path = .ok l ∧ l.Resolves Build.experimental.operations) :
    ∃ second, (new .experimental p.id p.path p.loader p.unloadOnDrop).Initialises t second ∧
      InitTwin .none first second ∧
      second.events.filter Event.isCall = first.events.filter Event.isCall := by
  have tag : (new .experimental p.id p.path p.loader p.unloadOnDrop).nextTag t = p.nextTag s := by
    obtain ⟨kept, rfl⟩ := alike
    rfl
  cases initialises with
  | unopened unopened =>
    exact ⟨_, .unopened unopened, ⟨⟨rfl, rfl, rfl, rfl, .failed⟩, alike, rfl⟩, rfl⟩
  | incompatible opened found disagrees =>
    refine ⟨_, .incompatible opened found disagrees, ?_, ?_⟩
    · exact ⟨⟨rfl, rfl, rfl, rfl, .failed⟩, (alike.addLibrary _).2, rfl⟩
    · rw [tag]
      rfl
  | missing opened passes split resolves missing =>
    rw [← tag] at passes
    refine ⟨_, .missing opened passes (Build.experimental_split split) resolves missing, ?_, ?_⟩
    · exact ⟨⟨rfl, rfl, rfl, rfl, .failed⟩, (alike.addLibrary _).2, rfl⟩
    · simp only [List.filter_append, calls_of_lookups]
      rfl
  | served opened passes binds =>
    obtain ⟨again, reopened, resolves⟩ := accepts rfl
    cases opened.symm.trans reopened
    obtain ⟨others, bound⟩ := Library.resolves_iff.1 resolves
    rw [← tag] at passes
    refine ⟨_, .served opened passes bound, ?_, ?_⟩
    · rw [tag]
      refine ⟨⟨rfl, rfl, rfl, rfl, .ready fun o offered added => ?_⟩,
        (alike.addLibrary _).2.share _ _ _, rfl⟩
      exact Except.ok.inj ((bound o added).symm.trans (binds o offered))
    · simp only [List.filter_append, calls_of_lookups]
      rfl

theorem Twin.eq_new {p : Invoker .standard} {q : Invoker .experimental} (twin : p.Twin .none q)
    (unready : q.status = .unready) :
    q = new .experimental p.id p.path p.loader p.unloadOnDrop := by
  obtain ⟨id, path, loader, policy, _⟩ := twin
  obtain ⟨_, _, _, _, status⟩ := q
  cases id
  cases path
  cases loader
  cases policy
  cases unready
  rfl

theorem Twin.init {p : Invoker .standard} {q : Invoker .experimental} {s t : Holdings}
    (twin : p.Twin .none q) (alike : s.Alike t)
    (accepts : (p.init s).answer = .ok () → (q.init t).answer = .ok ()) :
    InitTwin .none (p.init s) (q.init t) ∧
      (q.init t).events.filter Event.isCall = (p.init s).events.filter Event.isCall := by
  by_cases unready : p.status = .unready
  · obtain rfl := twin.eq_new (twin.unready_iff.2 unready)
    have initialises := initialises_init unready s
    obtain ⟨second, again, same⟩ := initialises.experimental alike fun answer => by
      obtain ⟨l, opened, _, resolves⟩ := (init_ok_iff rfl t).1 (accepts answer)
      exact ⟨l, opened, resolves⟩
    rwa [eq_init_of_initialises rfl again] at same
  · have started := mt twin.unready_iff.1 unready
    rw [init_again unready, init_again started, twin.wrongState]
    exact ⟨⟨twin, alike, rfl⟩, rfl⟩

end Invoker

namespace Host

/-- Whether the action asks for no conversion. -/
def Unconverting (action : Action) : Prop :=
  ∀ name request result, action = .invoke name request result →
    request.operation.isConversion = false

/-- Every initialisation of a run that goes well in the one host goes well in the other. -/
def ServesAsWell (host : Host .standard) (other : Host .experimental)
    (actions : List Action) : Prop :=
  ∀ before name rest, actions = before ++ .init name :: rest →
    Serves (host.after before) (.init name) → Serves (other.after before) (.init name)

theorem unconverting_common {action : Action} (unconverting : Unconverting action) :
    action.Common .standard .experimental := by
  intro name request result invoked
  have base := unconverting name request result invoked
  rw [Build.mem_operations_iff, Build.mem_operations_iff]
  simp [base]

theorem calls_butReleases (events : List Event) :
    (butReleases events).filter Event.isCall = events.filter Event.isCall := by
  rw [butReleases, List.filter_filter]
  congr 1
  funext e
  cases e <;> rfl

theorem step_refines {host : Host .standard} {other : Host .experimental} {action : Action}
    (twin : host.Twin .none other) (unconverting : Unconverting action)
    (serves : ∀ name, action = .init name → Serves host action → Serves other action) :
    (host.step action).state.Twin .none (other.step action).state ∧
      Reply.Twin .none (host.step action).answer (other.step action).answer ∧
      (other.step action).events.filter Event.isCall =
        (host.step action).events.filter Event.isCall := by
  by_cases first : ∃ name, action = .init name
  · obtain ⟨name, rfl⟩ := first
    have related := twin.invokers name
    generalize found : host.invokers.get? name = invoker, there : other.invokers.get? name = another
      at related
    cases related with
    | none =>
      rw [step_init_unknown found, step_init_unknown there]
      exact ⟨twin, .unknown name, rfl⟩
    | some same =>
      have accepts := serves name rfl
      rw [serves_init_iff found, serves_init_iff there] at accepts
      obtain ⟨init, calls⟩ := same.init twin.holdings accepts
      obtain ⟨state, replies⟩ := stepInit_twin twin name init
      rw [step_init found, step_init there]
      exact ⟨state, replies, calls⟩
  · have later := fun name here => first ⟨name, here⟩
    have steps := step_twin twin (.same action) (unconverting_common unconverting) later
    refine ⟨steps.state, steps.answer, ?_⟩
    rw [← calls_butReleases, steps.events, calls_butReleases]

/-- The two runs answer the same and call the same functions in each of their steps. -/
def RunsAlike (first : List (List Event × Reply .standard))
    (second : List (List Event × Reply .experimental)) : Prop :=
  List.Forall₂ (fun step again => Reply.Twin .none step.2 again.2 ∧
    again.1.filter Event.isCall = step.1.filter Event.isCall) first second

theorem run_refines {host : Host .standard} {other : Host .experimental} {actions : List Action}
    (twin : host.Twin .none other) (unconverting : ∀ action ∈ actions, Unconverting action)
    (serves : ServesAsWell host other actions) :
    (host.after actions).Twin .none (other.after actions) ∧
      RunsAlike (host.run actions).2 (other.run actions).2 := by
  induction actions generalizing host other with
  | nil => exact ⟨twin, .nil⟩
  | cons action rest ih =>
    obtain ⟨here, unconverting⟩ := List.forall_mem_cons.1 unconverting
    obtain ⟨state, answer, calls⟩ := step_refines twin here fun name first =>
      first ▸ serves [] name rest (by rw [first]; rfl)
    obtain ⟨last, steps⟩ := ih state unconverting fun before name more split =>
      serves (action :: before) name more (by rw [split]; rfl)
    exact ⟨last, .cons ⟨answer, calls⟩ steps⟩

/-- The action is a call for another operation than a conversion. -/
def BaseCall (action : Action) : Prop :=
  ∃ name request result, action = .invoke name request result ∧
    request.operation.isConversion = false

theorem calls_refine {name id path : String} {loader : Loader} {unload : Option Bool}
    {calls : List Action} (base : ∀ call ∈ calls, BaseCall call)
    (serves : Serves ((start .experimental).after [.create name id path loader unload])
      (.init name)) :
    RunsAlike
      (((start .standard).after [.create name id path loader unload, .init name]).run calls).2
      (((start .experimental).after
          [.create name id path loader unload, .init name]).run calls).2 := by
  have opening : ∀ action ∈ [.create name id path loader unload, .init name],
      Unconverting action := by
    simp [Unconverting]
  have ready : ServesAsWell (start .standard) (start .experimental)
      [.create name id path loader unload, .init name] := by
    rintro before other rest split _
    match before with
    | [] => cases split
    | [_] =>
      cases split
      exact serves
    | _ :: _ :: before => simp at split
  obtain ⟨twin, _⟩ := run_refines (start_twin .none _ _) opening ready
  refine (run_refines twin (fun call here => ?_) fun before other rest split => ?_).2
  · obtain ⟨_, request, _, rfl, conversion⟩ := base call here
    rintro _ _ _ ⟨⟩
    exact conversion
  · obtain ⟨_, _, _, same, _⟩ := base (.init other) (by simp [split])
    cases same

theorem step_leftOut {host : Host .standard} {name : String} {p : Invoker .standard}
    {request : Request} {o : Operation} {args : Arguments o.shape}
    (found : host.invokers.get? name = some p) (calls : host.Calls request o args)
    (conversion : o.isConversion = true) (result : String) :
    host.step (.invoke name request result) =
      ⟨host, [.log (.conversionRejected p.id o.symbol)],
        .refused (.unsupported o.symbol Invoker.conversionsLeftOut)⟩ := by
  have out : o ∉ Build.standard.operations := by
    rw [Build.mem_operations_iff]
    simp [conversion]
  rw [step_invoke found (arguments_eq_ok_iff.2 calls), stepInvoke, Invoker.invoke_leftOut out]

theorem conversion_unresolved (host : Host .standard) (actions : List Action) (n : Tag)
    {o : Operation} (conversion : o.isConversion = true) :
    Event.resolving n o.symbol ∉ host.trace actions := by
  intro shown
  obtain ⟨sofar, action, later, rfl, here⟩ := shown_split shown
  rcases quiet_step here trivial with
    ⟨name, p, rfl, found, shown⟩ | ⟨name, request, result, p, o, args, rfl, found, asked, shown⟩
  · rcases Invoker.resolving_of_init shown with version | required
    · cases o <;> simp_all [Operation.symbol, Operation.isConversion]
    · cases o <;> simp_all [Operation.symbol, Operation.isConversion, Build.requiredSymbols]
  · rcases p.invoke_shows _ o args _ shown with ⟨_, same⟩ | ⟨_, _, _, same⟩
    · cases same
    · cases same

/-- How the two builds are related: what the experimental one accepts the standard one accepts, and
then all calls that both offer go the same way; what the standard one rejects is rejected with the
same error; and what only the experimental one rejects lacks a conversion, which the error names.
The standard build refuses conversions in any state and never asks a library for them. -/
structure BuildsRefine : Prop where
  accepts : ∀ id path loader unload s t,
    ((Invoker.new .experimental id path loader unload).init s).answer = .ok () →
      ((Invoker.new .standard id path loader unload).init t).answer = .ok ()
  calls : ∀ name id path loader unload calls,
    Serves ((start .experimental).after [.create name id path loader unload]) (.init name) →
      (∀ call ∈ calls, BaseCall call) → RunsAlike
        (((start .standard).after [.create name id path loader unload, .init name]).run calls).2
        (((start .experimental).after [.create name id path loader unload, .init name]).run calls).2
  runs : ∀ actions, (∀ action ∈ actions, Unconverting action) →
    ServesAsWell (start .standard) (start .experimental) actions →
      RunsAlike ((start .standard).run actions).2 ((start .experimental).run actions).2
  rejects : ∀ id path loader unload s t error,
    ((Invoker.new .standard id path loader unload).init s).answer = .error error →
      ((Invoker.new .experimental id path loader unload).init t).answer = .error error
  differs : ∀ id path loader unload s t,
    (((Invoker.new .standard id path loader unload).init s).answer = .ok () ∧
        ∃ error, ((Invoker.new .experimental id path loader unload).init t).answer = .error error) ↔
      ∃ l, loader.openAt path = .ok l ∧ l.Compatible ∧ l.Resolves Build.standard.operations ∧
        ¬ l.Resolves [.toArrow, .toDynamic]
  names : ∀ id path loader unload s t error,
    ((Invoker.new .standard id path loader unload).init s).answer = .ok () →
      ((Invoker.new .experimental id path loader unload).init t).answer = .error error →
      ∃ l before o after cause, loader.openAt path = .ok l ∧
        [.toArrow, .toDynamic] = before ++ o :: after ∧ l.Resolves before ∧
        l.resolve o.entryPoint = .error cause ∧ error = .missingSymbol o.symbol path cause
  leavesOut : ∀ (host : Host .standard) name p request o args result,
    host.invokers.get? name = some p → host.Calls request o args → o.isConversion = true →
      host.step (.invoke name request result) =
        ⟨host, [.log (.conversionRejected p.id o.symbol)],
          .refused (.unsupported o.symbol "compiled without the `experimental` feature")⟩
  unresolved : ∀ (host : Host .standard) actions n o, Operation.isConversion o = true →
    Event.resolving n o.symbol ∉ host.trace actions

theorem experimental_refines_standard : BuildsRefine where
  accepts _ _ _ _ _ t accepted := Invoker.experimental_ok accepted t
  calls _ _ _ _ _ _ serves base := calls_refine base serves
  runs _ unconverting serves := (run_refines (start_twin .none _ _) unconverting serves).2
  rejects _ _ _ _ _ t _ rejected := Invoker.standard_error rejected t
  differs := Invoker.accepted_by_standard_iff
  names _ _ _ _ _ _ _ accepted rejected := Invoker.conversion_missing accepted rejected
  leavesOut _ _ _ _ _ _ result found calls conversion :=
    step_leftOut found calls conversion result
  unresolved host actions n _ conversion := host.conversion_unresolved actions n conversion

theorem experimental_refines_standard_of_table :
    RunsAlike
      (((start .standard).after [.create "p" "plugin" "/lib"
          (.serving (Scripted.Script.table {} 0)) none, .init "p"]).run
        [.invoke "p" (.loadGraph .single ⟨"/store", 1⟩ "graph" .empty) "h",
          .invoke "p" (.addVertices (.inr "h") .single ⟨"/store", 1⟩ "" .empty) "k",
          .invoke "p" (.addEdges (.inl ⟨7⟩) .single ⟨"/store", 1⟩ "graph" .empty) "k"]).2
      (((start .experimental).after [.create "p" "plugin" "/lib"
          (.serving (Scripted.Script.table {} 0)) none, .init "p"]).run
        [.invoke "p" (.loadGraph .single ⟨"/store", 1⟩ "graph" .empty) "h",
          .invoke "p" (.addVertices (.inr "h") .single ⟨"/store", 1⟩ "" .empty) "k",
          .invoke "p" (.addEdges (.inl ⟨7⟩) .single ⟨"/store", 1⟩ "graph" .empty) "k"]).2 :=
  experimental_refines_standard.calls "p" "plugin" "/lib" _ none _ rfl
    (by simp [BaseCall, Request.operation, Operation.isConversion])

end Host

end GraphPlugin
