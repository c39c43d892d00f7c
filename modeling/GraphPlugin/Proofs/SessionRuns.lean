import GraphPlugin.Proofs.Lives
import GraphPlugin.Proofs.TableHistories

/-! Runs of a session. A step writes at most one table and one loader, each by name, and most steps
do nothing to the host. So what a session has under a name stays as it is until a step writes that
name, whatever it was made from, and an invoker keeps the loader that it was given. -/
namespace GraphPlugin

namespace Step

def table? : Step → Option String
  | .newTable name => some name
  | .fullTable name _ => some name
  | .register name _ _ _ => some name
  | .remove name _ => some name
  | .copyTable _ result => some result
  | .openTable _ _ result => some result
  | _ => none

def loader? : Step → Option String
  | .newLoader name => some name
  | .serve name _ _ => some name
  | .copyLoader _ result => some result
  | _ => none

def Hosted : Step → Prop
  | .create _ _ _ _ _ => True
  | .act _ => True
  | .probe _ _ _ => True
  | _ => False

def Ends (name : String) : Step → Prop
  | .create other _ _ _ _ => other = name
  | .act action => Host.Ends name action
  | _ => False

end Step

namespace Session

open SymbolTable

variable {b : Build}

def after (s : Session b) (steps : List Step) : Session b :=
  steps.foldl (fun s step => (s.step step).state) s

@[simp] theorem after_cons (s : Session b) (step : Step) (rest : List Step) :
    s.after (step :: rest) = (s.step step).state.after rest := rfl

theorem after_eq {α : Type*} (read : Session b → α) {keeps : Step → Prop}
    (each : ∀ s step, keeps step → read (s.step step).state = read s) (s : Session b)
    {steps : List Step} (kept : ∀ step ∈ steps, keeps step) : read (s.after steps) = read s := by
  induction steps generalizing s with
  | nil => rfl
  | cons step rest ih =>
    obtain ⟨first, later⟩ := List.forall_mem_cons.1 kept
    rw [after_cons, ih _ later, each s step first]

theorem target_of_table? (s : Session b) {step : Step} {name : String}
    (untouched : step.table? ≠ some name) : ∀ command ∈ s.commands step, command.target ≠ name := by
  intro command issued
  have writes : step.table? = some command.target := by
    cases step with
    | newTable _ | copyTable _ _ | register _ _ _ _ | remove _ _ =>
      obtain rfl := List.mem_singleton.1 issued
      rfl
    | fullTable other number =>
      rcases List.mem_cons.1 issued with rfl | edits
      · rfl
      · obtain ⟨r, _, rfl⟩ := List.mem_map.1 edits
        rfl
    | _ => exact absurd issued List.not_mem_nil
  rintro rfl
  exact untouched writes

theorem table_step (s : Session b) {step : Step} {name : String}
    (untouched : step.table? ≠ some name) :
    (s.step step).state.tables.get? name = s.tables.get? name := by
  cases step with
  | openTable loader path result =>
    have apart : name ≠ result := fun same => untouched (by rw [same]; rfl)
    simp only [Session.step]
    split
    · rfl
    · split
      · rfl
      · exact Keyed.get?_insert_of_ne _ _ apart
  | _ =>
    rw [s.tables_step (by simp), get?_foldl_obey _ (s.target_of_table? untouched)]

theorem step_leaves (s : Session b) (step : Step) :
    (step.loader? = none → (s.step step).state.loaders = s.loaders) ∧
      (¬ step.Hosted → (s.step step).state.host = s.host) := by
  cases step with
  | create name id path source unload =>
    refine ⟨fun _ => ?_, fun outside => absurd trivial outside⟩
    cases source with
    | tables loader openFailure failures =>
      simp only [Session.step]
      split <;> rfl
    | system => rfl
  | probe name symbol role =>
    refine ⟨fun _ => ?_, fun outside => absurd trivial outside⟩
    simp only [Session.step]
    split
    · rfl
    · split <;> rfl
  | act action => exact ⟨fun _ => rfl, fun outside => absurd trivial outside⟩
  | register _ _ _ _ | remove _ _ =>
    simp only [Session.step, changeTable]
    split <;> exact ⟨fun _ => rfl, fun _ => rfl⟩
  | openTable name path result =>
    simp only [Session.step]
    split
    · exact ⟨fun _ => rfl, fun _ => rfl⟩
    · split <;> exact ⟨fun _ => rfl, fun _ => rfl⟩
  | copyLoader _ _ | serve _ _ _ =>
    refine ⟨fun none => absurd none (Option.some_ne_none _), fun _ => ?_⟩
    simp only [Session.step]
    split <;> rfl
  | newLoader _ => exact ⟨fun none => absurd none (Option.some_ne_none _), fun _ => rfl⟩
  | newTable _ | fullTable _ _ => exact ⟨fun _ => rfl, fun _ => rfl⟩
  | _ =>
    simp only [Session.step]
    split <;> exact ⟨fun _ => rfl, fun _ => rfl⟩

theorem loaders_step (s : Session b) (step : Step) : (s.step step).state.loaders = match step with
    | .newLoader name => s.loaders.insert name {}
    | .copyLoader name result => match s.loaders.get? name with
      | none => s.loaders
      | some loader => s.loaders.insert result loader
    | .serve name path table => match s.tables.get? table with
      | none => s.loaders
      | some exports => s.loaders.modify name (·.register path exports)
    | _ => s.loaders := by
  cases step with
  | newLoader name => rfl
  | copyLoader name result =>
    simp only [Session.step]
    cases s.loaders.get? name <;> rfl
  | serve name path table =>
    simp only [Session.step, Keyed.modify]
    cases s.loaders.get? name <;> cases s.tables.get? table <;> rfl
  | _ => exact (s.step_leaves _).1 rfl

theorem loader_step (s : Session b) {step : Step} {name : String}
    (untouched : step.loader? ≠ some name) :
    (s.step step).state.loaders.get? name = s.loaders.get? name := by
  rw [loaders_step]
  cases step with
  | newLoader other =>
    exact Keyed.get?_insert_of_ne _ _ fun same => untouched (by rw [same]; rfl)
  | copyLoader other result =>
    have apart : name ≠ result := fun same => untouched (by rw [same]; rfl)
    dsimp only
    split
    · rfl
    · exact Keyed.get?_insert_of_ne _ _ apart
  | serve other path table =>
    have apart : other ≠ name := fun same => untouched (by rw [same]; rfl)
    dsimp only
    split
    · rfl
    · simp [Keyed.get?_modify, apart]
  | _ => rfl

theorem table_after (s : Session b) {steps : List Step} {name : String}
    (untouched : ∀ step ∈ steps, step.table? ≠ some name) :
    (s.after steps).tables.get? name = s.tables.get? name :=
  after_eq (fun s => s.tables.get? name) (fun s _ kept => s.table_step kept) s untouched

theorem loader_after (s : Session b) {steps : List Step} {name : String}
    (untouched : ∀ step ∈ steps, step.loader? ≠ some name) :
    (s.after steps).loaders.get? name = s.loaders.get? name :=
  after_eq (fun s => s.loaders.get? name) (fun s _ kept => s.loader_step kept) s untouched

theorem host_step (s : Session b) {step : Step} (outside : ¬ step.Hosted) :
    (s.step step).state.host = s.host := (s.step_leaves step).2 outside

theorem host_after (s : Session b) {steps : List Step} (outside : ∀ step ∈ steps, ¬ step.Hosted) :
    (s.after steps).host = s.host :=
  after_eq Session.host (fun s _ kept => s.host_step kept) s outside

def action? (s : Session b) : Step → Option Action
  | .create name id path (.tables loader openFailure failures) unload =>
    (s.loaders.get? loader).map fun tables =>
      .create name id path (tables.toLoader openFailure failures) unload
  | .create name id path .system unload =>
    some (.create name id path s.system unload)
  | .act action => some action
  | _ => none

theorem invokers_step (s : Session b) (step : Step) :
    (s.step step).state.host.invokers =
      ((s.action? step).elim s.host fun action => (s.host.step action).state).invokers := by
  cases step with
  | create name id path source unload =>
    cases source with
    | tables loader openFailure failures =>
      simp only [Session.step, action?]
      cases s.loaders.get? loader <;> rfl
    | system => rfl
  | act action => rfl
  | probe name symbol role =>
    simp only [Session.step]
    split
    · rfl
    · split <;> rfl
  | _ => rw [s.host_step (by simp [Step.Hosted])]; rfl

theorem ends_of_action? {s : Session b} {step : Step} {action : Action} {name : String}
    (taken : s.action? step = some action) (goes : ¬ step.Ends name) : ¬ Host.Ends name action := by
  cases step with
  | create other id path source unload =>
    cases source with
    | tables loader openFailure failures =>
      obtain ⟨tables, _, rfl⟩ := Option.map_eq_some_iff.1 taken
      exact goes
    | system =>
      cases taken
      exact goes
  | act other =>
    cases taken
    exact goes
  | _ => cases taken

theorem invoker_step {s : Session b} {step : Step} {name : String} {p : Invoker b}
    (found : s.host.invokers.get? name = some p) (goes : ¬ step.Ends name) :
    ∃ q, (s.step step).state.host.invokers.get? name = some q ∧ q.loader = p.loader ∧
      q.path = p.path := by
  rw [invokers_step]
  cases taken : s.action? step with
  | none => exact ⟨p, found, rfl, rfl⟩
  | some action =>
    refine ⟨s.host.turned name p action, ?_, s.host.loader_turned name p action⟩
    rw [Option.elim_some, Host.get?_turned (ends_of_action? taken goes), found, Option.map_some]

theorem invoker_after {s : Session b} {steps : List Step} {name : String} {p : Invoker b}
    (found : s.host.invokers.get? name = some p) (lasts : ∀ step ∈ steps, ¬ step.Ends name) :
    ∃ q, (s.after steps).host.invokers.get? name = some q ∧ q.loader = p.loader ∧
      q.path = p.path := by
  induction steps generalizing s p with
  | nil => exact ⟨p, found, rfl, rfl⟩
  | cons step rest ih =>
    obtain ⟨first, later⟩ := List.forall_mem_cons.1 lasts
    obtain ⟨q, next, loader, path⟩ := invoker_step found first
    obtain ⟨last, there, same⟩ := ih next later
    exact ⟨last, there, same.1.trans loader, same.2.trans path⟩

end Session

end GraphPlugin
