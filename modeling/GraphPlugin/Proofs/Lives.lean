import GraphPlugin.Proofs.Initialisation

/-! What a run makes of the invoker under a name. From the step that creates it to the one that
closes it or puts another in its place, an invoker changes in two ways only: its first
initialisation settles its status, and its policy can be set. So a ready invoker has just the
functions and the library that its initialisation found. -/
namespace GraphPlugin

namespace Invoker

variable {b : Build} {p : Invoker b} {s : Holdings}

theorem state_ready_iff :
    p.state = .ready ↔ ∃ bindings library, p.status = .ready bindings library := by
  unfold state
  cases p.status <;> simp

theorem state_ne_unready_iff : p.state ≠ .unready ↔ p.status ≠ .unready := by
  unfold state
  cases p.status <;> simp

theorem state_ne_ready_iff : p.state ≠ .ready ↔ p.library? = none := by
  unfold state library?
  cases p.status <;> simp

theorem id_init (p : Invoker b) (s : Holdings) : (p.init s).state.1.id = p.id := by
  have outcome := p.init_cases s
  generalize p.init s = result at outcome ⊢
  cases outcome <;> rfl

theorem loader_init (p : Invoker b) (s : Holdings) :
    (p.init s).state.1.loader = p.loader ∧ (p.init s).state.1.path = p.path := by
  have outcome := p.init_cases s
  generalize p.init s = result at outcome ⊢
  cases outcome <;> exact ⟨rfl, rfl⟩

theorem init_ready {bindings : Bindings b.operations} {library : Tag}
    (unready : p.status = .unready) (ready : (p.init s).state.1.status = .ready bindings library) :
    ∃ l, p.loader.openAt p.path = .ok l ∧ l.Binds bindings ∧ library = p.nextTag s ∧
      (p.init s).state.1 = { p with status := .ready bindings library } ∧
      (p.init s).answer = .ok () := by
  have initialises := initialises_init unready s
  generalize p.init s = result at initialises ready ⊢
  cases initialises with
  | unopened _ => cases ready
  | incompatible _ _ _ => cases ready
  | missing _ _ _ _ _ => cases ready
  | served opened _ binds =>
    cases ready
    exact ⟨_, opened, binds, rfl, rfl, rfl⟩

end Invoker

namespace Host

variable {b : Build} {host : Host b}

@[simp] theorem invokers_answerHandle (result : String) (h : Handle) (s : Holdings)
    (events : List Event) :
    (host.answerHandle result h s events).state.invokers = host.invokers := by
  unfold answerHandle keepHandle
  cases host.handles.get? result <;> rfl

@[simp] theorem invokers_stepInvoke (p : Invoker b) (o : Operation) (args : Arguments o.shape)
    (result : String) : (host.stepInvoke p o args result).state.invokers = host.invokers := by
  unfold stepInvoke
  generalize p.invoke host.holdings o args = invoked
  obtain ⟨s, events, answer⟩ := invoked
  cases answer with
  | error error => rfl
  | ok h => exact invokers_answerHandle result h s events

theorem invokers_keepInvoker (name : String) (p : Invoker b) :
    (host.keepInvoker name p).1.invokers = host.invokers.insert name p := by
  unfold keepInvoker
  cases host.invokers.get? name <;> rfl

theorem find_eq (named : Keyed (Invoker b)) (name : String) :
    find named name = match named.get? name with
      | some p => .ok p
      | none => .error name := by
  unfold find
  cases named.get? name <;> rfl

theorem invokers_step (host : Host b) (action : Action) :
    (host.step action).state.invokers = match action with
      | .create name id path loader unload =>
        host.invokers.insert name { id, path, loader, unloadOnDrop := unload.getD true }
      | .setUnloadOnDrop name unload => host.invokers.modify name (·.setUnloadOnDrop unload)
      | .init name => host.invokers.modify name fun p => (p.init host.holdings).state.1
      | .close name => host.invokers.erase name
      | _ => host.invokers := by
  have outcome := host.step_cases action
  cases action with
  | create name id path loader unload => exact invokers_keepInvoker _ _
  | setUnloadOnDrop name unload =>
    cases found : host.invokers.get? name <;> simp [step, find_eq, Keyed.modify, found, refuse]
  | init name =>
    cases found : host.invokers.get? name <;>
      simp [step, find_eq, Keyed.modify, found, refuse, stepInit]
  | close name =>
    cases found : host.invokers.get? name <;>
      simp [step, find_eq, Keyed.erase_of_get?_none, found, refuse]
  | _ =>
    generalize host.step _ = result at outcome ⊢
    cases outcome <;> simp [refuse]

/-- The step puts another invoker under the name, or closes the one that is there. -/
def Ends (name : String) : Action → Prop
  | .create other _ _ _ _ => other = name
  | .close other => other = name
  | _ => False

/-- What a step that does not end it makes of the invoker under a name. -/
def turned (host : Host b) (name : String) (p : Invoker b) : Action → Invoker b
  | .init other => if other = name then (p.init host.holdings).state.1 else p
  | .setUnloadOnDrop other unload => if other = name then p.setUnloadOnDrop unload else p
  | _ => p

theorem get?_create (name id path : String) (loader : Loader) (unload : Option Bool) :
    (host.step (.create name id path loader unload)).state.invokers.get? name =
      some { id, path, loader, unloadOnDrop := unload.getD true } := by
  rw [invokers_step, Keyed.get?_insert_self]

theorem get?_close (name : String) :
    (host.step (.close name)).state.invokers.get? name = none := by
  rw [invokers_step, Keyed.get?_erase, if_pos rfl]

theorem get?_turned {name : String} {action : Action} (goes : ¬ Ends name action) :
    (host.step action).state.invokers.get? name =
      (host.invokers.get? name).map fun p => host.turned name p action := by
  rw [invokers_step]
  cases action with
  | create other _ _ _ _ =>
    rw [Keyed.get?_insert_of_ne _ _ (Ne.symm goes)]
    simp [turned]
  | close other =>
    rw [Keyed.get?_erase, if_neg (Ne.symm goes)]
    simp [turned]
  | init other => exact Keyed.get?_modify _ _ _ _
  | setUnloadOnDrop other unload => exact Keyed.get?_modify _ _ _ _
  | _ => simp [turned]

theorem turned_settled (host : Host b) {name : String} {p : Invoker b} {action : Action}
    (settled : p.status ≠ .unready ∨ action ≠ .init name) :
    ∃ unload, host.turned name p action = p.setUnloadOnDrop unload := by
  cases action with
  | init other =>
    by_cases here : other = name
    · subst here
      have started := settled.resolve_right (· rfl)
      exact ⟨p.unloadOnDrop, by simp [turned, Invoker.init_again started, Invoker.setUnloadOnDrop]⟩
    · exact ⟨p.unloadOnDrop, by simp [turned, here, Invoker.setUnloadOnDrop]⟩
  | setUnloadOnDrop other unload =>
    by_cases here : other = name
    · exact ⟨unload, by simp [turned, here]⟩
    · exact ⟨p.unloadOnDrop, by simp [turned, here, Invoker.setUnloadOnDrop]⟩
  | _ => exact ⟨p.unloadOnDrop, rfl⟩

theorem id_turned (name : String) (p : Invoker b) (action : Action) :
    (host.turned name p action).id = p.id := by
  cases action with
  | init other =>
    by_cases here : other = name <;> simp [turned, here, Invoker.id_init]
  | setUnloadOnDrop other unload =>
    by_cases here : other = name <;> simp [turned, here, Invoker.setUnloadOnDrop]
  | _ => rfl

theorem loader_turned (name : String) (p : Invoker b) (action : Action) :
    (host.turned name p action).loader = p.loader ∧ (host.turned name p action).path = p.path := by
  cases action with
  | init other =>
    by_cases here : other = name
    · simpa [turned, here] using p.loader_init host.holdings
    · simp [turned, here]
  | setUnloadOnDrop other unload =>
    by_cases here : other = name <;> simp [turned, here, Invoker.setUnloadOnDrop]
  | _ => exact ⟨rfl, rfl⟩

theorem step_settled {name : String} {p : Invoker b} {action : Action}
    (found : host.invokers.get? name = some p) (goes : ¬ Ends name action)
    (settled : p.status ≠ .unready ∨ action ≠ .init name) :
    ∃ unload, (host.step action).state.invokers.get? name = some (p.setUnloadOnDrop unload) := by
  obtain ⟨unload, turn⟩ := host.turned_settled settled
  exact ⟨unload, by rw [get?_turned goes, found, Option.map_some, turn]⟩

def Lasts (name : String) (actions : List Action) : Prop := ∀ action ∈ actions, ¬ Ends name action

theorem lasts_cons_iff {name : String} {action : Action} {rest : List Action} :
    Lasts name (action :: rest) ↔ ¬ Ends name action ∧ Lasts name rest := List.forall_mem_cons

theorem lasts_append_iff {name : String} {actions more : List Action} :
    Lasts name (actions ++ more) ↔ Lasts name actions ∧ Lasts name more := List.forall_mem_append

theorem after_settled {name : String} {p : Invoker b} {actions : List Action}
    (found : host.invokers.get? name = some p) (lasts : Lasts name actions)
    (settled : p.status ≠ .unready ∨ .init name ∉ actions) :
    ∃ unload, (host.after actions).invokers.get? name = some (p.setUnloadOnDrop unload) := by
  induction actions generalizing host p with
  | nil => exact ⟨p.unloadOnDrop, found⟩
  | cons action rest ih =>
    obtain ⟨goes, lasts⟩ := lasts_cons_iff.1 lasts
    have first : p.status ≠ .unready ∨ action ≠ .init name :=
      settled.imp_right fun none same => none (same ▸ List.mem_cons_self)
    obtain ⟨unload, next⟩ := step_settled found goes first
    have rest_settled := settled.imp_right fun none => mt (List.mem_cons_of_mem action) none
    obtain ⟨last, kept⟩ := ih (p := p.setUnloadOnDrop unload) next lasts rest_settled
    exact ⟨last, kept⟩

theorem after_id {name : String} {p : Invoker b} {actions : List Action}
    (found : host.invokers.get? name = some p) (lasts : Lasts name actions) :
    ∃ q, (host.after actions).invokers.get? name = some q ∧ q.id = p.id := by
  induction actions generalizing host p with
  | nil => exact ⟨p, found, rfl⟩
  | cons action rest ih =>
    obtain ⟨goes, lasts⟩ := lasts_cons_iff.1 lasts
    have next : (host.step action).state.invokers.get? name = some (host.turned name p action) := by
      rw [get?_turned goes, found, Option.map_some]
    obtain ⟨q, there, same⟩ := ih next lasts
    exact ⟨q, there, same.trans (id_turned name p action)⟩

/-- The invoker under the name is the one whose initialisation in the run opened the library and
went well. -/
def Accepted (host : Host b) (actions : List Action) (name : String) (library : Tag) : Prop :=
  ∃ before later p, actions = before ++ .init name :: later ∧ Lasts name later ∧
    Opens p library (host.after before) (.init name) ∧ Serves (host.after before) (.init name)

theorem Accepted.more {actions : List Action} {action : Action} {name : String} {library : Tag}
    (accepted : host.Accepted actions name library) (goes : ¬ Ends name action) :
    host.Accepted (actions ++ [action]) name library := by
  obtain ⟨before, later, p, rfl, lasts, opens, serves⟩ := accepted
  refine ⟨before, later ++ [action], p, by simp, lasts_append_iff.2 ⟨lasts, ?_⟩, opens, serves⟩
  simpa [Lasts] using goes

/-- The library of a ready invoker is one that its initialisation opened and accepted, and what it
has bound is what that library exports. -/
theorem ready_origin {actions : List Action} {name : String} {p : Invoker b}
    {bindings : Bindings b.operations} {library : Tag}
    (found : ((start b).after actions).invokers.get? name = some p)
    (ready : p.status = .ready bindings library) :
    (start b).Accepted actions name library ∧
      ∃ l, p.loader.openAt p.path = .ok l ∧ l.Binds bindings := by
  induction actions using List.reverseRecOn generalizing p with
  | nil => cases found
  | append_singleton actions action ih =>
    rw [after_snoc] at found
    -- A step that ends the invoker before leaves none or a new one, and a new one is not ready.
    by_cases ends : Ends name action
    · cases action with
      | create other id path loader unload =>
        obtain rfl : other = name := ends
        rw [get?_create] at found
        cases found
        cases ready
      | close other =>
        obtain rfl : other = name := ends
        rw [get?_close] at found
        cases found
      | _ => exact ends.elim
    · rw [get?_turned ends] at found
      obtain ⟨old, present, turn⟩ := Option.map_eq_some_iff.1 found
      -- Unless this is its first initialisation, it was ready before, with the same library.
      by_cases first : old.status = .unready ∧ action = .init name
      · obtain ⟨unready, rfl⟩ := first
        have made : p = (old.init ((start b).after actions).holdings).state.1 := by
          simp [← turn, turned]
        rw [made] at ready
        obtain ⟨l, opened, binds, tag, result, answer⟩ := Invoker.init_ready unready ready
        have serves : Serves ((start b).after actions) (.init name) := by
          rw [Serves, step_init present]
          simp [stepInit, answer, result, Invoker.state]
        refine ⟨⟨actions, [], old, rfl, fun _ h => absurd h List.not_mem_nil,
          ⟨name, l, rfl, present, unready, opened, tag⟩, serves⟩, l, ?_, binds⟩
        rw [made, result]
        exact opened
      · obtain ⟨unload, kept⟩ := ((start b).after actions).turned_settled (not_and_or.1 first)
        rw [turn] at kept
        subst kept
        obtain ⟨accepted, exported⟩ := ih present ready
        exact ⟨accepted.more ends, exported⟩

/-- All functions for operations that backends of the run export are of the kind. -/
def Backed (actions : List Action) (kind : {s : Shape} → Entry s → Prop) : Prop :=
  ∀ name id path loader unload, Action.create name id path loader unload ∈ actions →
    ∀ l, loader.openAt path = .ok l → ∀ (o : Operation) (entry : Entry o.shape),
      l.resolve o.entryPoint = .ok entry → kind entry

theorem Backed.of_append {actions more : List Action} {kind : {s : Shape} → Entry s → Prop}
    (backed : Backed (actions ++ more) kind) : Backed actions kind :=
  fun name id path loader unload created =>
    backed name id path loader unload (List.mem_append_left _ created)

theorem created_of_found {actions : List Action} {name : String} {p : Invoker b}
    (found : ((start b).after actions).invokers.get? name = some p) :
    ∃ id unload, Action.create name id p.path p.loader unload ∈ actions := by
  induction actions using List.reverseRecOn generalizing p with
  | nil => cases found
  | append_singleton actions action ih =>
    rw [after_snoc] at found
    by_cases ends : Ends name action
    · cases action with
      | create other id path loader unload =>
        obtain rfl : other = name := ends
        rw [get?_create] at found
        cases found
        exact ⟨id, unload, List.mem_append_right _ List.mem_cons_self⟩
      | close other =>
        obtain rfl : other = name := ends
        rw [get?_close] at found
        cases found
      | _ => exact ends.elim
    · rw [get?_turned ends] at found
      obtain ⟨old, present, rfl⟩ := Option.map_eq_some_iff.1 found
      obtain ⟨loader, path⟩ := ((start b).after actions).loader_turned name old action
      obtain ⟨id, unload, created⟩ := ih present
      rw [loader, path]
      exact ⟨id, unload, List.mem_append_left _ created⟩

theorem kind_of_reaches {actions : List Action} {kind : {s : Shape} → Entry s → Prop}
    (backed : Backed actions kind) {action : Action} {library : Tag} {o : Operation}
    {entry : Entry o.shape} {args : Arguments o.shape}
    (reaches : Reaches ((start b).after actions) action library entry args) : kind entry := by
  obtain ⟨name, _, _, p, bindings, offered, _, found, ready, _, _, rfl⟩ := reaches
  obtain ⟨id, unload, created⟩ := created_of_found found
  obtain ⟨_, l, opened, binds⟩ := ready_origin found ready
  exact backed _ _ _ _ _ created l opened o _ (binds o offered)

theorem backed_of_scripts {actions : List Action} {kind : {s : Shape} → Entry s → Prop}
    (scripted : ∀ name id path loader unload, Action.create name id path loader unload ∈ actions →
      ∃ (script : Scripted.Script) (number : Nat), loader = .serving (script.table number) ∧
        ∀ o, kind ((script.backend number).entry o)) : Backed actions kind := by
  intro name id path loader unload created l opened o entry resolved
  obtain ⟨script, number, rfl, all⟩ := scripted name id path loader unload created
  obtain rfl := Scripted.Script.entry_of_opened opened resolved
  exact all o

end Host

end GraphPlugin
