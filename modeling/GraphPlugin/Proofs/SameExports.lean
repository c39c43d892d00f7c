import GraphPlugin.Proofs.Noninterference
import GraphPlugin.Proofs.TableHistories

/-! Libraries that an invoker cannot tell apart. It asks a library for its version and for the
symbols of its build, so two libraries that answer these alike are the same to it, whatever else
they export and however that came about. With loaders of one kind, two runs then go the same way to
the last detail. -/
namespace GraphPlugin

variable {b : Build} {r : Sameness}

inductive Agree {ε α β : Type} (same : α → β → Prop) : Except ε α → Except ε β → Prop
  | error (e : ε) : Agree same (.error e) (.error e)
  | ok {x : α} {y : β} : same x y → Agree same (.ok x) (.ok y)

namespace Agree

variable {ε α β : Type} {same : α → β → Prop} {first : Except ε α} {second : Except ε β}

theorem of_error {e : ε} (agree : Agree same first second) (failed : first = .error e) :
    second = .error e := by
  subst failed
  cases agree with
  | error => rfl

theorem of_ok {x : α} (agree : Agree same first second) (found : first = .ok x) :
    ∃ y, second = .ok y ∧ same x y := by
  subst found
  cases agree with
  | ok related => exact ⟨_, rfl, related⟩

end Agree

structure Entry.Same (r : Sameness) {s : Shape} (first second : Entry s) : Prop where
  label : second.label = first.label
  run : ∀ moment stash kept args again, List.Forall₂ r.rel stash kept → args.Same r again →
    SameAnswer r (first.run moment stash args) (second.run moment kept again)

structure Library.Same (r : Sameness) (b : Build) (l k : Library) : Prop where
  version : k.resolve .version = l.resolve .version
  operations : ∀ o ∈ b.operations, Agree (Entry.Same r (s := o.shape))
    (l.resolve o.entryPoint) (k.resolve o.entryPoint)

/-- Both open the path, to libraries that count as the same, or neither does, for one reason. -/
def Loader.Same (r : Sameness) (b : Build) (path : String) (loader other : Loader) : Prop :=
  Agree (Library.Same r b) (loader.openAt path) (other.openAt path)

theorem Entry.Same.eq {s : Shape} {first second : Entry s} (same : first.Same .exact second) :
    second = first := by
  obtain ⟨label, run⟩ := first
  obtain ⟨_, run'⟩ := second
  obtain ⟨rfl, answers⟩ := same
  have runs : run' = run := by
    funext moment stash args
    have same : List.Forall₂ Sameness.exact.rel stash stash := List.forall₂_same.2 fun _ _ => rfl
    exact (answers moment stash stash args args same (.of_eq args)).eq
  rw [runs]

theorem Entry.Same.of_eq {s : Shape} (entry : Entry s) : entry.Same .exact entry where
  label := rfl
  run moment stash kept args again held same := by
    obtain rfl : stash = kept := List.forall₂_eq_eq_eq ▸ held
    obtain rfl := same.eq
    exact .refl _

namespace Library

variable {l k : Library}

theorem Same.of_eq (l : Library) : l.Same .exact b l where
  version := rfl
  operations o _ := by
    cases found : l.resolve o.entryPoint with
    | error cause => exact .error cause
    | ok entry => exact .ok (.of_eq entry)

theorem Same.resolve_eq (same : l.Same .exact b k) {o : Operation} (offered : o ∈ b.operations) :
    k.resolve o.entryPoint = l.resolve o.entryPoint := by
  have agree := same.operations o offered
  generalize l.resolve o.entryPoint = first, k.resolve o.entryPoint = second at agree
  cases agree with
  | error => rfl
  | ok entries => exact congrArg Except.ok entries.eq

theorem bindAll_congr {ops : List Operation} (tag : Tag) (path : String)
    (same : ∀ o ∈ ops, k.resolve o.entryPoint = l.resolve o.entryPoint) :
    k.bindAll tag path ops = l.bindAll tag path ops := by
  induction ops with
  | nil => rfl
  | cons o rest ih =>
    obtain ⟨first, later⟩ := List.forall_mem_cons.1 same
    rw [bindAll, bindAll, first, ih later]

theorem Same.bind_eq (same : l.Same .exact b k) (tag : Tag) (path : String) :
    k.bind tag path b.operations = l.bind tag path b.operations := by
  have looked : k.bindAll tag path b.operations = l.bindAll tag path b.operations :=
    bindAll_congr tag path fun o offered => same.resolve_eq offered
  unfold bind checkVersion
  rw [same.version, looked]

end Library

/-- Loaders of one kind whose libraries the build cannot tell apart. -/
def Leeway.exports (b : Build) : Leeway where
  loaders path loader other := other.origin = loader.origin ∧ Loader.Same .exact b path loader other
  policies := Eq
  loaders_refl path loader := by
    refine ⟨rfl, ?_⟩
    unfold Loader.Same
    cases loader.openAt path with
    | error cause => exact .error cause
    | ok l => exact .ok (.of_eq l)
  policies_refl _ := rfl

namespace Invoker

variable {p q : Invoker b} {s t : Holdings}

theorem Twin.debug (twin : p.Twin (.exports b) q) : q.debug = p.debug := by
  have policy : p.unloadOnDrop = q.unloadOnDrop := twin.policy
  unfold Invoker.debug
  rw [twin.id, twin.path, twin.state, policy]

theorem Twin.init_exports (twin : p.Twin (.exports b) q) (alike : s.Alike t) :
    InitTwin (.exports b) (p.init s) (q.init t) ∧ (q.init t).events = (p.init s).events := by
  obtain ⟨id, path, loader, unload, status⟩ := q
  obtain ⟨rfl, rfl, ⟨origin, same⟩, policy, stands⟩ := twin
  obtain rfl : p.unloadOnDrop = unload := policy
  let q : Invoker b := ⟨p.id, p.path, loader, p.unloadOnDrop, status⟩
  have left : ∀ {status again : Status b}, status.Twin again →
      Invoker.Twin (.exports b) { p with status } { q with status := again } :=
    fun stand => ⟨rfl, rfl, ⟨origin, same⟩, rfl, stand⟩
  have tag : q.nextTag t = p.nextTag s := by
    obtain ⟨kept, rfl⟩ := alike
    exact congrArg s.libraries.next origin
  have attempt : q.attempt = p.attempt := by
    show [_, Event.opening loader.origin p.path] = [_, .opening p.loader.origin p.path]
    rw [origin]
  have added : (s.addLibrary p.loader.origin).2.Alike (t.addLibrary loader.origin).2 := by
    rw [origin]
    exact (alike.addLibrary _).2
  have unready : p.status = .unready → q.status = .unready :=
    (left stands).unready_iff.2
  have outcome := p.init_cases s
  show InitTwin (.exports b) (p.init s) (q.init t) ∧ (q.init t).events = (p.init s).events
  generalize p.init s = result at outcome ⊢
  cases outcome with
  | again started =>
    have twin : p.Twin (.exports b) q := left stands
    rw [init_again (mt twin.unready_iff.1 started), twin.wrongState]
    exact ⟨⟨twin, alike, rfl⟩, rfl⟩
  | unopened new unopened =>
    have missed : q.loader.openAt q.path = _ := same.of_error unopened
    rw [init_unopened (unready new) missed, attempt]
    exact ⟨⟨left .failed, alike, rfl⟩, rfl⟩
  | unbound new opened bound =>
    obtain ⟨k, there, libraries⟩ := same.of_ok opened
    rw [← libraries.bind_eq, ← tag] at bound
    rw [init_unbound (unready new) there bound, attempt, tag]
    exact ⟨⟨left .failed, added, rfl⟩, rfl⟩
  | served new opened bound =>
    obtain ⟨k, there, libraries⟩ := same.of_ok opened
    rw [← libraries.bind_eq, ← tag] at bound
    rw [init_bound (unready new) there bound, attempt, tag]
    exact ⟨⟨left (.ready fun _ _ _ => rfl), added.share _ _ _, rfl⟩, rfl⟩

end Invoker

namespace Host

variable {host other : Host b} {action again : Action} {actions others : List Action}

theorem step_exports (twin : host.Twin (.exports b) other)
    (same : Action.Twin (.exports b) action again) :
    StepTwin (.exports b) (host.step action) (other.step again) := by
  by_cases first : ∃ name, action = .init name
  · obtain ⟨name, rfl⟩ := first
    cases same with
    | same => exact (init_twin twin name fun _ _ same => same.init_exports twin.holdings).1
  · exact step_twin twin same (action.common_self b) fun name here => first ⟨name, here⟩

/-- The two runs answer the same and leave the same trace, but for releases, in each of their steps.
-/
def RunsTwin (w : Leeway) (first second : List (List Event × Reply b)) : Prop :=
  List.Forall₂ (fun step again => Reply.Twin w step.2 again.2 ∧
    butReleases again.1 = butReleases step.1) first second

theorem run_exports (twin : host.Twin (.exports b) other)
    (same : List.Forall₂ (Action.Twin (.exports b)) actions others) :
    (host.after actions).Twin (.exports b) (other.after others) ∧
      RunsTwin (.exports b) (host.run actions).2 (other.run others).2 := by
  induction same generalizing host other with
  | nil => exact ⟨twin, .nil⟩
  | cons first _ ih =>
    have step := step_exports twin first
    obtain ⟨last, steps⟩ := ih step.state
    exact ⟨last, .cons ⟨step.answer, step.events⟩ steps⟩

end Host

namespace SymbolTable

/-- Tables whose last edits of the symbols that a build asks for are the same. -/
def SameEdits (b : Build) (edits others : List (Edit Export)) : Prop :=
  ∀ symbol ∈ EntryPoint.version.symbol :: b.requiredSymbols, ∀ signature function,
    Registered edits symbol signature function ↔ Registered others symbol signature function

theorem SameEdits.resolve_eq {edits others : List (Edit Export)} (same : SameEdits b edits others)
    {symbol : String} (asked : symbol ∈ EntryPoint.version.symbol :: b.requiredSymbols)
    (signature : Signature) :
    (ofEdits others).resolve symbol signature = (ofEdits edits).resolve symbol signature := by
  have found : (ofEdits others).entries.get? symbol = (ofEdits edits).entries.get? symbol := by
    apply Option.ext
    rintro ⟨stored, function⟩
    rw [get?_ofEdits_iff, get?_ofEdits_iff, same symbol asked]
  unfold resolve
  rw [found]

end SymbolTable

open SymbolTable

theorem Library.same_of_edits {edits others : List (Edit Export)} (same : SameEdits b edits others)
    (failures : List (String × String)) :
    ((Library.ofTable (ofEdits edits)).withFailures failures).Same .exact b
      ((Library.ofTable (ofEdits others)).withFailures failures) := by
  have agree : ∀ e : EntryPoint, e.symbol ∈ EntryPoint.version.symbol :: b.requiredSymbols →
      ((Library.ofTable (ofEdits others)).withFailures failures).resolve e =
        ((Library.ofTable (ofEdits edits)).withFailures failures).resolve e := by
    intro e asked
    simp only [withFailures, ofTable, same.resolve_eq asked]
  constructor
  · exact agree .version List.mem_cons_self
  · intro o offered
    have asked : o.symbol ∈ b.requiredSymbols := by
      rw [Build.requiredSymbols_eq]
      exact List.mem_map_of_mem offered
    rw [agree o.entryPoint (List.mem_cons_of_mem _ asked)]
    exact (Same.of_eq _).operations o offered

end GraphPlugin
