import GraphPlugin.Proofs.Openings

/-! What an initialisation does, in full: its answer, the state that it leaves, and all that shows
of it, in order. The rules of `Initialises` are a description of its own, and the theorem at the end
says that it describes `Invoker.init` and nothing else. -/
namespace GraphPlugin

variable {b : Build}

namespace Library

/-- The version probe lets the library pass, and leaves this trace: a library that does not tell its
version is noted, one that tells it is called once and has to agree in the major version. -/
inductive Passes (l : Library) (tag : Tag) (path : String) : List Event → Prop
  | untold {cause : Cause} : l.resolve .version = .error cause →
      Passes l tag path [.resolving tag "GraphLinkAbiVersion", .log (.versionUnchecked path)]
  | told {report : VersionReport} : l.resolve .version = .ok report →
      report.version.major = Version.current.major →
      Passes l tag path
        [.resolving tag "GraphLinkAbiVersion", .calling (some tag) report.label .version]

def Resolves (l : Library) (ops : List Operation) : Prop :=
  ∀ o ∈ ops, ∃ entry, l.resolve o.entryPoint = .ok entry

def Binds (l : Library) {ops : List Operation} (bindings : Bindings ops) : Prop :=
  ∀ (o : Operation) (offered : o ∈ ops), l.resolve o.entryPoint = .ok (bindings o offered)

theorem checkVersion_of_passes {l : Library} {tag : Tag} {path : String} {probe : List Event}
    (passes : l.Passes tag path probe) : l.checkVersion tag path = (probe, .ok ()) := by
  cases passes with
  | untold missing => exact checkVersion_error tag path missing
  | told found agrees =>
    rw [checkVersion_ok tag path found,
      if_pos ((Version.compatible_iff _ _).2 agrees.symm)]
    rfl

theorem checkVersion_of_disagrees {l : Library} {report : VersionReport} (tag : Tag)
    (path : String) (found : l.resolve .version = .ok report)
    (disagrees : report.version.major ≠ Version.current.major) :
    l.checkVersion tag path =
      ([.resolving tag "GraphLinkAbiVersion", .calling (some tag) report.label .version],
        .error (.incompatible path Version.current report.version)) := by
  have incompatible : ¬ Version.current.compatible report.version = true := by
    rw [Version.compatible_iff]
    exact fun agrees => disagrees agrees.symm
  rw [checkVersion_ok tag path found, if_neg incompatible]
  rfl

theorem passes_or_disagrees (l : Library) (tag : Tag) (path : String) :
    (∃ probe, l.Passes tag path probe) ∨ ∃ report : VersionReport,
      l.resolve .version = .ok report ∧ report.version.major ≠ Version.current.major := by
  cases found : l.resolve .version with
  | error cause => exact .inl ⟨_, .untold found⟩
  | ok report =>
    by_cases agrees : (VersionReport.version report).major = Version.current.major
    · exact .inl ⟨_, .told found agrees⟩
    · exact .inr ⟨report, rfl, agrees⟩

theorem bindAll_missing {l : Library} {before after : List Operation} {o : Operation}
    {cause : Cause} (tag : Tag) (path : String) (resolves : l.Resolves before)
    (missing : l.resolve o.entryPoint = .error cause) :
    l.bindAll tag path (before ++ o :: after) =
      ((before ++ [o]).map fun q => .resolving tag q.symbol,
        .error (.missingSymbol o.symbol path cause)) := by
  induction before with
  | nil => exact bindAll_cons_error tag path after missing
  | cons q before ih =>
    obtain ⟨entry, found⟩ := resolves q List.mem_cons_self
    have rest := ih fun r hr => resolves r (List.mem_cons_of_mem _ hr)
    rw [List.cons_append, bindAll_cons_ok tag path _ found, rest]
    rfl

theorem bindAll_bound {l : Library} {ops : List Operation} {bindings : Bindings ops} (tag : Tag)
    (path : String) (binds : l.Binds bindings) :
    l.bindAll tag path ops = (ops.map fun q => .resolving tag q.symbol, .ok bindings) := by
  induction ops with
  | nil =>
    have same : Bindings.nil = bindings := by
      funext o offered
      exact absurd offered List.not_mem_nil
    rw [bindAll, same]
    rfl
  | cons o rest ih =>
    let others : Bindings rest := fun q offered => bindings q (List.mem_cons_of_mem _ offered)
    have tail := @ih others fun q offered => binds q _
    have same : Bindings.cons (bindings o List.mem_cons_self) others = bindings := by
      funext q offered
      by_cases e : o = q
      · subst e
        exact Bindings.cons_self _ _ _
      · have behind := (List.mem_cons.1 offered).resolve_left fun h => e h.symm
        exact Bindings.cons_of_ne _ _ _ e behind
    rw [bindAll_cons_ok tag path rest (binds o List.mem_cons_self), tail]
    simp only [List.map_cons, Except.map, same]

theorem bound_or_missing (l : Library) (ops : List Operation) :
    (∃ bindings : Bindings ops, l.Binds bindings) ∨
      ∃ before o after cause, ops = before ++ o :: after ∧ l.Resolves before ∧
        l.resolve o.entryPoint = .error cause := by
  induction ops with
  | nil => exact .inl ⟨.nil, fun o offered => absurd offered List.not_mem_nil⟩
  | cons o rest ih =>
    cases found : l.resolve o.entryPoint with
    | error cause => exact .inr ⟨[], o, rest, cause, rfl, by simp [Resolves], found⟩
    | ok entry =>
      rcases ih with ⟨bindings, binds⟩ | ⟨before, q, after, cause, rfl, resolves, missing⟩
      · refine .inl ⟨.cons entry bindings, fun q offered => ?_⟩
        by_cases e : o = q
        · subst e
          have first := Bindings.cons_self (o := o) entry bindings offered
          exact found.trans (congrArg Except.ok first.symm)
        · have behind := (List.mem_cons.1 offered).resolve_left fun h => e h.symm
          rw [Bindings.cons_of_ne entry bindings offered e behind]
          exact binds q behind
      · refine .inr ⟨o :: before, q, after, cause, rfl, fun r hr => ?_, missing⟩
        rcases List.mem_cons.1 hr with rfl | hr
        · exact ⟨entry, found⟩
        · exact resolves r hr

end Library

namespace Invoker

/-- All that an initialisation can do, by what the loader and the library answer. -/
inductive Initialises (p : Invoker b) (s : Holdings) :
    Outcome (Invoker b × Holdings) (Except InvokerError Unit) → Prop
  | unopened {cause : Cause} : p.loader.openAt p.path = .error cause →
      Initialises p s ⟨({ p with status := .failed }, s),
        [.log (.initialising p.id p.path b.requiredSymbols), .opening p.loader.origin p.path,
          .log (.notLoaded p.id (.cannotOpen p.path cause))],
        .error (.cannotOpen p.path cause)⟩
  | incompatible {l : Library} {report : VersionReport} : p.loader.openAt p.path = .ok l →
      l.resolve .version = .ok report → report.version.major ≠ Version.current.major →
      Initialises p s ⟨({ p with status := .failed }, (s.addLibrary p.loader.origin).2),
        [.log (.initialising p.id p.path b.requiredSymbols), .opening p.loader.origin p.path,
          .resolving (p.nextTag s) "GraphLinkAbiVersion",
          .calling (some (p.nextTag s)) report.label .version, .released (p.nextTag s),
          .log (.notLoaded p.id (.incompatible p.path Version.current report.version))],
        .error (.incompatible p.path Version.current report.version)⟩
  | missing {l : Library} {probe : List Event} {before after : List Operation} {o : Operation}
      {cause : Cause} : p.loader.openAt p.path = .ok l → l.Passes (p.nextTag s) p.path probe →
      b.operations = before ++ o :: after → l.Resolves before →
      l.resolve o.entryPoint = .error cause →
      Initialises p s ⟨({ p with status := .failed }, (s.addLibrary p.loader.origin).2),
        [.log (.initialising p.id p.path b.requiredSymbols), .opening p.loader.origin p.path] ++
          probe ++ (b.requiredSymbols.take (before.length + 1)).map (.resolving (p.nextTag s)) ++
          [.released (p.nextTag s),
            .log (.notLoaded p.id (.missingSymbol o.symbol p.path cause))],
        .error (.missingSymbol o.symbol p.path cause)⟩
  | served {l : Library} {probe : List Event} {bindings : Bindings b.operations} :
      p.loader.openAt p.path = .ok l → l.Passes (p.nextTag s) p.path probe → l.Binds bindings →
      Initialises p s ⟨({ p with status := .ready bindings (p.nextTag s) },
          (s.addLibrary p.loader.origin).2.share (p.nextTag s) p.unloadOnDrop),
        [.log (.initialising p.id p.path b.requiredSymbols), .opening p.loader.origin p.path] ++
          probe ++ b.requiredSymbols.map (.resolving (p.nextTag s)) ++
          [.log (.loaded p.id p.path)],
        .ok ()⟩

variable {p : Invoker b} {s : Holdings}

theorem lookups_eq (tag : Tag) {before after : List Operation} {o : Operation}
    (split : b.operations = before ++ o :: after) :
    (b.requiredSymbols.take (before.length + 1)).map (Event.resolving tag) =
      (before ++ [o]).map fun q => .resolving tag q.symbol := by
  have front : (before ++ o :: after).take (before.length + 1) = before ++ [o] := by
    rw [List.append_cons]
    exact List.take_left' (by simp)
  rw [b.requiredSymbols_eq, split, ← List.map_take, front, List.map_map]
  rfl

theorem all_lookups_eq (b : Build) (tag : Tag) :
    b.requiredSymbols.map (Event.resolving tag) =
      b.operations.map fun q => .resolving tag q.symbol := by
  rw [b.requiredSymbols_eq, List.map_map]
  rfl

theorem eq_init_of_initialises (unready : p.status = .unready)
    {outcome : Outcome (Invoker b × Holdings) (Except InvokerError Unit)}
    (initialises : p.Initialises s outcome) : outcome = p.init s := by
  cases initialises with
  | unopened unopened => exact (init_unopened unready unopened).symm
  | incompatible opened found disagrees =>
    have verdict := Library.checkVersion_of_disagrees (p.nextTag s) p.path found disagrees
    exact (init_unbound unready opened (Library.bind_of_rejected _ verdict)).symm
  | missing opened passes split resolves missing =>
    have verdict := Library.checkVersion_of_passes passes
    have bound := Library.bind_of_passed b.operations verdict
    rw [split, Library.bindAll_missing _ _ resolves missing, ← split] at bound
    rw [init_unbound unready opened bound, lookups_eq _ split]
    simp [attempt]
  | served opened passes binds =>
    have verdict := Library.checkVersion_of_passes passes
    have bound := Library.bind_of_passed b.operations verdict
    rw [Library.bindAll_bound _ _ binds] at bound
    rw [init_bound unready opened bound, all_lookups_eq]
    simp [attempt]

theorem exists_initialises (p : Invoker b) (s : Holdings) :
    ∃ outcome, p.Initialises s outcome := by
  cases opened : p.loader.openAt p.path with
  | error cause => exact ⟨_, .unopened opened⟩
  | ok l =>
    rcases l.passes_or_disagrees (p.nextTag s) p.path with ⟨probe, passes⟩ | ⟨report, found, other⟩
    · rcases l.bound_or_missing b.operations with
        ⟨bindings, binds⟩ | ⟨before, o, after, cause, split, resolves, missing⟩
      · exact ⟨_, .served opened passes binds⟩
      · exact ⟨_, .missing opened passes split resolves missing⟩
    · exact ⟨_, .incompatible opened found other⟩

theorem initialises_init (unready : p.status = .unready) (s : Holdings) :
    p.Initialises s (p.init s) := by
  obtain ⟨outcome, initialises⟩ := p.exists_initialises s
  have same := eq_init_of_initialises unready initialises
  rwa [same] at initialises

/-- The rules describe the initialisation of an unready invoker exactly, and whether it ends up
ready or failed is told by the answer. -/
theorem initialises_exactly (unready : p.status = .unready) (s : Holdings) :
    (∀ outcome, p.Initialises s outcome ↔ outcome = p.init s) ∧
      ((p.init s).state.1.state = .ready ↔ (p.init s).answer = .ok ()) ∧
      ((p.init s).state.1.state = .failed ↔ ∃ error, (p.init s).answer = .error error) := by
  have initialises := initialises_init unready s
  refine ⟨fun other => ⟨eq_init_of_initialises unready, fun e => e ▸ initialises⟩, ?_⟩
  generalize p.init s = result at initialises ⊢
  cases initialises <;> simp [state]

theorem initialises_exactly_of_table :
    (Invoker.ofTable (b := .standard) (Scripted.Script.table {} 0)).Initialises {}
        ((Invoker.ofTable (Scripted.Script.table {} 0)).init {}) ∧
      ((Invoker.ofTable (b := .standard) (Scripted.Script.table {} 0)).init {}).answer = .ok () :=
  ⟨((initialises_exactly rfl {}).1 _).2 rfl, rfl⟩

end Invoker

end GraphPlugin
