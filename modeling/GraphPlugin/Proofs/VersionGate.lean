import GraphPlugin.Proofs.Initialisation

/-! What the version check is worth for libraries that are tables inside the process. A table knows
the signature of each entry, and the probe takes an entry under another signature for one that is
not there. The check is as strict as it should be exactly when the version symbol has no such entry.
-/
namespace GraphPlugin

variable {b : Build}

namespace SymbolTable

/-- The symbol of the entry point is there, under another signature. -/
def Mismatched (t : SymbolTable Export) (e : EntryPoint) : Prop :=
  ∃ stored function, t.entries.get? e.symbol = some ⟨stored, function⟩ ∧ stored ≠ e.signature

variable {t : SymbolTable Export} {e : EntryPoint}

theorem resolve_of_mismatched (mismatched : t.Mismatched e) :
    t.resolve e.symbol e.signature = .error (.signatureMismatch e.symbol) := by
  obtain ⟨stored, function, found, other⟩ := mismatched
  unfold resolve
  rw [found]
  exact dif_neg other

theorem contains_of_mismatched (mismatched : t.Mismatched e) : t.contains e.symbol = true := by
  obtain ⟨stored, function, found, _⟩ := mismatched
  simp [contains, Keyed.contains, found]

theorem resolve_of_matched (matched : ¬ t.Mismatched e) :
    t.contains e.symbol = false ∧
        t.resolve e.symbol e.signature = .error (.notFound e.symbol) ∨
      ∃ function, t.resolve e.symbol e.signature = .ok function := by
  cases found : t.entries.get? e.symbol with
  | none => exact .inl ⟨by simp [contains, Keyed.contains, found], by simp [resolve, found]⟩
  | some entry =>
    obtain ⟨stored, function⟩ := entry
    have same : stored = e.signature := by
      by_contra other
      exact matched ⟨stored, function, found, other⟩
    subst same
    exact .inr ⟨function, by simp [resolve, found]⟩

end SymbolTable

namespace Invoker

/-- The invoker is given a plain table loader, which serves the table under its path. -/
def Given (p : Invoker b) (t : SymbolTable Export) : Prop :=
  ∃ tables : TableLoader, p.loader = tables.toLoader none [] ∧ tables.openAt p.path = .ok t

theorem openAt_of_given {p : Invoker b} {t : SymbolTable Export} (given : p.Given t) :
    ∃ l : Library, p.loader.openAt p.path = .ok l ∧
      ∀ e, l.resolve e = (t.resolve e.symbol e.signature).mapError .lookup := by
  obtain ⟨tables, loader, opened⟩ := given
  refine ⟨(Library.ofTable t).withFailures [], ?_, fun e => rfl⟩
  rw [loader]
  simp only [TableLoader.toLoader, opened]

/-- The version check is not got around: an initialisation goes well only for a table without the
version symbol or with one that reports a version that fits, the check is left out only for want of
the symbol, and a look-up that finds another signature ends in an error that says so. -/
structure Gated (p : Invoker b) (s : Holdings) (t : SymbolTable Export) : Prop where
  served : (p.init s).answer = .ok () → t.contains "GraphLinkAbiVersion" = false ∨
    ∃ report : VersionReport, t.resolve "GraphLinkAbiVersion" .version = .ok report ∧
      report.version.major = Version.current.major
  skipped : Event.log (.versionUnchecked p.path) ∈ (p.init s).events →
    t.contains "GraphLinkAbiVersion" = false
  reported : ∀ e ∈ EntryPoint.version :: b.operations.map Operation.entryPoint, ∀ tag,
    Event.resolving tag e.symbol ∈ (p.init s).events → t.Mismatched e →
      (p.init s).answer =
        .error (.missingSymbol e.symbol p.path (.lookup (.signatureMismatch e.symbol)))

variable {p : Invoker b} {t : SymbolTable Export}

theorem unchecked_of_mismatched (unready : p.status = .unready) (given : p.Given t) (s : Holdings)
    (mismatched : t.Mismatched .version) :
    Event.log (.versionUnchecked p.path) ∈ (p.init s).events := by
  obtain ⟨l, opened, resolves⟩ := openAt_of_given given
  have untold : l.resolve .version =
      .error (.lookup (.signatureMismatch EntryPoint.version.symbol)) := by
    rw [resolves, SymbolTable.resolve_of_mismatched mismatched]
    rfl
  have passes : l.Passes (p.nextTag s) p.path _ := .untold untold
  rcases l.bound_or_missing b.operations with
    ⟨bindings, binds⟩ | ⟨before, o, after, cause, split, resolves, missing⟩
  · rw [← eq_init_of_initialises unready (.served opened passes binds)]
    simp
  · rw [← eq_init_of_initialises unready (.missing opened passes split resolves missing)]
    simp

theorem symbol_ne_version (o : Operation) : o.symbol ≠ "GraphLinkAbiVersion" := by
  cases o <;> decide

theorem not_resolving_of_passes {l : Library} {tag : Tag} {path : String} {probe : List Event}
    (passes : l.Passes tag path probe) (other : Tag) (o : Operation) :
    Event.resolving other o.symbol ∉ probe := by
  have ne := symbol_ne_version o
  cases passes with
  | untold _ => simp [ne]
  | told _ _ => simp [ne]

theorem checked_of_told {l : Library} {report : VersionReport} (unready : p.status = .unready)
    (s : Holdings) (opened : p.loader.openAt p.path = .ok l)
    (told : l.resolve .version = .ok report) :
    ((p.init s).answer = .ok () → report.version.major = Version.current.major) ∧
      Event.log (.versionUnchecked p.path) ∉ (p.init s).events := by
  have initialises := initialises_init unready s
  generalize p.init s = outcome at initialises ⊢
  have probed : ∀ {probe : List Event}, l.Passes (p.nextTag s) p.path probe →
      report.version.major = Version.current.major ∧
        Event.log (.versionUnchecked p.path) ∉ probe := by
    intro probe passes
    cases passes with
    | untold untold =>
      rw [told] at untold
      cases untold
    | told again agrees =>
      obtain rfl : _ = report := Except.ok.inj (again.symm.trans told)
      exact ⟨agrees, by simp⟩
  cases initialises with
  | unopened _ => simp
  | incompatible _ _ _ => simp
  | missing again passes _ _ _ =>
    obtain rfl : l = _ := Except.ok.inj (opened.symm.trans again)
    have unlogged := (probed passes).2
    simp [-List.map_take, unlogged]
  | served again passes _ =>
    obtain rfl : l = _ := Except.ok.inj (opened.symm.trans again)
    obtain ⟨agrees, unlogged⟩ := probed passes
    simp [agrees, unlogged]

theorem reported_of_mismatched {l : Library} {o : Operation} {cause : Cause} {tag : Tag}
    (unready : p.status = .unready) (s : Holdings) (opened : p.loader.openAt p.path = .ok l)
    (offered : o ∈ b.operations) (missing : l.resolve o.entryPoint = .error cause)
    (looked : Event.resolving tag o.symbol ∈ (p.init s).events) :
    (p.init s).answer = .error (.missingSymbol o.symbol p.path cause) := by
  have initialises := initialises_init unready s
  have ne := symbol_ne_version o
  generalize p.init s = outcome at initialises looked ⊢
  cases initialises with
  | unopened _ => simp at looked
  | incompatible _ _ _ => simp [ne] at looked
  | @missing _ probe before after q other again passes split resolves last =>
    obtain rfl : l = _ := Except.ok.inj (opened.symm.trans again)
    have unprobed := not_resolving_of_passes passes tag o
    rw [lookups_eq _ split] at looked
    simp only [List.mem_append, List.mem_cons, List.not_mem_nil, List.mem_map, reduceCtorEq,
      unprobed, Event.resolving.injEq, or_false, false_or] at looked
    obtain ⟨r, hr, _, same⟩ := looked
    obtain rfl := Operation.symbol_injective same
    rcases hr with hr | rfl
    · obtain ⟨entry, found⟩ := resolves r hr
      rw [missing] at found
      cases found
    · obtain rfl : cause = other := Except.error.inj (missing.symm.trans last)
      rfl
  | served again _ binds =>
    obtain rfl : l = _ := Except.ok.inj (opened.symm.trans again)
    have found := binds o offered
    rw [missing] at found
    cases found

/-- The check holds what it promises exactly for the tables that do not have the version symbol
under another signature. -/
theorem gated_iff (unready : p.status = .unready) (given : p.Given t) (s : Holdings) :
    p.Gated s t ↔ ¬ t.Mismatched .version := by
  obtain ⟨l, opened, resolves⟩ := openAt_of_given given
  constructor
  · intro gated mismatched
    have absent := gated.skipped (unchecked_of_mismatched unready given s mismatched)
    have present := SymbolTable.contains_of_mismatched mismatched
    rw [EntryPoint.version, absent] at present
    contradiction
  · intro matched
    have reported : ∀ e ∈ EntryPoint.version :: b.operations.map Operation.entryPoint, ∀ tag,
        Event.resolving tag e.symbol ∈ (p.init s).events → t.Mismatched e → (p.init s).answer =
          .error (.missingSymbol e.symbol p.path (.lookup (.signatureMismatch e.symbol))) := by
      intro e he tag looked mismatched
      rcases List.mem_cons.1 he with rfl | he
      · contradiction
      · obtain ⟨o, offered, rfl⟩ := List.mem_map.1 he
        have missing := resolves o.entryPoint
        rw [SymbolTable.resolve_of_mismatched mismatched] at missing
        exact reported_of_mismatched unready s opened offered missing looked
    rcases SymbolTable.resolve_of_matched matched with ⟨absent, _⟩ | ⟨report, found⟩
    · exact ⟨fun _ => .inl absent, fun _ => absent, reported⟩
    · have told : l.resolve .version = .ok report := by
        rw [resolves, found]
        rfl
      obtain ⟨agrees, unlogged⟩ := checked_of_told unready s opened told
      exact ⟨fun served => .inr ⟨report, found, agrees served⟩,
        fun logged => absurd logged unlogged,
        reported⟩

theorem gated_of_full_table :
    (Invoker.ofTable (b := .standard) (Scripted.Script.table {} 0)).Gated {}
      (Scripted.Script.table {} 0) := by
  refine (gated_iff rfl ⟨_, rfl, rfl⟩ {}).2 ?_
  rintro ⟨stored, function, found, other⟩
  have here : (Scripted.Script.table {} 0).entries.get? EntryPoint.version.symbol =
      some ⟨.version, (Scripted.Script.backend {} 0).report⟩ := rfl
  rw [here] at found
  cases found
  exact other rfl

def mislabelled : SymbolTable Export :=
  (Scripted.Script.table {} 0).register "GraphLinkAbiVersion" (.operation .load)
    ((Scripted.Script.backend {} 0).entry .loadGraph)

theorem mislabelled_not_gated :
    ((Invoker.ofTable (b := .standard) mislabelled).init {}).answer = .ok () ∧
      mislabelled.contains "GraphLinkAbiVersion" = true ∧
      ¬ (Invoker.ofTable (b := .standard) mislabelled).Gated {} mislabelled := by
  have logged : Event.log (.versionUnchecked "/lib") ∈
      ((Invoker.ofTable (b := .standard) mislabelled).init {}).events :=
    List.mem_of_getElem? (show _[3]? = some _ from rfl)
  have present : mislabelled.contains "GraphLinkAbiVersion" = true := rfl
  refine ⟨rfl, present, fun gated => ?_⟩
  rw [gated.skipped logged] at present
  contradiction

end Invoker

end GraphPlugin
