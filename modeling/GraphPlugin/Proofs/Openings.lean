import GraphPlugin.Proofs.Shares
import GraphPlugin.Session

/-! The steps that open libraries, and what they settle: a library is never opened twice, it is gone
at once when its invoker fails, and otherwise the policy of the invoker at that moment decides
whether it is to stay. -/
namespace GraphPlugin

def Loader.serving (t : SymbolTable Export) : Loader :=
  (TableLoader.register {} "/lib" t).toLoader none []

theorem Loader.serving_opened {t : SymbolTable Export} {path : String} {l : Library}
    (opened : (serving t).openAt path = .ok l) : l = (Library.ofTable t).withFailures [] := by
  have openAt : (TableLoader.register {} "/lib" t).openAt path =
      if Path.Same "/lib" path then .ok t else .error (.notRegistered path) := by
    by_cases same : Path.Same "/lib" path <;>
      simp [TableLoader.openAt, TableLoader.register, TableLoader.replaceOrAppend, same]
  simp only [serving, TableLoader.toLoader, openAt] at opened
  split_ifs at opened
  exact (Except.ok.inj opened).symm

def Invoker.ofTable {b : Build} (t : SymbolTable Export) : Invoker b where
  id := "plugin"
  path := "/lib"
  loader := .serving t

def Scripted.Script.table (script : Script) (number : Nat) : SymbolTable Export :=
  Session.fullTable (script.backend number)

theorem Role.symbol_injective {r q : Role} (same : r.symbol = q.symbol) : r = q := by
  cases r with
  | operation o =>
    cases q with
    | operation p => exact congrArg operation (Operation.symbol_injective same)
    | version => cases o <;> exact absurd same (by decide)
  | version =>
    cases q with
    | operation p => cases p <;> exact absurd same (by decide)
    | version => rfl

theorem Backend.get?_register_roles (backend : Backend) {r : Role} (roles : List Role)
    (t : SymbolTable Export) (there : r ∈ roles ∨
      t.entries.get? r.symbol = some ⟨r.signature, backend.function r⟩) :
    (roles.foldl (fun t r => t.register r.symbol r.signature (backend.function r)) t).entries.get?
      r.symbol = some ⟨r.signature, backend.function r⟩ := by
  induction roles generalizing t with
  | nil => exact there.resolve_left List.not_mem_nil
  | cons q rest ih =>
    refine ih _ ?_
    by_cases same : q = r
    · subst same
      exact .inr (Keyed.get?_insert_self _ _ _)
    · refine there.imp (fun listed => (List.mem_cons.1 listed).resolve_left (Ne.symm same)) ?_
      exact (Keyed.get?_insert_of_ne _ _ (mt Role.symbol_injective (Ne.symm same))).trans

theorem Session.resolve_fullTable (backend : Backend) (o : Operation) :
    (fullTable backend).resolve o.symbol (.operation o.shape) = .ok (backend.entry o) := by
  have listed : Role.operation o ∈ Role.all := by cases o <;> decide
  have found := backend.get?_register_roles Role.all .empty (.inl listed)
  unfold SymbolTable.resolve
  rw [show (fullTable backend).entries.get? o.symbol = _ from found]
  exact dif_pos rfl

theorem Scripted.Script.entry_of_opened {script : Script} {number : Nat} {path : String}
    {l : Library} (opened : (Loader.serving (script.table number)).openAt path = .ok l)
    {o : Operation} {entry : Entry o.shape} (resolved : l.resolve o.entryPoint = .ok entry) :
    entry = (script.backend number).entry o := by
  obtain rfl := Loader.serving_opened opened
  have exported : (script.table number).resolve o.symbol _ = _ := Session.resolve_fullTable _ o
  generalize script.table number = t at exported resolved
  have found : (t.resolve o.symbol (.operation o.shape)).mapError Cause.lookup = .ok entry :=
    resolved
  rw [exported] at found
  exact (Except.ok.inj found).symm

namespace Host

variable {b : Build} {host : Host b}

/-- The step initialises an invoker for the first time, and its loader opens a library, which gets
the tag. -/
def Opens (p : Invoker b) (library : Tag) (host : Host b) (action : Action) : Prop :=
  ∃ name l, action = .init name ∧ host.invokers.get? name = some p ∧ p.status = .unready ∧
    p.loader.openAt p.path = .ok l ∧ library = p.nextTag host.holdings

def Fails (host : Host b) (action : Action) : Prop :=
  ∃ error, (host.step action).answer = .initialised .failed (.error error)

def Serves (host : Host b) (action : Action) : Prop :=
  (host.step action).answer = .initialised .ready (.ok ())

theorem step_init {name : String} {p : Invoker b} (found : host.invokers.get? name = some p) :
    host.step (.init name) = host.stepInit name p := by
  rw [step, (find_eq_ok_iff _ _ _).2 found]

theorem step_init_unknown {name : String}
    (absent : host.invokers.get? name = none) : host.step (.init name) = host.refuse name := by
  rw [step, find, absent]

theorem serves_init_iff {name : String} {p : Invoker b}
    (found : host.invokers.get? name = some p) :
    Serves host (.init name) ↔ (p.init host.holdings).answer = .ok () := by
  have outcome := p.init_cases host.holdings
  unfold Serves
  rw [step_init found, stepInit]
  generalize p.init host.holdings = result at outcome ⊢
  cases outcome <;> simp [Invoker.state]

theorem opens_cases {p : Invoker b} {library : Tag} {action : Action}
    (opens : Opens p library host action) :
    (Fails host action ∧ ¬ Serves host action ∧
        (host.step action).state.holdings = (host.holdings.addLibrary p.loader.origin).2) ∨
      (Serves host action ∧ ¬ Fails host action ∧ (host.step action).state.holdings =
        (host.holdings.addLibrary p.loader.origin).2.share library p.unloadOnDrop) := by
  obtain ⟨name, l, rfl, found, unready, opened, rfl⟩ := opens
  have outcome := p.init_cases host.holdings
  unfold Fails Serves
  rw [step_init found]
  unfold stepInit
  generalize p.init host.holdings = result at outcome ⊢
  cases outcome with
  | again started => contradiction
  | unopened _ unopened =>
    rw [opened] at unopened
    contradiction
  | @unbound _ _ error _ _ _ => exact .inl ⟨⟨error, rfl⟩, by simp, rfl⟩
  | served _ _ _ => exact .inr ⟨rfl, by simp [Invoker.state], rfl⟩

section Opened

variable {p : Invoker b} {n : Tag} {before : List Action} {init : Action}

theorem not_issued_before (opens : Opens p n ((start b).after before) init) :
    ¬ ((start b).after before).holdings.libraries.Issued n := by
  obtain ⟨_, _, _, _, _, _, rfl⟩ := opens
  exact Tally.not_issued_next _ _

theorem not_shared_of_not_issued {actions : List Action}
    (new : ¬ ((start b).after actions).holdings.libraries.Issued n) :
    ¬ (start b).Shared actions n := by
  rw [← mem_shares_iff_shared]
  exact fun shared => new ((after_balanced b actions).opened n (.inl shared))

theorem not_kept_of_not_issued {actions : List Action}
    (new : ¬ ((start b).after actions).holdings.libraries.Issued n) :
    n ∉ ((start b).after actions).holdings.kept :=
  fun kept => new ((after_balanced b actions).opened n (.inr kept))

theorem issued_after (opens : Opens p n ((start b).after before) init) :
    ((start b).after (before ++ [init])).holdings.libraries.Issued n := by
  have tag : n = p.nextTag ((start b).after before).holdings := by
    obtain ⟨_, _, _, _, _, _, tag⟩ := opens
    exact tag
  rw [after_snoc]
  rcases opens_cases opens with ⟨_, _, holdings⟩ | ⟨_, _, holdings⟩
  · rw [holdings]
    exact (Tally.issued_advance_iff _ _ _).2 (.inl tag)
  · rw [holdings]
    exact (Tally.issued_advance_iff _ _ _).2 (.inl tag)

theorem gone_of_fails (opens : Opens p n ((start b).after before) init)
    (fails : Fails ((start b).after before) init) :
    ((start b).after (before ++ [init])).holdings.Gone n := by
  have new := not_issued_before opens
  have issued := issued_after opens
  rw [after_snoc] at issued ⊢
  rcases opens_cases opens with ⟨_, _, holdings⟩ | ⟨_, served, _⟩
  · rw [holdings] at issued ⊢
    have unshared := mt (mem_shares_iff_shared b before n).1 (not_shared_of_not_issued new)
    exact ⟨issued, unshared, not_kept_of_not_issued new⟩
  · contradiction

theorem shared_of_serves (opens : Opens p n ((start b).after before) init)
    (serves : Serves ((start b).after before) init) :
    (start b).Shared (before ++ [init]) n := by
  rw [← mem_shares_iff_shared, after_snoc]
  rcases opens_cases opens with ⟨_, failed, _⟩ | ⟨_, _, holdings⟩
  · contradiction
  · rw [holdings]
    exact List.mem_cons_self

theorem kept_of_serves (opens : Opens p n ((start b).after before) init)
    (serves : Serves ((start b).after before) init) :
    n ∈ ((start b).after (before ++ [init])).holdings.kept ↔ p.unloadOnDrop = false := by
  have unkept := not_kept_of_not_issued (not_issued_before opens)
  rw [after_snoc]
  rcases opens_cases opens with ⟨_, failed, _⟩ | ⟨_, _, holdings⟩
  · contradiction
  · rw [holdings]
    cases policy : p.unloadOnDrop with
    | true => simpa [Holdings.share, Holdings.addLibrary] using unkept
    | false => simp [Holdings.share]

theorem kept_later (opens : Opens p n ((start b).after before) init)
    (serves : Serves ((start b).after before) init) (later : List Action) :
    n ∈ ((start b).after (before ++ init :: later)).holdings.kept ↔ p.unloadOnDrop = false := by
  have stays := (more_settles b (before ++ [init]) later).kept n (issued_after opens)
  rw [List.append_assoc, List.singleton_append] at stays
  exact stays.trans (kept_of_serves opens serves)

theorem issued_later (opens : Opens p n ((start b).after before) init) (later : List Action) :
    ((start b).after (before ++ init :: later)).holdings.libraries.Issued n := by
  have stays := (more_settles b (before ++ [init]) later).issued n (issued_after opens)
  rwa [List.append_assoc, List.singleton_append] at stays

end Opened

theorem close_fst (p : Invoker b) (s : Holdings) :
    ∃ shares, (p.close s).1 = { s with shares := shares } := by
  unfold Invoker.close
  cases p.library? with
  | none => exact ⟨s.shares, rfl⟩
  | some library => exact ⟨_, Holdings.giveUp_fst s library⟩

theorem holdings_keepInvoker (name : String) (p : Invoker b) :
    ∃ shares, (host.keepInvoker name p).1.holdings = { host.holdings with shares := shares } := by
  unfold keepInvoker
  cases host.invokers.get? name with
  | none => exact ⟨host.holdings.shares, rfl⟩
  | some old => exact close_fst old host.holdings

theorem holdings_answerHandle (result : String) (h : Handle) (s : Holdings)
    (events : List Event) :
    ∃ refs shares, (host.answerHandle result h s events).state.holdings =
      { s with refs := refs, shares := shares } := by
  unfold answerHandle keepHandle
  cases host.handles.get? result with
  | none => exact ⟨s.refs, s.shares, rfl⟩
  | some old => exact s.drop_fst old

theorem libraries_answerHandle (result : String) (h : Handle) (s : Holdings)
    (events : List Event) :
    (host.answerHandle result h s events).state.holdings.libraries = s.libraries := by
  obtain ⟨refs, shares, same⟩ := host.holdings_answerHandle result h s events
  rw [same]

theorem Invokes.libraries {p : Invoker b} {action : Action} {outcome : Outcome (Host b) (Reply b)}
    (invokes : Invokes host p action outcome) :
    outcome.state.holdings.libraries = host.holdings.libraries := by
  cases invokes with
  | refused => rfl
  | @answered library _ _ _ response _ _ _ _ _ =>
    exact (libraries_answerHandle _ _ _ _).trans
      (host.holdings.called.libraries_adopt library response)

theorem opens_of_issued {action : Action} {n : Tag} (new : ¬ host.holdings.libraries.Issued n)
    (issued : (host.step action).state.holdings.libraries.Issued n) :
    ∃ p, Opens p n host action := by
  have outcome := host.step_cases action
  generalize host.step action = result at outcome issued
  have nothing : result.state.holdings.libraries ≠ host.holdings.libraries :=
    fun same => new (same ▸ issued)
  cases outcome with
  | @initialised name p found =>
    have outcome := p.init_cases host.holdings
    unfold stepInit at issued
    generalize p.init host.holdings = result at outcome issued
    have advanced : (host.holdings.libraries.advance p.loader.origin).Issued n →
        n = p.nextTag host.holdings :=
      fun issued => ((Tally.issued_advance_iff _ _ _).1 issued).resolve_right new
    cases outcome with
    | again _ => exact absurd issued new
    | unopened _ _ => exact absurd issued new
    | @unbound l _ _ unready opened _ =>
      exact ⟨p, name, l, rfl, found, unready, opened, advanced issued⟩
    | @served l _ _ unready opened _ =>
      exact ⟨p, name, l, rfl, found, unready, opened, advanced issued⟩
  | created _ =>
    obtain ⟨shares, kept⟩ := host.holdings_keepInvoker _ _
    exact absurd (congrArg Holdings.libraries kept) nothing
  | closed _ =>
    obtain ⟨shares, kept⟩ := close_fst _ host.holdings
    exact absurd (congrArg Holdings.libraries kept) nothing
  | invoked found asked =>
    exact absurd (stepInvoke_invokes found asked _).libraries nothing
  | made _ => exact absurd (libraries_answerHandle _ _ _ _) nothing
  | cloned _ => exact absurd (libraries_answerHandle _ _ _ _) nothing
  | taken _ _ => exact absurd (libraries_answerHandle _ _ _ _) nothing
  | dropped _ =>
    obtain ⟨refs, shares, kept⟩ := host.holdings.drop_fst _
    exact absurd (congrArg Holdings.libraries kept) nothing
  | @unstashed place h _ =>
    obtain ⟨refs, shares, kept⟩ := (host.holdings.unstash place).drop_fst h
    exact absurd (congrArg Holdings.libraries kept) nothing
  | refused => exact absurd rfl nothing
  | policySet _ => exact absurd rfl nothing
  | inspected => exact absurd rfl nothing
  | described => exact absurd rfl nothing
  | hollow => exact absurd rfl nothing
  | absent => exact absurd rfl nothing

def OpensForGood (library : Tag) (host : Host b) (action : Action) : Prop :=
  ∃ p, Opens p library host action ∧ Serves host action ∧ p.unloadOnDrop = false

def Stays (host : Host b) (actions : List Action) (library : Tag) : Prop :=
  host.Sometime actions (OpensForGood library)

theorem mem_kept_iff_stays (b : Build) (actions : List Action) (n : Tag) :
    n ∈ ((start b).after actions).holdings.kept ↔ (start b).Stays actions n := by
  induction actions using List.reverseRecOn with
  | nil => simp [start, Stays, not_sometime_nil]
  | append_singleton actions action ih =>
    have more := (step_settles b actions action).kept n
    unfold Stays at ih ⊢
    rw [sometime_snoc_iff, ← ih]
    by_cases issued : ((start b).after actions).holdings.libraries.Issued n
    · have other : ¬ OpensForGood n ((start b).after actions) action := by
        rintro ⟨p, opens, _⟩
        exact not_issued_before opens issued
      rw [more issued, or_iff_left other]
    · rw [or_iff_right (not_kept_of_not_issued issued)]
      constructor
      · intro kept
        have later := (after_balanced b (actions ++ [action])).opened n (.inr kept)
        rw [ledger, after_snoc] at later
        obtain ⟨p, opens⟩ := opens_of_issued issued later
        rcases opens_cases opens with ⟨fails, _, _⟩ | ⟨serves, _, _⟩
        · have gone := gone_of_fails opens fails
          exact absurd kept gone.2.2
        · exact ⟨p, opens, serves, (kept_of_serves opens serves).1 kept⟩
      · rintro ⟨p, opens, serves, stay⟩
        exact (kept_of_serves opens serves).2 stay

theorem released_iff (b : Build) (actions : List Action) (n : Tag) :
    Event.released n ∈ (start b).trace actions ↔
      ((start b).after actions).holdings.libraries.Issued n ∧
        ¬ (start b).Shared actions n ∧ ¬ (start b).Stays actions n := by
  have gone : 0 < ((start b).after actions).holdings.gone n ↔
      ((start b).after actions).holdings.Gone n := by
    rw [← Holdings.gone_eq_one_iff]
    have most := ((start b).after actions).holdings.gone_le_one n
    omega
  rw [← releases_pos_iff, releases_trace, gone, Holdings.Gone, mem_shares_iff_shared,
    mem_kept_iff_stays]

end Host

end GraphPlugin
