import GraphPlugin.Proofs.Dispatch
import GraphPlugin.Proofs.Release

/-! When libraries are used. A library is asked for its symbols inside the initialisation that opens
it, its functions are called inside that initialisation or through the invoker that came ready from
it, and nothing of this happens after the library is released. -/
namespace GraphPlugin

variable {b : Build}

namespace Event

def Uses (library : Tag) : Event → Prop
  | resolving other _ => other = library
  | calling other _ _ => other = some library
  | _ => False

def callsInto (library : Tag) : Event → Bool
  | calling other _ _ => other == some library
  | _ => false

variable {e : Event} {library : Tag}

theorem Uses.isUse (uses : e.Uses library) : e.IsUse := by
  cases e <;> simp_all [Uses, IsUse]

theorem Uses.quiet (uses : e.Uses library) : e.Quiet := by
  cases e <;> simp_all [Uses, Quiet]

theorem uses_iff : e.Uses library ↔ (∃ symbol, e = .resolving library symbol) ∨
    ∃ label call, e = .calling (some library) label call := by
  cases e <;> simp [Uses, and_comm]

theorem callsInto_iff :
    e.callsInto library = true ↔ ∃ label call, e = .calling (some library) label call := by
  cases e <;> simp [callsInto]

theorem uses_of_callsInto (calls : e.callsInto library = true) : e.Uses library := by
  obtain ⟨label, call, rfl⟩ := callsInto_iff.1 calls
  rfl

end Event

/-- No use of the library follows a release of it. -/
def Parted (library : Tag) (events : List Event) : Prop :=
  events.Pairwise fun e f => e = .released library → ¬ f.Uses library

namespace Parted

variable {library : Tag} {events more : List Event}

theorem of_quiet (quiet : ∀ e ∈ events, e.Quiet) : Parted library events := by
  apply List.pairwise_of_forall_mem_list
  rintro e he f _ rfl
  exact absurd (quiet _ he) id

theorem append_unused (parted : Parted library events) (unused : ∀ e ∈ more, ¬ e.Uses library) :
    Parted library (events ++ more) := by
  apply List.pairwise_append.2
  refine ⟨parted, ?_, fun _ _ f hf _ => unused f hf⟩
  exact List.pairwise_of_forall_mem_list fun _ _ f hf _ => unused f hf

theorem not_used_after {e : Event} (parted : Parted library (events ++ .released library :: more))
    (later : e ∈ more) : ¬ e.Uses library := by
  have tail := (List.pairwise_append.1 parted).2.1
  exact (List.pairwise_cons.1 tail).1 e later rfl

end Parted

namespace Invoker

variable {p : Invoker b} {s : Holdings} {n library : Tag} {asked : List Event} {e : Event}

theorem asks_quiet (asks : Asks library asked) : ∀ e ∈ asked, e.Quiet := by
  cases asks <;> simp [Event.Quiet]

theorem asks_uses (asks : Asks library asked) (shown : e ∈ asked) (uses : e.Uses n) :
    n = library := by
  cases asks with
  | unversioned entry symbols =>
    simp only [List.mem_cons, List.mem_map] at shown
    rcases shown with rfl | rfl | ⟨symbol, _, rfl⟩
    · exact uses.symm
    · exact uses.elim
    · exact uses.symm
  | versioned label symbols =>
    simp only [List.mem_cons, List.mem_map] at shown
    rcases shown with rfl | rfl | ⟨symbol, _, rfl⟩
    · exact uses.symm
    · exact (Option.some.inj uses).symm
    · exact uses.symm

theorem calls_of_asks (asks : Asks library asked) (n : Tag) :
    asked.countP (Event.callsInto n) ≤ 1 := by
  have none : ∀ symbols : List String,
      (symbols.map (Event.resolving library)).countP (Event.callsInto n) = 0 := by
    intro symbols
    simp [List.countP_eq_zero, Event.callsInto]
  cases asks with
  | unversioned entry symbols => simp [Event.callsInto, none]
  | versioned label symbols =>
    rw [List.countP_cons_of_neg (by simp [Event.callsInto]), List.countP_cons, none]
    split <;> simp

theorem init_uses (shown : e ∈ (p.init s).events) (uses : e.Uses n) :
    p.status = .unready ∧ (∃ l, p.loader.openAt p.path = .ok l) ∧ n = p.nextTag s := by
  rcases p.init_asks s with unused | ⟨unready, opened, asked, last, events, asks, unused⟩
  · exact absurd uses.isUse (unused e shown)
  · rw [events, List.mem_append, List.mem_append] at shown
    rcases shown with (first | shown) | ended
    · exact absurd uses.isUse (attempt_unused p e first)
    · exact ⟨unready, opened, asks_uses asks shown uses⟩
    · exact absurd uses.isUse (unused e ended)

theorem attempt_first {first last : List Event} (split : (p.init s).events = first ++ e :: last)
    (uses : e.Uses n) : p.attempt <+: first := by
  have shown : e ∈ (p.init s).events := by simp [split]
  rcases p.init_asks s with unused | ⟨_, _, asked, ends, events, _, _⟩
  · exact absurd uses.isUse (unused e shown)
  · rw [events, List.append_assoc] at split
    rcases append_split split with ⟨more, attempted⟩ | ⟨more, rfl, _⟩
    · have inside : e ∈ p.attempt := by simp [attempted]
      exact absurd uses.isUse (attempt_unused p e inside)
    · exact List.prefix_append _ _

theorem init_parted (p : Invoker b) (s : Holdings) (n : Tag) : Parted n (p.init s).events := by
  rcases p.init_asks s with unused | ⟨_, _, asked, last, events, asks, unused⟩
  · exact Parted.append_unused .nil fun e shown uses => unused e shown uses.isUse
  · rw [events]
    refine Parted.append_unused (.of_quiet ?_) fun e shown uses => unused e shown uses.isUse
    exact List.forall_mem_append.2 ⟨Host.attempt_quiet p, asks_quiet asks⟩

theorem calls_of_init (p : Invoker b) (s : Holdings) (n : Tag) :
    (p.init s).events.countP (Event.callsInto n) ≤ 1 := by
  have none : ∀ {events : List Event}, (∀ e ∈ events, ¬ e.IsUse) →
      events.countP (Event.callsInto n) = 0 := by
    intro events unused
    rw [List.countP_eq_zero]
    intro e shown calls
    exact unused e shown (Event.uses_of_callsInto calls).isUse
  rcases p.init_asks s with unused | ⟨_, _, asked, last, events, asks, unused⟩
  · rw [none unused]
    exact Nat.zero_le 1
  · rw [events, List.countP_append, List.countP_append, none (attempt_unused p), none unused]
    simpa using calls_of_asks asks n

end Invoker

namespace Host

variable {host : Host b} {actions : List Action} {action : Action} {n : Tag} {e : Event}

theorem parted_step (host : Host b) (action : Action) (n : Tag) :
    Parted n (host.step action).events := by
  obtain ⟨shown, drops, shows, events, loud⟩ := host.step_shows action
  rw [events]
  refine Parted.append_unused ?_ fun e dropped uses => loud e dropped uses.quiet
  cases shows with
  | silent => exact .nil
  | @init name p _ => exact p.init_parted host.holdings n
  | @invoke _ _ _ o args p _ _ =>
    apply Parted.of_quiet
    intro e shown
    rcases p.invoke_shows host.holdings o args e shown with ⟨_, rfl⟩ | ⟨_, _, _, rfl⟩
    · trivial
    · trivial

theorem opens_of_resolving {symbol : String}
    (shown : Event.resolving n symbol ∈ (host.step action).events) :
    ∃ p, Opens p n host action := by
  rcases quiet_step shown trivial with
    ⟨name, p, rfl, found, shown⟩ | ⟨name, request, result, p, o, args, rfl, found, asked, shown⟩
  · obtain ⟨unready, ⟨l, opened⟩, tag⟩ := Invoker.init_uses shown rfl
    exact ⟨p, name, l, rfl, found, unready, opened, tag⟩
  · rcases p.invoke_shows host.holdings o args _ shown with ⟨_, same⟩ | ⟨_, _, _, same⟩
    · cases same
    · cases same

theorem opens_of_asking_version {label : Label}
    (shown : Event.calling (some n) label .version ∈ (host.step action).events) :
    ∃ p, Opens p n host action := by
  rcases quiet_step shown trivial with
    ⟨name, p, rfl, found, shown⟩ | ⟨name, request, result, p, o, args, rfl, found, asked, shown⟩
  · obtain ⟨unready, ⟨l, opened⟩, tag⟩ := Invoker.init_uses shown rfl
    exact ⟨p, name, l, rfl, found, unready, opened, tag⟩
  · obtain ⟨_, _, _, _, _, same⟩ := Invoker.invoke_calls shown
    cases same

theorem reaches_of_operation {label : Label} {shape : Shape} {received : Arguments shape}
    (shown : Event.calling (some n) label (.operation shape received) ∈ (host.step action).events) :
    ∃ (o : Operation) (entry : Entry o.shape) (args : Arguments o.shape),
      Reaches host action n entry args := by
  obtain ⟨library, o, entry, args, reaches, same⟩ := reaches_of_called shown
  cases same
  exact ⟨o, entry, args, reaches⟩

theorem opens_or_reaches (shown : e ∈ (host.step action).events) (uses : e.Uses n) :
    (∃ p, Opens p n host action) ∨ ∃ (o : Operation) (entry : Entry o.shape)
      (args : Arguments o.shape), Reaches host action n entry args := by
  rcases Event.uses_iff.1 uses with ⟨symbol, rfl⟩ | ⟨label, call, rfl⟩
  · exact .inl (opens_of_resolving shown)
  · cases call with
    | version => exact .inl (opens_of_asking_version shown)
    | operation shape received => exact .inr (reaches_of_operation shown)

theorem attempts_of_opens {p : Invoker b} (opens : Opens p n host action) :
    p.attempt <+: (host.step action).events := by
  obtain ⟨name, l, rfl, found, unready, opened, rfl⟩ := opens
  have outcome := p.init_cases host.holdings
  rw [step_init found, stepInit]
  generalize p.init host.holdings = result at outcome ⊢
  cases outcome with
  | again started => contradiction
  | unopened _ _ => exact List.prefix_append _ _
  | unbound _ _ _ => exact ⟨_, (List.append_assoc _ _ _).symm⟩
  | served _ _ _ => exact ⟨_, (List.append_assoc _ _ _).symm⟩

theorem accepted_of_reaches {o : Operation} {entry : Entry o.shape} {args : Arguments o.shape}
    (reaches : Reaches ((start b).after actions) action n entry args) :
    ∃ name request result, action = .invoke name request result ∧
      (start b).Accepted actions name n := by
  obtain ⟨name, request, result, p, bindings, _, rfl, found, ready, _, _, _⟩ := reaches
  exact ⟨name, request, result, rfl, (ready_origin found ready).1⟩

theorem shared_of_reaches {o : Operation} {entry : Entry o.shape} {args : Arguments o.shape}
    (reaches : Reaches ((start b).after actions) action n entry args) :
    n ∈ ((start b).after actions).holdings.shares := by
  obtain ⟨name, _, _, p, bindings, _, _, found, ready, _, _, _⟩ := reaches
  exact (mem_shares_iff_shared b actions n).2 (.inl ⟨name, p, found, library?_of_ready ready⟩)

theorem not_used_of_gone (gone : ((start b).after actions).holdings.Gone n)
    (shown : e ∈ (((start b).after actions).step action).events) : ¬ e.Uses n := by
  intro uses
  rcases opens_or_reaches shown uses with ⟨p, opens⟩ | ⟨o, entry, args, reaches⟩
  · exact not_issued_before opens gone.1
  · exact gone.2.1 (shared_of_reaches reaches)

theorem issued_of_used (shown : e ∈ (((start b).after actions).step action).events)
    (uses : e.Uses n) : ((start b).after (actions ++ [action])).holdings.libraries.Issued n := by
  rcases opens_or_reaches shown uses with ⟨p, opens⟩ | ⟨o, entry, args, reaches⟩
  · exact issued_after opens
  · apply (step_settles b actions action).issued
    exact (after_balanced b actions).opened n (.inl (shared_of_reaches reaches))

theorem opened_of_issued (issued : ((start b).after actions).holdings.libraries.Issued n) :
    (start b).Sometime actions fun host action => ∃ p, Opens p n host action := by
  induction actions using List.reverseRecOn with
  | nil => exact absurd issued (Tally.not_issued_empty n)
  | append_singleton actions action ih =>
    by_cases earlier : ((start b).after actions).holdings.libraries.Issued n
    · exact (ih earlier).more [action]
    · rw [after_snoc] at issued
      exact sometime_snoc_iff.2 (.inr (opens_of_issued earlier issued))

theorem opened_once {before rest other more : List Action} {init again : Action} {p q : Invoker b}
    (opens : Opens p n ((start b).after before) init)
    (reopens : Opens q n ((start b).after other) again)
    (split : before ++ init :: rest = other ++ again :: more) : before = other ∧ init = again := by
  rcases split_cases split with ⟨middle, rfl⟩ | ⟨rfl, rfl⟩ | ⟨middle, rfl⟩
  · exact absurd (issued_later reopens middle) (not_issued_before opens)
  · exact ⟨rfl, rfl⟩
  · exact absurd (issued_later opens middle) (not_issued_before reopens)

theorem attempted_first {front back : List Event}
    (split : (start b).trace actions = front ++ e :: back) (uses : e.Uses n) :
    ∃ before p init rest, actions = before ++ init :: rest ∧
      Opens p n ((start b).after before) init ∧ (start b).trace before ++ p.attempt <+: front := by
  obtain ⟨sofar, action, later, first, last, rfl, events, rfl⟩ := trace_split split
  have shown : e ∈ (((start b).after sofar).step action).events := by simp [events]
  by_cases issued : ((start b).after sofar).holdings.libraries.Issued n
  · obtain ⟨before, init, rest, rfl, p, opens⟩ := opened_of_issued issued
    refine ⟨before, p, init, rest ++ action :: later, by simp, opens, ?_⟩
    rw [trace_append, trace_cons, List.append_assoc, List.prefix_append_right_inj]
    exact (attempts_of_opens opens).trans ⟨_, (List.append_assoc _ _ _).symm⟩
  · have opened := issued_of_used shown uses
    rw [after_snoc] at opened
    obtain ⟨p, opens⟩ := opens_of_issued issued opened
    refine ⟨sofar, p, action, later, rfl, opens, ?_⟩
    obtain ⟨name, l, rfl, found, _, _, _⟩ := opens
    rw [step_init found] at events
    exact (List.prefix_append_right_inj _).2 (Invoker.attempt_first events uses)

theorem unused_after_release {front back : List Event}
    (split : (start b).trace actions = front ++ .released n :: back) :
    ∀ e ∈ back, ¬ e.Uses n ∧ e ≠ .released n := by
  intro e later
  constructor
  · obtain ⟨sofar, action, rest, first, last, rfl, events, rfl⟩ := trace_split split
    have tail : back = last ++ ((start b).after (sofar ++ [action])).trace rest := by
      rw [trace_append, trace_cons, events] at split
      simpa [after_snoc] using split.symm
    have gone : ((start b).after (sofar ++ [action])).holdings.Gone n :=
      (((step_settles b sofar action).released_iff n).1 (by simp [events])).1
    rw [tail, List.mem_append] at later
    -- In the same step the order of its events decides, and afterwards the library is gone.
    rcases later with same | after
    · have parted := parted_step ((start b).after sofar) action n
      rw [events] at parted
      exact parted.not_used_after same
    · obtain ⟨more, other, _, rfl, shown⟩ := shown_split after
      have still := ((more_settles b (sofar ++ [action]) more).gone_stays gone).1
      rw [← after_append] at shown
      exact not_used_of_gone still shown
  · rintro rfl
    have again := (releases_pos_iff back n).2 later
    have most := Holdings.gone_le_one ((start b).after actions).holdings n
    have count := releases_trace b actions n
    have first := releases_append [.released n] back n
    rw [split, releases_append] at count
    rw [releases_released, if_pos rfl, List.singleton_append] at first
    omega

section Failed

variable {p : Invoker b} {before rest : List Action} {init : Action}

theorem version_of_failed (opens : Opens p n ((start b).after before) init)
    (fails : Fails ((start b).after before) init) {sofar later : List Action}
    (split : before ++ init :: rest = sofar ++ action :: later)
    (shown : e ∈ (((start b).after sofar).step action).events) (calls : e.callsInto n = true) :
    sofar = before ∧ ∃ label, e = .calling (some n) label .version := by
  obtain ⟨label, call, rfl⟩ := Event.callsInto_iff.1 calls
  cases call with
  | version =>
    obtain ⟨q, reopens⟩ := opens_of_asking_version shown
    exact ⟨(opened_once opens reopens split).1.symm, label, rfl⟩
  | operation shape received =>
    -- The invoker of an operation had opened the library too, and its initialisation went well.
    obtain ⟨o, entry, args, reaches⟩ := reaches_of_operation shown
    obtain ⟨name, _, _, _, earlier, between, q, rfl, _, reopens, serves⟩ :=
      accepted_of_reaches reaches
    rw [List.append_assoc, List.cons_append] at split
    obtain ⟨rfl, rfl⟩ := opened_once opens reopens split
    rcases opens_cases opens with ⟨_, unserved, _⟩ | ⟨_, unfailed, _⟩
    · contradiction
    · contradiction

theorem calls_of_failed (opens : Opens p n ((start b).after before) init)
    (fails : Fails ((start b).after before) init) :
    ((start b).trace (before ++ init :: rest)).countP (Event.callsInto n) ≤ 1 := by
  -- A call before or after the step would be a second step that opens the library.
  have earlier : ((start b).trace before).countP (Event.callsInto n) = 0 := by
    rw [List.countP_eq_zero]
    intro e shown calls
    obtain ⟨sofar, action, later, split, shown⟩ := shown_split shown
    have whole : before ++ init :: rest = sofar ++ action :: (later ++ init :: rest) := by
      simp [split]
    obtain ⟨rfl, _⟩ := version_of_failed opens fails whole shown calls
    simp at split
  have later :
      (((start b).after (before ++ [init])).trace rest).countP (Event.callsInto n) = 0 := by
    rw [List.countP_eq_zero]
    intro e shown calls
    obtain ⟨sofar, action, later, split, shown⟩ := shown_split shown
    have whole : before ++ init :: rest = before ++ [init] ++ sofar ++ action :: later := by
      simp [split]
    rw [← after_append] at shown
    obtain ⟨same, _⟩ := version_of_failed opens fails whole shown calls
    simp at same
  have here : (((start b).after before).step init).events.countP (Event.callsInto n) ≤ 1 := by
    obtain ⟨name, l, rfl, found, _, _, _⟩ := opens
    rw [step_init found]
    exact p.calls_of_init _ n
  rw [after_snoc] at later
  rw [trace_append, trace_cons, List.countP_append, List.countP_append, earlier, later]
  omega

theorem released_of_failed (opens : Opens p n ((start b).after before) init)
    (fails : Fails ((start b).after before) init) :
    Event.released n ∈ (start b).trace (before ++ init :: rest) := by
  have gone := ((more_settles b (before ++ [init]) rest).gone_stays (gone_of_fails opens fails)).1
  rw [← releases_pos_iff, releases_trace, List.append_cons, (Holdings.gone_eq_one_iff _ _).2 gone]
  exact Nat.one_pos

end Failed

/-- How a library is used in a run: for its symbols in the step that opens it, which is one step;
for its version in that step and for operations by the invoker that accepted it; always after the
attempt to open it and never after its release; and, when its initialisation fails, with one call at
most, before it is released. -/
structure UsedWhileLoaded (b : Build) (actions : List Action) (n : Tag) : Prop where
  resolved : ∀ symbol, (start b).Always actions fun host action =>
    Event.resolving n symbol ∈ (host.step action).events → ∃ p, Opens p n host action
  called : ∀ label call before action rest, actions = before ++ action :: rest →
    Event.calling (some n) label call ∈ (((start b).after before).step action).events →
      (call = .version ∧ ∃ p, Opens p n ((start b).after before) action) ∨
        (∃ shape args, call = .operation shape args) ∧ ∃ name request result,
          action = .invoke name request result ∧ (start b).Accepted before name n
  opened : ∀ front e back, (start b).trace actions = front ++ e :: back → e.Uses n →
    ∃ before p init rest, actions = before ++ init :: rest ∧
      Opens p n ((start b).after before) init ∧
      (start b).trace before ++ [.log (.initialising p.id p.path b.requiredSymbols),
        .opening p.loader.origin p.path] <+: front
  once : ∀ before p init rest other q again more, actions = before ++ init :: rest →
    Opens p n ((start b).after before) init → actions = other ++ again :: more →
      Opens q n ((start b).after other) again → before = other
  released : ∀ front back, (start b).trace actions = front ++ .released n :: back →
    ∀ e ∈ back, ¬ e.Uses n ∧ e ≠ .released n
  failed : ∀ before p init rest, actions = before ++ init :: rest →
    Opens p n ((start b).after before) init → Fails ((start b).after before) init →
      ((start b).trace actions).countP (Event.callsInto n) ≤ 1 ∧
        ∀ front e back, (start b).trace actions = front ++ e :: back → e.callsInto n = true →
          (∃ label, e = .calling (some n) label .version) ∧ Event.released n ∈ back

theorem used_while_loaded (b : Build) (actions : List Action) (n : Tag) :
    UsedWhileLoaded b actions n where
  resolved symbol before action rest _ shown := opens_of_resolving shown
  called label call before action rest _ shown := by
    cases call with
    | version => exact .inl ⟨rfl, opens_of_asking_version shown⟩
    | operation shape received =>
      obtain ⟨o, entry, args, reaches⟩ := reaches_of_operation shown
      exact .inr ⟨⟨shape, received, rfl⟩, accepted_of_reaches reaches⟩
  opened front e back split uses := attempted_first split uses
  once before p init rest other q again more split opens splits reopens :=
    (opened_once opens reopens (split.symm.trans splits)).1
  released front back split := unused_after_release split
  failed before p init rest split opens fails := by
    subst split
    refine ⟨calls_of_failed opens fails, ?_⟩
    intro front e back split calls
    obtain ⟨sofar, action, later, first, last, same, events, _⟩ := trace_split split
    have shown : e ∈ (((start b).after sofar).step action).events := by simp [events]
    refine ⟨(version_of_failed opens fails same shown calls).2, ?_⟩
    have released : Event.released n ∈ (start b).trace (before ++ init :: rest) :=
      released_of_failed opens fails
    rw [split, List.mem_append, List.mem_cons] at released
    rcases released with earlier | same | later
    · obtain ⟨start, middle, rfl⟩ := List.append_of_mem earlier
      rw [List.append_assoc, List.cons_append] at split
      have unused := (unused_after_release split e (by simp)).1
      exact absurd (Event.uses_of_callsInto calls) unused
    · rw [← same] at calls
      cases calls
    · exact later

end Host

end GraphPlugin
