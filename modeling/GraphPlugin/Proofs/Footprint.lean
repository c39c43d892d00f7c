import GraphPlugin.Proofs.Initialisation
import GraphPlugin.Proofs.Losses

/-! Where the events of a step come from. Drops and releases apart, all that a step of a host shows
is what its initialisation or its operation shows, and it shows that before any handle is dropped.
An initialisation that opens a library first checks its version and then looks its symbols up. -/
namespace GraphPlugin

variable {b : Build}

/-- A library is asked for a symbol, or a function is called. -/
def Event.IsUse : Event → Prop
  | resolving _ _ => True
  | calling _ _ _ => True
  | _ => False

namespace Invoker

variable {p : Invoker b}

/-- What an opened library is asked: for its version, which may be called, and for its symbols. -/
inductive Asks (library : Tag) : List Event → Prop
  | unversioned (entry : Log) (symbols : List String) :
      Asks library (.resolving library "GraphLinkAbiVersion" :: .log entry ::
        symbols.map (.resolving library))
  | versioned (label : Label) (symbols : List String) :
      Asks library (.resolving library "GraphLinkAbiVersion" ::
        .calling (some library) label .version :: symbols.map (.resolving library))

theorem asks_of_passes {l : Library} {library : Tag} {path : String} {probe : List Event}
    (passes : l.Passes library path probe) (symbols : List String) :
    Asks library (probe ++ symbols.map (.resolving library)) := by
  cases passes with
  | untold _ => exact .unversioned _ symbols
  | told _ _ => exact .versioned _ symbols

theorem init_asks (p : Invoker b) (s : Holdings) :
    (∀ e ∈ (p.init s).events, ¬ e.IsUse) ∨
      p.status = .unready ∧ (∃ l, p.loader.openAt p.path = .ok l) ∧
        ∃ asked last, (p.init s).events = p.attempt ++ asked ++ last ∧ Asks (p.nextTag s) asked ∧
          ∀ e ∈ last, ¬ e.IsUse := by
  by_cases unready : p.status = .unready
  · have initialises := initialises_init unready s
    have regroup : ∀ first probe lookups last : List Event,
        first ++ probe ++ lookups ++ last = first ++ (probe ++ lookups) ++ last := by simp
    generalize p.init s = result at initialises ⊢
    cases initialises with
    | unopened _ => exact .inl (by simp [Event.IsUse])
    | incompatible opened _ _ =>
      exact .inr ⟨unready, ⟨_, opened⟩, _, _, rfl, .versioned _ [], by simp [Event.IsUse]⟩
    | @missing l probe before _ _ _ opened passes _ _ _ =>
      let symbols := b.requiredSymbols.take (before.length + 1)
      let lookups := symbols.map (Event.resolving (p.nextTag s))
      exact .inr ⟨unready, ⟨l, opened⟩, probe ++ lookups, _, regroup _ _ _ _,
        asks_of_passes passes _, by simp [Event.IsUse]⟩
    | @served l probe _ opened passes _ =>
      let lookups := b.requiredSymbols.map (Event.resolving (p.nextTag s))
      exact .inr ⟨unready, ⟨l, opened⟩, probe ++ lookups, _, regroup _ _ _ _,
        asks_of_passes passes _, by simp [Event.IsUse]⟩
  · rw [init_again unready]
    exact .inl (by simp)

theorem attempt_unused (p : Invoker b) : ∀ e ∈ p.attempt, ¬ e.IsUse := by
  simp [attempt, Event.IsUse]

theorem invoke_shows (p : Invoker b) (s : Holdings) (o : Operation) (args : Arguments o.shape) :
    ∀ e ∈ (p.invoke s o args).events,
      (∃ entry, e = .log entry) ∨ ∃ library label call, e = .calling library label call := by
  have outcome := p.invoke_cases s o args
  generalize p.invoke s o args = result at outcome ⊢
  cases outcome <;> simp [forwarding]

theorem init_calls (p : Invoker b) (s : Holdings) {library : Option Tag} {label : Label}
    {call : Call} (shown : Event.calling library label call ∈ (p.init s).events) :
    call = .version := by
  rcases p.init_asks s with unused | ⟨_, _, asked, last, events, asks, unused⟩
  · exact absurd trivial (unused _ shown)
  · rw [events, List.mem_append, List.mem_append] at shown
    rcases shown with (first | shown) | ended
    · exact absurd trivial (attempt_unused p _ first)
    · cases asks <;> simp_all
    · exact absurd trivial (unused _ ended)

end Invoker

namespace Holdings

theorem giveUp_not_quiet (s : Holdings) (library : Tag) :
    ∀ e ∈ (s.giveUp library).2, ¬ e.Quiet := by
  intro e he quiet
  rw [s.giveUp_released library e he] at quiet
  exact quiet

theorem dropAll_not_quiet (s : Holdings) (held : List Handle) :
    ∀ e ∈ (s.dropAll held).2, ¬ e.Quiet := by
  induction s, held using dropAll_induction with
  | nil s => exact List.forall_mem_nil _
  | counted s h rest _ same ih => rwa [same]
  | fragment s tag content held shown rest _ same ih =>
    rw [same]
    exact List.forall_mem_cons.2 ⟨by simp [Event.Quiet], ih⟩
  | bound s t number library inner rest _ _ same ih others =>
    rw [same]
    simp only [List.forall_mem_append]
    exact ⟨⟨ih, t.giveUp_not_quiet library⟩, others⟩

theorem drop_not_quiet (s : Holdings) (h : Handle) : ∀ e ∈ (s.drop h).2, ¬ e.Quiet := by
  rw [← dropAll_singleton]
  exact s.dropAll_not_quiet [h]

end Holdings

namespace Host

variable {host : Host b}

theorem close_not_quiet (p : Invoker b) (s : Holdings) : ∀ e ∈ (p.close s).2, ¬ e.Quiet := by
  unfold Invoker.close
  cases p.library? with
  | none => simp
  | some library => exact s.giveUp_not_quiet library

theorem keepInvoker_not_quiet (name : String) (p : Invoker b) :
    ∀ e ∈ (host.keepInvoker name p).2, ¬ e.Quiet := by
  unfold keepInvoker
  cases host.invokers.get? name with
  | none => simp
  | some old => exact close_not_quiet old host.holdings

theorem answerHandle_events (result : String) (h : Handle) (s : Holdings) (events : List Event) :
    ∃ drops, (host.answerHandle result h s events).events = events ++ drops ∧
      ∀ e ∈ drops, ¬ e.Quiet := by
  refine ⟨(host.keepHandle result h s).2, rfl, ?_⟩
  unfold keepHandle
  cases host.handles.get? result with
  | none => simp
  | some old => exact s.drop_not_quiet old

theorem stepInvoke_events (p : Invoker b) (o : Operation) (args : Arguments o.shape)
    (result : String) :
    ∃ drops, (host.stepInvoke p o args result).events =
        (p.invoke host.holdings o args).events ++ drops ∧ ∀ e ∈ drops, ¬ e.Quiet := by
  unfold stepInvoke
  generalize p.invoke host.holdings o args = invoked
  obtain ⟨s, events, answer⟩ := invoked
  cases answer with
  | error error => exact ⟨[], by simp, by simp⟩
  | ok h => exact answerHandle_events result h s events

theorem step_invoke {name : String} {request : Request} {p : Invoker b} {o : Operation}
    {args : Arguments o.shape} (found : host.invokers.get? name = some p)
    (asked : host.arguments request = .ok ⟨o, args⟩) (result : String) :
    host.step (.invoke name request result) = host.stepInvoke p o args result := by
  rw [step, (find_eq_ok_iff _ _ _).2 found, asked]

theorem step_of_reaches {action : Action} {library : Tag} {o : Operation} {entry : Entry o.shape}
    {args : Arguments o.shape} (reaches : Reaches host action library entry args)
    {response : Response (args.unwrapped.known host.holdings.stash)}
    (ran : host.answerOf entry args = .ok response) :
    ∃ result events, host.step action =
      host.answerHandle result (host.holdings.called.adopt library response).1
        (host.holdings.called.adopt library response).2 events := by
  obtain ⟨name, request, result, p, bindings, offered, rfl, found, ready, calls, named, rfl⟩ :=
    reaches
  rw [step_invoke found (arguments_eq_ok_iff.2 calls), stepInvoke,
    Invoker.invoke_done ready offered named ran]
  exact ⟨result, _, rfl⟩

/-- All that a step shows before it drops anything is shown by an initialisation or an operation. -/
inductive Shows (host : Host b) : Action → List Event → Prop
  | silent {action} : Shows host action []
  | init {name p} : host.invokers.get? name = some p →
      Shows host (.init name) (p.init host.holdings).events
  | invoke {name request result o args} {p : Invoker b} : host.invokers.get? name = some p →
      host.arguments request = .ok ⟨o, args⟩ →
      Shows host (.invoke name request result) (p.invoke host.holdings o args).events

theorem step_shows (host : Host b) (action : Action) :
    ∃ shown drops, host.Shows action shown ∧ (host.step action).events = shown ++ drops ∧
      ∀ e ∈ drops, ¬ e.Quiet := by
  have outcome := host.step_cases action
  have answered : ∀ result h s, ∃ shown drops, host.Shows action shown ∧
      (host.answerHandle result h s []).events = shown ++ drops ∧ ∀ e ∈ drops, ¬ e.Quiet := by
    intro result h s
    obtain ⟨drops, events, loud⟩ := host.answerHandle_events result h s []
    exact ⟨[], drops, .silent, events, loud⟩
  generalize host.step action = result at outcome ⊢
  cases outcome with
  | created _ => exact ⟨[], _, .silent, rfl, keepInvoker_not_quiet _ _⟩
  | initialised found => exact ⟨_, [], .init found, (List.append_nil _).symm, by simp⟩
  | closed _ => exact ⟨[], _, .silent, rfl, close_not_quiet _ _⟩
  | invoked found asked =>
    obtain ⟨drops, events, loud⟩ := host.stepInvoke_events _ _ _ _
    exact ⟨_, drops, .invoke found asked, events, loud⟩
  | made _ => exact answered _ _ _
  | cloned _ => exact answered _ _ _
  | taken _ _ => exact answered _ _ _
  | dropped _ => exact ⟨[], _, .silent, rfl, host.holdings.drop_not_quiet _⟩
  | unstashed _ => exact ⟨[], _, .silent, rfl, Holdings.drop_not_quiet _ _⟩
  | refused => exact ⟨[], [], .silent, rfl, by simp⟩
  | policySet _ => exact ⟨[], [], .silent, rfl, by simp⟩
  | inspected => exact ⟨[], [], .silent, rfl, by simp⟩
  | described => exact ⟨[], [], .silent, rfl, by simp⟩
  | hollow => exact ⟨[], [], .silent, rfl, by simp⟩
  | absent => exact ⟨[], [], .silent, rfl, by simp⟩

theorem quiet_step {action : Action} {e : Event} (shown : e ∈ (host.step action).events)
    (quiet : e.Quiet) :
    (∃ name p, action = .init name ∧ host.invokers.get? name = some p ∧
        e ∈ (p.init host.holdings).events) ∨
      ∃ name request result p o args, action = .invoke name request result ∧
        host.invokers.get? name = some p ∧ host.arguments request = .ok ⟨o, args⟩ ∧
        e ∈ (p.invoke host.holdings o args).events := by
  obtain ⟨front, drops, shows, events, loud⟩ := host.step_shows action
  rw [events] at shown
  have shown := (List.mem_append.1 shown).resolve_right fun dropped => loud e dropped quiet
  cases shows with
  | silent => cases shown
  | init found => exact .inl ⟨_, _, rfl, found, shown⟩
  | invoke found asked => exact .inr ⟨_, _, _, _, _, _, rfl, found, asked, shown⟩

end Host

end GraphPlugin
