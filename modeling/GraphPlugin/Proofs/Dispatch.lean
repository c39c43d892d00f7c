import GraphPlugin.Proofs.Footprint
import GraphPlugin.Proofs.Lives
import GraphPlugin.Proofs.VersionGate
import Mathlib.Data.List.Forall2

/-! Where a call goes. A ready invoker hands the arguments of an operation to the function that its
library had under the symbol of that operation when it was accepted. The function gets them as they
were given, but for a source, which comes out of the handle around it; and the caller gets what the
function answers, with a new handle around it. -/
namespace GraphPlugin

variable {b : Build}

namespace SymbolTable

theorem get?_of_resolve {t : SymbolTable Export} {symbol : String} {signature : Signature}
    {function : Export signature} (resolved : t.resolve symbol signature = .ok function) :
    t.entries.get? symbol = some ⟨signature, function⟩ := by
  unfold resolve at resolved
  cases found : t.entries.get? symbol with
  | none => simp [found] at resolved
  | some entry =>
    obtain ⟨stored, registered⟩ := entry
    simp only [found] at resolved
    split at resolved
    · next same =>
      subst same
      cases resolved
      rfl
    · cases resolved

end SymbolTable

namespace Arguments

variable {s : Shape}

/-- What a function receives for what was given. -/
structure Passed (received given : Arguments s) : Prop where
  comm : received.comm = given.comm
  client : received.client? = given.client?
  target : received.target? = given.target?
  name : received.name = given.name
  params : received.params? = given.params?
  source : received.source? = given.source?.map fun h => h.inner?.getD h

theorem passed_iff (received given : Arguments s) :
    received.Passed given ↔ received = given.unwrapped := by
  constructor
  · rintro ⟨comm, client, target, name, params, source⟩
    cases given <;> cases received <;>
      simp_all [Arguments.comm, client?, target?, Arguments.name, params?, source?, unwrapped,
        Handle.unwrapped]
  · rintro rfl
    cases given <;> exact ⟨rfl, rfl, rfl, rfl, rfl, rfl⟩

end Arguments

namespace Handle

/-- A bound handle is on the fragment that the one inside is on. -/
inductive On (tag : Tag) (content : Fragment) : Handle → Prop
  | fragment (held : List Handle) (shown : Option Nat) :
      On tag content (.fragment tag content held shown)
  | bound {number : Nat} {library : Tag} {inner : Handle} : On tag content inner →
      On tag content (.bound number library inner)

/-- What the handle says of itself is what is to be said of the fragment. -/
structure Tells (h : Handle) (tag : Tag) (content : Fragment) : Prop where
  objectId : h.objectId = content.objectId
  name : h.name = content.name
  kind : h.kind = content.kind
  debug : h.debug = content.debug tag

theorem exists_on (h : Handle) : ∃ tag content, h.On tag content := by
  induction h using inner_induction with
  | step h ih =>
    cases h with
    | fragment tag content held shown => exact ⟨tag, content, .fragment held shown⟩
    | bound number library inner =>
      obtain ⟨tag, content, on⟩ := ih inner List.mem_cons_self
      exact ⟨tag, content, .bound on⟩

theorem On.tells {tag : Tag} {content : Fragment} {h : Handle} (on : h.On tag content) :
    h.Tells tag content := by
  induction on with
  | fragment held shown => exact ⟨rfl, rfl, rfl, rfl⟩
  | bound _ ih => exact ⟨ih.objectId, ih.name, ih.kind, ih.debug⟩

/-- The handle is one around another, and both say what is to be said of the fragment that the other
one is on. -/
structure SpeaksFor (h f : Handle) : Prop where
  inner : h.inner? = some f
  tells : ∃ tag content, f.On tag content ∧ f.Tells tag content ∧ h.Tells tag content

theorem bound_speaksFor (number : Nat) (library : Tag) (f : Handle) :
    (bound number library f).SpeaksFor f := by
  obtain ⟨tag, content, on⟩ := f.exists_on
  exact ⟨rfl, tag, content, on, on.tells, on.bound.tells⟩

end Handle

/-- The handle that an entry point means: a known one, or one on a new fragment. -/
inductive Product.Means {known : List Handle} (s : Holdings) : Product known → Handle → Prop
  | known (h : Handle) (given : h ∈ known) : Means s (.known h given) h
  | fragment {tag : Tag} {content : Fragment} {products : List (Product known)}
      {held : List Handle} {shown : Option Nat} : ¬ s.fragments.Issued tag →
      List.Forall₂ (Means s) products held →
      Means s (.fragment content products shown) (.fragment tag content held shown)

namespace Holdings

variable {known : List Handle} {s : Holdings}

mutual

theorem means_build (origin : Origin) : ∀ (product : Product known) (t : Holdings),
    (∀ x, s.Issued x → t.Issued x) → product.Means s (t.build origin product).1
  | .known h given, _, _ => .known h given
  | .fragment content products shown, t, later => by
    refine .fragment (fun issued => ?_) (means_buildAll origin products t later)
    have before := issued_buildAll origin products t (later (.fragment _) issued)
    exact Tally.not_issued_next _ _ before

theorem means_buildAll (origin : Origin) : ∀ (products : List (Product known)) (t : Holdings),
    (∀ x, s.Issued x → t.Issued x) →
      List.Forall₂ (Product.Means s) products (t.buildAll origin products).1
  | [], _, _ => .nil
  | product :: rest, t, later =>
    .cons (means_build origin product t later)
      (means_buildAll origin rest _ fun x issued => issued_build origin product t (later x issued))

end

end Holdings

def Event.isCall : Event → Bool
  | calling _ _ _ => true
  | _ => false

theorem Event.not_isCall {e : Event} (loud : ¬ e.Quiet) : e.isCall = false := by
  cases e <;> simp_all [Quiet, isCall]

namespace Invoker

variable {p : Invoker b} {bindings : Bindings b.operations} {library : Tag} {o : Operation}
  {args : Arguments o.shape} {s : Holdings}

theorem registered_of_given {t : SymbolTable Export} {l : Library} {e : EntryPoint}
    {function : Export e.signature} (given : p.Given t) (opened : p.loader.openAt p.path = .ok l)
    (exported : l.resolve e = .ok function) :
    t.entries.get? e.symbol = some ⟨e.signature, function⟩ := by
  obtain ⟨same, again, resolves⟩ := openAt_of_given given
  obtain rfl : l = same := Except.ok.inj (opened.symm.trans again)
  rw [resolves] at exported
  cases resolved : t.resolve e.symbol e.signature with
  | error error => simp [resolved, Except.mapError] at exported
  | ok other =>
    simp only [resolved, Except.mapError, Except.ok.injEq] at exported
    rw [← exported]
    exact SymbolTable.get?_of_resolve resolved

theorem invoke_calls {called : Option Tag} {label : Label} {call : Call}
    (shown : Event.calling called label call ∈ (p.invoke s o args).events) :
    ∃ (library : Tag) (bindings : Bindings b.operations) (offered : o ∈ b.operations),
      p.status = .ready bindings library ∧ Named o args ∧ Event.calling called label call =
        .calling (some library) (bindings o offered).label (.operation o.shape args.unwrapped) := by
  have forwarded : ∀ {library} {entry : Entry o.shape},
      Event.calling called label call ∈ p.forwarding library entry args →
      Event.calling called label call =
        .calling (some library) entry.label (.operation o.shape args.unwrapped) := by
    intro library entry shown
    rcases List.mem_cons.1 shown with logged | called
    · cases logged
    · exact List.mem_singleton.1 called
  have outcome := p.invoke_cases s o args
  generalize p.invoke s o args = invoked at outcome shown
  cases outcome with
  | leftOut _ => simp at shown
  | notReady _ _ => cases shown
  | unnamed _ _ _ => cases shown
  | refused offered ready named _ => exact ⟨_, _, offered, ready, named, forwarded shown⟩
  | done offered ready named _ => exact ⟨_, _, offered, ready, named, forwarded shown⟩

theorem calls_forwarding (entry : Entry o.shape) :
    (p.forwarding library entry args).filter Event.isCall =
      [.calling (some library) entry.label (.operation o.shape args.unwrapped)] := rfl

end Invoker

namespace Host

variable {host : Host b} {name : String} {p : Invoker b} {bindings : Bindings b.operations}
  {library : Tag} {request : Request} {o : Operation} {args : Arguments o.shape}

/-- The step is one call of the entry of the library, and its answer is what comes of that call. -/
structure Delivers (host : Host b) (action : Action) (library : Tag) {o : Operation}
    (entry : Entry o.shape) (given received : Arguments o.shape) : Prop where
  passed : received.Passed given
  called : (host.step action).events.filter Event.isCall =
    [.calling (some library) entry.label (.operation o.shape received)]
  refused : ∀ error,
    entry.run host.holdings.calls host.holdings.stash received = .error error →
      ∃ failure, (host.step action).answer = .refused failure ∧
        failure = .backend o.symbol error ∧ failure.backendError? = some error
  returned : ∀ response,
    entry.run host.holdings.calls host.holdings.stash received = .ok response →
      ∃ h f, (host.step action).answer = .handle h ∧ response.back.Means host.holdings f ∧
        h.SpeaksFor f

/-- What becomes of any call on an invoker with a library. -/
structure Dispatches (host : Host b) (name : String) (p : Invoker b) (library : Tag)
    (l : Library) : Prop where
  forwards : ∀ request result o args, host.Calls request o args → o ∈ b.operations →
    o.isConversion = true ∨ args.name ≠ "" →
      ∃ entry received, l.resolve o.entryPoint = .ok entry ∧
        Delivers host (.invoke name request result) library entry args received
  rejects : ∀ request result o args, host.Calls request o args → o.isConversion = false →
    args.name = "" →
      host.step (.invoke name request result) =
        ⟨host, [], .refused (.badArgument o.symbol "graph name must not be empty")⟩
  leavesOut : ∀ request result o args, host.Calls request o args → o ∉ b.operations →
    host.step (.invoke name request result) =
      ⟨host, [.log (.conversionRejected p.id o.symbol)],
        .refused (.unsupported o.symbol Invoker.conversionsLeftOut)⟩

theorem calls_stepInvoke (p : Invoker b) (o : Operation) (args : Arguments o.shape)
    (result : String) :
    (host.stepInvoke p o args result).events.filter Event.isCall =
      (p.invoke host.holdings o args).events.filter Event.isCall := by
  obtain ⟨drops, events, loud⟩ := host.stepInvoke_events p o args result
  have none : drops.filter Event.isCall = [] := by
    rw [List.filter_eq_nil_iff]
    intro e he
    simp [Event.not_isCall (loud e he)]
  rw [events, List.filter_append, none, List.append_nil]

theorem delivers_of_reaches {action : Action} {entry : Entry o.shape}
    (reaches : Reaches host action library entry args) :
    Delivers host action library entry args args.unwrapped := by
  have reached := reaches
  obtain ⟨name, request, result, p, bindings, offered, rfl, found, ready, calls, named, rfl⟩ :=
    reaches
  have asked := arguments_eq_ok_iff.2 calls
  constructor
  · exact (args.unwrapped.passed_iff args).2 rfl
  · rw [step_invoke found asked, calls_stepInvoke]
    cases ran : (bindings o offered).run host.holdings.calls host.holdings.stash args.unwrapped with
    | error error => rw [Invoker.invoke_refused ready offered named ran, Invoker.calls_forwarding]
    | ok response => rw [Invoker.invoke_done ready offered named ran, Invoker.calls_forwarding]
  · intro error refused
    rw [step_invoke found asked, stepInvoke, Invoker.invoke_refused ready offered named refused]
    exact ⟨_, rfl, rfl, rfl⟩
  · intro response done
    obtain ⟨result, events, step⟩ := step_of_reaches reached done
    rw [step]
    exact ⟨_, _, rfl, Holdings.means_build library.origin response.back host.holdings.called
      fun _ issued => issued, Handle.bound_speaksFor _ _ _⟩

/-- No function but those of the invokers' libraries is called for an operation. -/
theorem reaches_of_called {action : Action} {called : Option Tag} {label : Label} {shape : Shape}
    {received : Arguments shape}
    (shown : Event.calling called label (.operation shape received) ∈ (host.step action).events) :
    ∃ (library : Tag) (o : Operation) (entry : Entry o.shape) (args : Arguments o.shape),
      Reaches host action library entry args ∧
        Event.calling called label (.operation shape received) =
          .calling (some library) entry.label (.operation o.shape args.unwrapped) := by
  rcases quiet_step shown trivial with
    ⟨name, p, rfl, found, shown⟩ | ⟨name, request, result, p, o, args, rfl, found, asked, shown⟩
  · cases p.init_calls host.holdings shown
  · obtain ⟨library, bindings, offered, ready, named, same⟩ := Invoker.invoke_calls shown
    exact ⟨library, o, bindings o offered, args, ⟨name, request, result, p, bindings, offered, rfl,
      found, ready, arguments_eq_ok_iff.1 asked, named, rfl⟩, same⟩

theorem dispatches_of_binds {l : Library} (found : host.invokers.get? name = some p)
    (ready : p.status = .ready bindings library) (binds : l.Binds bindings) :
    Dispatches host name p library l := by
  constructor
  · intro request result o args calls offered named
    refine ⟨_, _, binds o offered, delivers_of_reaches ?_⟩
    exact ⟨name, request, result, p, bindings, offered, rfl, found, ready, calls, named, rfl⟩
  · intro request result o args calls operation empty
    have asked := arguments_eq_ok_iff.2 calls
    have offered := (b.mem_operations_iff o).2 (.inr operation)
    have unnamed : ¬ Invoker.Named o args := fun named =>
      Invoker.named_iff.1 named ⟨operation, empty⟩
    rw [step_invoke found asked, stepInvoke, Invoker.invoke_unnamed ready offered unnamed]
    rfl
  · intro request result o args calls out
    have asked := arguments_eq_ok_iff.2 calls
    rw [step_invoke found asked, stepInvoke, Invoker.invoke_leftOut out]

/-- In every run, each call on a ready invoker is dispatched to the library that its initialisation
accepted, and to what the table of that library has under the symbol of the operation. -/
theorem dispatches_exactly {actions : List Action}
    (found : ((start b).after actions).invokers.get? name = some p) (ready : p.state = .ready) :
    ∃ library l, (start b).Accepted actions name library ∧ p.loader.openAt p.path = .ok l ∧
      Dispatches ((start b).after actions) name p library l ∧
      ∀ t, p.Given t → ∀ o entry, l.resolve (Operation.entryPoint o) = .ok entry →
        t.entries.get? o.symbol = some ⟨.operation o.shape, entry⟩ := by
  obtain ⟨bindings, library, ready⟩ := Invoker.state_ready_iff.1 ready
  obtain ⟨accepted, l, opened, binds⟩ := ready_origin found ready
  refine ⟨library, l, accepted, opened, dispatches_of_binds found ready binds, ?_⟩
  exact fun t given o entry resolved => Invoker.registered_of_given given opened resolved

def swapped : SymbolTable Export :=
  (Scripted.Script.table {} 0).register "AddVerticesToGraph" (.operation .extend)
    ((Scripted.Script.backend {} 0).entry .addEdges)

theorem dispatches_exactly_of_swapped :
    ∃ p, ((start .standard).after [.create "p" "plugin" "/lib" (.serving swapped) none,
        .init "p"]).invokers.get? "p" = some p ∧
      p.state = .ready ∧
      ∃ library l, (start .standard).Accepted
          [.create "p" "plugin" "/lib" (.serving swapped) none, .init "p"] "p" library ∧
        p.loader.openAt p.path = .ok l ∧
        Dispatches ((start .standard).after
          [.create "p" "plugin" "/lib" (.serving swapped) none, .init "p"]) "p" p library l ∧
        ∀ t, p.Given t → ∀ o entry, l.resolve (Operation.entryPoint o) = .ok entry →
          t.entries.get? o.symbol = some ⟨.operation o.shape, entry⟩ :=
  ⟨_, rfl, rfl, dispatches_exactly rfl rfl⟩

end Host

end GraphPlugin
