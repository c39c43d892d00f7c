import GraphPlugin.Proofs.Policy

/-! What an operation depends on. When the functions of a library are functions of their arguments,
an operation of its invoker answers as its arguments say, whatever has happened before and between,
to the invoker or to others; so calls can be made in any order. -/
namespace GraphPlugin

variable {b : Build}

/-- When handles of two runs count as the same. What they show inside then counts as the same too.
-/
structure Sameness where
  rel : Handle → Handle → Prop
  unwrapped : ∀ h k, rel h k → rel h.unwrapped k.unwrapped

def Sameness.exact : Sameness := ⟨Eq, fun _ _ same => congrArg Handle.unwrapped same⟩

/-- The same handle but for the identities of its nodes and of the libraries that it is bound to. -/
inductive Handle.Renamed : Handle → Handle → Prop
  | fragment {tag other : Tag} {content : Fragment} {held others : List Handle}
      {shown : Option Nat} : List.Forall₂ Renamed held others →
      Renamed (.fragment tag content held shown) (.fragment other content others shown)
  | bound {number again : Nat} {library other : Tag} {h k : Handle} : Renamed h k →
      Renamed (.bound number library h) (.bound again other k)

theorem getElem?_related {α β : Type} {same : α → β → Prop} {xs : List α} {ys : List β}
    (related : List.Forall₂ same xs ys) (place : Nat) : Option.Rel same xs[place]? ys[place]? := by
  induction related generalizing place with
  | nil => exact .none
  | cons first _ ih =>
    cases place with
    | zero => exact .some first
    | succ place => exact ih place

theorem eraseIdx_related {α β : Type} {same : α → β → Prop} {xs : List α} {ys : List β}
    (related : List.Forall₂ same xs ys) (place : Nat) :
    List.Forall₂ same (xs.eraseIdx place) (ys.eraseIdx place) := by
  rw [List.eraseIdx_eq_take_drop_succ, List.eraseIdx_eq_take_drop_succ]
  exact List.rel_append (List.forall₂_take _ related) (List.forall₂_drop _ related)

theorem Handle.Renamed.inner? {h k : Handle} (renamed : h.Renamed k) :
    Option.Rel Renamed h.inner? k.inner? := by
  cases renamed with
  | @fragment _ _ _ _ _ shown related =>
    cases shown with
    | none => exact .none
    | some place => exact getElem?_related related place
  | bound inside => exact .some inside

theorem Handle.Renamed.unwrapped {h k : Handle} (renamed : h.Renamed k) :
    h.unwrapped.Renamed k.unwrapped := by
  have inside := renamed.inner?
  unfold Handle.unwrapped
  generalize h.inner? = inner, k.inner? = other at inside
  cases inside with
  | none => exact renamed
  | some related => exact related

theorem Handle.Renamed.content {h k : Handle} (renamed : h.Renamed k) : k.content = h.content := by
  induction h using Handle.inner_induction generalizing k with
  | step h ih =>
    cases renamed with
    | fragment => rfl
    | bound inside =>
      have same := ih _ List.mem_cons_self inside
      exact same

def Sameness.renamed : Sameness := ⟨Handle.Renamed, fun _ _ renamed => renamed.unwrapped⟩

variable {r : Sameness}

inductive Arguments.Same (r : Sameness) : {s : Shape} → Arguments s → Arguments s → Prop
  | load {comm client name params} : Same r (.load comm client name params)
      (.load comm client name params)
  | extend {target comm client name params} : Same r (.extend target comm client name params)
      (.extend target comm client name params)
  | toArrow {client comm source other name} : r.rel source other →
      Same r (.toArrow client comm source name) (.toArrow client comm other name)
  | toDynamic {comm source other name} : r.rel source other →
      Same r (.toDynamic comm source name) (.toDynamic comm other name)

namespace Arguments.Same

variable {s : Shape} {args again : Arguments s}

theorem unwrapped (same : args.Same r again) : args.unwrapped.Same r again.unwrapped := by
  cases same with
  | load => exact .load
  | extend => exact .extend
  | toArrow source => exact .toArrow (r.unwrapped _ _ source)
  | toDynamic source => exact .toDynamic (r.unwrapped _ _ source)

theorem name (same : args.Same r again) : again.name = args.name := by
  cases same <;> rfl

theorem named_iff {o : Operation} {args again : Arguments o.shape} (same : args.Same r again) :
    Invoker.Named o again ↔ Invoker.Named o args := by
  unfold Invoker.Named
  rw [same.name]

theorem of_eq (args : Arguments s) : args.Same .exact args := by
  cases args with
  | load => exact .load
  | extend => exact .extend
  | toArrow => exact .toArrow rfl
  | toDynamic => exact .toDynamic rfl

theorem eq (same : args.Same .exact again) : args = again := by
  cases same with
  | load => rfl
  | extend => rfl
  | toArrow source => cases source; rfl
  | toDynamic source => cases source; rfl

end Arguments.Same

/-- Handles that count as the same, or new fragments of the same content that hold and show the
same. -/
inductive Product.Same (r : Sameness) {known others : List Handle} :
    Product known → Product others → Prop
  | known {h k : Handle} {given : h ∈ known} {other : k ∈ others} : r.rel h k →
      Same r (.known h given) (.known k other)
  | fragment {content : Fragment} {held : List (Product known)} {again : List (Product others)}
      {shown : Option Nat} : List.Forall₂ (Same r) held again →
      Same r (.fragment content held shown) (.fragment content again shown)

structure Response.Same (r : Sameness) {known others : List Handle} (first : Response known)
    (second : Response others) : Prop where
  back : first.back.Same r second.back
  stashed : List.Forall₂ (Product.Same r) first.stashed second.stashed
  stashesBack : second.stashesBack = first.stashesBack

/-- What a function answers to the same arguments counts as the same: one error, or responses that
hand back and keep the same. -/
inductive SameAnswer (r : Sameness) {known others : List Handle} :
    Except BackendError (Response known) → Except BackendError (Response others) → Prop
  | refused (error : BackendError) : SameAnswer r (.error error) (.error error)
  | done {first : Response known} {second : Response others} : first.Same r second →
      SameAnswer r (.ok first) (.ok second)

section Exact

variable {known : List Handle}

mutual

theorem Product.Same.refl : ∀ product : Product known, product.Same .exact product
  | .known _ _ => .known rfl
  | .fragment _ held _ => .fragment (Product.Same.all_refl held)

theorem Product.Same.all_refl : ∀ products : List (Product known),
    List.Forall₂ (Product.Same .exact) products products
  | [] => .nil
  | product :: rest => .cons (Product.Same.refl product) (Product.Same.all_refl rest)

end

mutual

theorem Product.Same.eq : ∀ {first second : Product known}, first.Same .exact second →
    second = first
  | .known _ _, _, same => by
    cases same with
    | known related => cases related; rfl
  | .fragment _ held _, _, same => by
    cases same with
    | fragment related => rw [Product.Same.all_eq held related]

theorem Product.Same.all_eq : ∀ (products : List (Product known)) {others : List (Product known)},
    List.Forall₂ (Product.Same .exact) products others → others = products
  | [], _, same => by
    cases same
    rfl
  | product :: rest, _, same => by
    cases same with
    | cons first others => rw [Product.Same.eq first, Product.Same.all_eq rest others]

end

theorem SameAnswer.eq {first second : Except BackendError (Response known)}
    (same : SameAnswer .exact first second) : second = first := by
  cases same with
  | refused => rfl
  | @done first second responses =>
    obtain ⟨back, stashed, again⟩ := first
    obtain ⟨back', stashed', again'⟩ := second
    obtain ⟨same, all, rfl⟩ := responses
    obtain rfl : back' = back := same.eq
    obtain rfl : stashed' = stashed := Product.Same.all_eq _ all
    rfl

theorem SameAnswer.refl (answer : Except BackendError (Response known)) :
    SameAnswer .exact answer answer := by
  cases answer with
  | error error => exact .refused error
  | ok response => exact .done ⟨.refl _, Product.Same.all_refl _, rfl⟩

end Exact

/-- A function of its arguments: the moment makes no difference, nor does what has been kept, nor
which of two handles is given that count as the same. -/
def Entry.Functional {s : Shape} (r : Sameness) (entry : Entry s) : Prop :=
  ∀ moment other stash kept (args again : Arguments s), args.Same r again →
    SameAnswer r (entry.run moment stash args) (entry.run other kept again)

/-- All functions of the library that the invoker is to open are functions of their arguments. -/
def Invoker.Functional (r : Sameness) (p : Invoker b) : Prop :=
  ∀ l o entry, p.loader.openAt p.path = .ok l → l.resolve (Operation.entryPoint o) = .ok entry →
    Entry.Functional (s := o.shape) r entry

theorem Invoker.ready_of_init {p : Invoker b} {s : Holdings} (answer : (p.init s).answer = .ok ()) :
    ∃ bindings library l, (p.init s).state.1.status = .ready bindings library ∧
      p.loader.openAt p.path = .ok l ∧ l.Binds bindings := by
  by_cases unready : p.status = .unready
  · have initialises := initialises_init unready s
    generalize p.init s = result at initialises answer ⊢
    cases initialises with
    | served opened _ binds => exact ⟨_, _, _, rfl, opened, binds⟩
    | _ => cases answer
  · rw [init_again unready] at answer
    cases answer

def Request.reads : Request → Option String
  | .addVertices (.inr name) _ _ _ _ => some name
  | .addEdges (.inr name) _ _ _ _ => some name
  | .toArrow _ _ source _ => some source
  | .toDynamic _ source _ => some source
  | _ => none

def Reply.of : Except InvokerError Handle → Reply b
  | .ok h => .handle h
  | .error error => .refused error

def Tally.counted (t : Tally) (origin : Origin) : Nat → Tally
  | 0 => t
  | count + 1 => (t.counted origin count).advance origin

/-- The fragments that come next with the two holdings, the first with the first, the second with
the second and so on. -/
def Holdings.NextTogether (s : Holdings) (origin : Origin) (t : Holdings) (again : Origin)
    (tag other : Tag) : Prop :=
  ∃ count, tag = (s.fragments.counted origin count).next origin ∧
    other = (t.fragments.counted again count).next again

/-- Handles that count as the same, or new fragments that belong together, of the same content,
which hold and show the same. -/
inductive Handle.Like (r : Sameness) (new : Tag → Tag → Prop) : Handle → Handle → Prop
  | known {h k : Handle} : r.rel h k → Like r new h k
  | fragment {tag other : Tag} {content : Fragment} {held others : List Handle}
      {shown : Option Nat} : new tag other → List.Forall₂ (Like r new) held others →
      Like r new (.fragment tag content held shown) (.fragment other content others shown)

namespace Holdings

variable {known others : List Handle} (s t : Holdings) (origin again : Origin)

mutual

theorem like_build : ∀ (product : Product known) {other : Product others} {u v : Holdings}
    {count : Nat}, product.Same r other → u.fragments = s.fragments.counted origin count →
      v.fragments = t.fragments.counted again count →
      (u.build origin product).1.Like r (s.NextTogether origin t again) (v.build again other).1 ∧
        ∃ count, (u.build origin product).2.fragments = s.fragments.counted origin count ∧
          (v.build again other).2.fragments = t.fragments.counted again count
  | .known _ _, _, _, _, count, same, first, second => by
    cases same with
    | known related => exact ⟨.known related, count, first, second⟩
  | .fragment _ held _, _, _, _, _, same, first, second => by
    cases same with
    | fragment related =>
      obtain ⟨inside, count, first, second⟩ := like_buildAll held related first second
      refine ⟨.fragment ⟨count, congrArg (Tally.next · origin) first,
        congrArg (Tally.next · again) second⟩ inside, count + 1, ?_, ?_⟩
      · exact congrArg (Tally.advance · origin) first
      · exact congrArg (Tally.advance · again) second

theorem like_buildAll : ∀ (products : List (Product known)) {more : List (Product others)}
    {u v : Holdings} {count : Nat}, List.Forall₂ (Product.Same r) products more →
      u.fragments = s.fragments.counted origin count →
      v.fragments = t.fragments.counted again count →
      List.Forall₂ (Handle.Like r (s.NextTogether origin t again)) (u.buildAll origin products).1
          (v.buildAll again more).1 ∧
        ∃ count, (u.buildAll origin products).2.fragments = s.fragments.counted origin count ∧
          (v.buildAll again more).2.fragments = t.fragments.counted again count
  | [], _, _, _, count, same, first, second => by
    cases same
    exact ⟨.nil, count, first, second⟩
  | product :: rest, _, _, _, _, same, first, second => by
    cases same with
    | cons here there =>
      obtain ⟨like, _, first, second⟩ := like_build product here first second
      obtain ⟨likes, count, first, second⟩ := like_buildAll rest there first second
      exact ⟨.cons like likes, count, first, second⟩

end

theorem like_accept {first : Response known} {second : Response others}
    (same : first.Same r second) :
    (s.accept origin first).1.Like r (s.NextTogether origin t again) (t.accept again second).1 ∧
      ∃ stashed stashed', (s.accept origin first).2.stash = stashed ++ s.stash ∧
        (t.accept again second).2.stash = stashed' ++ t.stash ∧
        List.Forall₂ (Handle.Like r (s.NextTogether origin t again)) stashed stashed' := by
  have none : ∀ (u : Holdings) row, u.fragments = u.fragments.counted row 0 := fun _ _ => rfl
  obtain ⟨back, count, here, there⟩ :=
    like_build s t origin again first.back same.back (none s origin) (none t again)
  obtain ⟨stashed, _⟩ := like_buildAll s t origin again first.stashed same.stashed here there
  refine ⟨back, _, _, s.stash_accept origin first, t.stash_accept again second, ?_⟩
  rw [same.stashesBack]
  split
  · exact .cons back stashed
  · exact stashed

theorem bindings_accept (response : Response known) :
    (s.accept origin response).2.bindings = s.bindings := by
  obtain ⟨refs, fragments, accepted⟩ := s.accept_snd origin response
  rw [accepted]

end Holdings

namespace Host

variable {host other : Host b} {p q : Invoker b} {name again result result' : String}
  {request request' : Request} {o : Operation} {args args' : Arguments o.shape}

/-- The same error, or new handles around what is alike. -/
inductive SameReply (r : Sameness) (host other : Host b) : Reply b → Reply b → Prop
  | refused (error : InvokerError) : SameReply r host other (.refused error) (.refused error)
  | handle {library library' : Tag} {h k : Handle} :
      h.Like r (host.holdings.NextTogether library.origin other.holdings library'.origin) k →
      SameReply r host other
        (.handle (.bound (host.holdings.bindings + 1) library h))
        (.handle (.bound (other.holdings.bindings + 1) library' k))

/-- A call of the same function with the same arguments, whatever number its library has. -/
inductive SameCall (r : Sameness) : Event → Event → Prop
  | calling {library other : Tag} {label : Label} {s : Shape} {args again : Arguments s} :
      args.Same r again → SameCall r (.calling (some library) label (.operation s args))
        (.calling (some other) label (.operation s again))

structure SameOutcome (r : Sameness) (host : Host b) (action : Action) (other : Host b)
    (again : Action) : Prop where
  answer : SameReply r host other (host.step action).answer (other.step again).answer
  calls : List.Forall₂ (SameCall r) ((host.step action).events.filter Event.isCall)
    ((other.step again).events.filter Event.isCall)

theorem answer_stepInvoke (p : Invoker b) (o : Operation) (args : Arguments o.shape)
    (result : String) :
    (host.stepInvoke p o args result).answer = .of (p.invoke host.holdings o args).answer := by
  unfold stepInvoke
  generalize p.invoke host.holdings o args = invoked
  obtain ⟨s, events, answer⟩ := invoked
  cases answer <;> rfl

section Functions

variable {bindings : Bindings b.operations} {library library' : Tag}

theorem same_dispatch (offered : o ∈ b.operations) (ready : p.status = .ready bindings library)
    (ready' : q.status = .ready bindings library') (named : Invoker.Named o args)
    (functional : (bindings o offered).Functional r) (same : args.Same r args') :
    SameReply r host other (.of (p.invoke host.holdings o args).answer)
      (.of (q.invoke other.holdings o args').answer) ∧
    List.Forall₂ (SameCall r) ((p.invoke host.holdings o args).events.filter Event.isCall)
      ((q.invoke other.holdings o args').events.filter Event.isCall) := by
  have named' := same.named_iff.2 named
  have answers := functional host.holdings.calls other.holdings.calls host.holdings.stash
    other.holdings.stash _ _ same.unwrapped
  have called : ∀ (entry : Entry o.shape), List.Forall₂ (SameCall r)
      ((p.forwarding library entry args).filter Event.isCall)
      ((q.forwarding library' entry args').filter Event.isCall) :=
    fun entry => .cons (.calling same.unwrapped) .nil
  generalize ran : (bindings o offered).run host.holdings.calls host.holdings.stash
      args.unwrapped = first,
    again : (bindings o offered).run other.holdings.calls other.holdings.stash
      args'.unwrapped = second at answers
  cases answers with
  | refused error =>
    rw [Invoker.invoke_refused ready offered named ran,
      Invoker.invoke_refused ready' offered named' again]
    exact ⟨.refused _, called _⟩
  | @done response response' responses =>
    rw [Invoker.invoke_done ready offered named ran,
      Invoker.invoke_done ready' offered named' again]
    have like := (host.holdings.called.like_accept other.holdings.called library.origin
      library'.origin responses).1
    refine ⟨?_, called _⟩
    simp only [Reply.of, Holdings.adopt, Holdings.bind, Holdings.bindings_accept]
    exact .handle like

theorem same_outcome (found : host.invokers.get? name = some p)
    (there : other.invokers.get? again = some q) (ready : p.status = .ready bindings library)
    (ready' : q.status = .ready bindings library')
    (functional : ∀ offered, (bindings o offered).Functional r)
    (calls : host.Calls request o args) (calls' : other.Calls request' o args')
    (same : args.Same r args') :
    SameOutcome r host (.invoke name request result) other (.invoke again request' result') := by
  suffices invoked : SameReply r host other (.of (p.invoke host.holdings o args).answer)
        (.of (q.invoke other.holdings o args').answer) ∧
      List.Forall₂ (SameCall r) ((p.invoke host.holdings o args).events.filter Event.isCall)
        ((q.invoke other.holdings o args').events.filter Event.isCall) by
    have step := step_invoke found (arguments_eq_ok_iff.2 calls) result
    have step' := step_invoke there (arguments_eq_ok_iff.2 calls') result'
    constructor
    · rw [step, step', answer_stepInvoke, answer_stepInvoke]
      exact invoked.1
    · rw [step, step', calls_stepInvoke, calls_stepInvoke]
      exact invoked.2
  by_cases offered : o ∈ b.operations
  · by_cases named : Invoker.Named o args
    · exact same_dispatch offered ready ready' named (functional offered) same
    · have unnamed := mt same.named_iff.1 named
      rw [Invoker.invoke_unnamed ready offered named, Invoker.invoke_unnamed ready' offered unnamed]
      exact ⟨.refused _, .nil⟩
  · rw [Invoker.invoke_leftOut offered, Invoker.invoke_leftOut offered]
    exact ⟨.refused _, .nil⟩

end Functions

/-- The run initialises the invoker under the name, with success, and does not end it. -/
def Readies (p : Invoker b) (name : String) (actions : List Action) : Prop :=
  ∃ before later q, actions = before ++ .init name :: later ∧ Lasts name later ∧
    ((start b).after before).invokers.get? name = some q ∧ p.SameButPolicy q ∧
    Serves ((start b).after before) (.init name)

theorem ready_of_readies {actions : List Action} (readies : Readies p name actions) :
    ∃ q bindings library l, ((start b).after actions).invokers.get? name = some q ∧
      q.status = .ready bindings library ∧ p.loader.openAt p.path = .ok l ∧ l.Binds bindings := by
  obtain ⟨before, later, q, rfl, lasts, found, ⟨policy, rfl⟩, serves⟩ := readies
  obtain ⟨bindings, library, l, ready, opened, binds⟩ :=
    Invoker.ready_of_init ((serves_init_iff found).1 serves)
  have there : (((start b).after before).step (.init name)).state.invokers.get? name =
      some ((p.setUnloadOnDrop policy).init ((start b).after before).holdings).state.1 := by
    rw [step_init found]
    exact Keyed.get?_insert_self _ _ _
  have started :
    ((p.setUnloadOnDrop policy).init ((start b).after before).holdings).state.1.status ≠
      .unready := by simp [ready]
  obtain ⟨unload, last⟩ := after_settled there lasts (.inl started)
  rw [after_append, after_cons]
  exact ⟨_, bindings, library, l, last, ready, opened, binds⟩

theorem same_next {actions others : List Action} (readies : Readies p name actions)
    (again' : Readies p again others) (functional : p.Functional r)
    (calls : ((start b).after actions).Calls request o args)
    (calls' : ((start b).after others).Calls request' o args') (same : args.Same r args') :
    SameOutcome r ((start b).after actions) (.invoke name request result)
      ((start b).after others) (.invoke again request' result') := by
  obtain ⟨first, bindings, library, l, found, ready, opened, binds⟩ := ready_of_readies readies
  obtain ⟨second, others, library', l', there, ready', opened', binds'⟩ := ready_of_readies again'
  cases opened.symm.trans opened'
  have agree : others = bindings := by
    funext o offered
    exact Except.ok.inj ((binds' o offered).symm.trans (binds o offered))
  subst agree
  exact same_outcome found there ready ready'
    (fun offered => functional l o _ opened (binds o offered)) calls calls' same

theorem denotes_of_reads {target : ObjectId ⊕ String} {id : ObjectId}
    (denotes : host.Denotes id target)
    (kept : ∀ name, target = .inr name → other.handles.get? name = host.handles.get? name) :
    other.Denotes id target := by
  cases target with
  | inl given => exact denotes
  | inr name =>
    obtain ⟨h, found, same⟩ := denotes
    exact ⟨h, (kept name rfl).trans found, same⟩

theorem calls_of_reads (calls : host.Calls request o args)
    (kept : ∀ name, request.reads = some name →
      other.handles.get? name = host.handles.get? name) : other.Calls request o args := by
  cases calls with
  | loadGraph => exact .loadGraph
  | addVertices denotes =>
    exact .addVertices (denotes_of_reads denotes fun name there => kept name (by rw [there]; rfl))
  | addEdges denotes =>
    exact .addEdges (denotes_of_reads denotes fun name there => kept name (by rw [there]; rfl))
  | toArrow found => exact .toArrow ((kept _ rfl).trans found)
  | toDynamic found => exact .toDynamic ((kept _ rfl).trans found)

/-- The action is a call on a ready invoker whose functions are functions of their arguments, which
are there. -/
def FixedCall (host : Host b) (action : Action) : Prop :=
  ∃ name request result p o, ∃ args : Arguments o.shape, action = .invoke name request result ∧
    host.invokers.get? name = some p ∧ p.state = .ready ∧ p.Functional .exact ∧
    host.Calls request o args

/-- Calls with fixed arguments: none reads what another one returns. -/
structure FixedCalls (host : Host b) (calls : List Action) : Prop where
  each : ∀ call ∈ calls, host.FixedCall call
  apart : ∀ name request result again other stored, .invoke name request result ∈ calls →
    .invoke again other stored ∈ calls → request.reads ≠ some stored

theorem step_fixed (host : Host b) {action : Action} (fixed : other.FixedCall action) :
    (host.step action).state.invokers = host.invokers ∧
      ∀ key, (∀ name request, action ≠ .invoke name request key) →
        (host.step action).state.handles.get? key = host.handles.get? key := by
  obtain ⟨name, request, result, _, _, _, rfl, _⟩ := fixed
  refine ⟨host.invokers_step _, fun key untouched => ?_⟩
  have outcome := host.step_cases (.invoke name request result)
  generalize host.step (.invoke name request result) = stepped at outcome ⊢
  cases outcome with
  | refused => rfl
  | @invoked _ _ _ o args p _ _ =>
    unfold stepInvoke
    generalize p.invoke host.holdings o args = invoked
    obtain ⟨s, events, answer⟩ := invoked
    cases answer with
    | error error => rfl
    | ok h =>
      show (host.answerHandle result h s events).state.handles.get? key = _
      rw [handles_answerHandle, Keyed.get?_insert_of_ne]
      rintro rfl
      exact untouched name request rfl

theorem after_fixed (host : Host b) {calls : List Action}
    (fixed : ∀ call ∈ calls, other.FixedCall call) :
    (host.after calls).invokers = host.invokers ∧
      ∀ key, (∀ name request, .invoke name request key ∉ calls) →
        (host.after calls).handles.get? key = host.handles.get? key := by
  induction calls generalizing host with
  | nil => exact ⟨rfl, fun _ _ => rfl⟩
  | cons call rest ih =>
    obtain ⟨first, later⟩ := List.forall_mem_cons.1 fixed
    obtain ⟨invokers, handles⟩ := step_fixed host first
    obtain ⟨unchanged, kept⟩ := ih (host.step call).state later
    refine ⟨unchanged.trans invokers, fun key untouched => ?_⟩
    rw [after_cons, kept key fun name request here => untouched name request (.tail _ here)]
    exact handles key fun name request here => untouched name request (here ▸ .head _)

theorem same_after_others {actions calls before sofar : List Action} {call : Action}
    (fixed : ((start b).after actions).FixedCalls calls) (called : call ∈ calls)
    (front : before ⊆ calls) (ahead : sofar ⊆ calls) :
    SameOutcome .exact (((start b).after actions).after before) call
      (((start b).after actions).after sofar) call := by
  obtain ⟨name, request, result, p, o, args, rfl, found, ready, functional, asked⟩ :=
    fixed.each call called
  obtain ⟨bindings, library, ready⟩ := Invoker.state_ready_iff.1 ready
  obtain ⟨_, l, opened, binds⟩ := ready_origin found ready
  have kept : ∀ {others}, others ⊆ calls →
      (((start b).after actions).after others).invokers.get? name = some p ∧
        (((start b).after actions).after others).Calls request o args := by
    intro others among
    obtain ⟨invokers, handles⟩ := after_fixed ((start b).after actions)
      fun call here => fixed.each call (among here)
    refine ⟨by rw [invokers, found], calls_of_reads asked fun key reads => handles key ?_⟩
    exact fun other request' here =>
      fixed.apart name request result other request' key called (among here) reads
  obtain ⟨found, asked⟩ := kept front
  obtain ⟨there, again⟩ := kept ahead
  exact same_outcome found there ready ready
    (fun offered => functional l o _ opened (binds o offered)) asked again (.of_eq args)

/-- Invokers do not interfere and operations do not depend on what happened before. After any two
runs that make the same invoker ready, the same call of it has the same outcome; and calls on ready
invokers have the same outcomes in any order and change no invoker. -/
structure Noninterfering (b : Build) : Prop where
  next : ∀ (r : Sameness) (p : Invoker b) name again actions others request request' o
      (args args' : Arguments (Operation.shape o)) result result',
    Readies p name actions → Readies p again others → p.Functional r →
      ((start b).after actions).Calls request o args →
      ((start b).after others).Calls request' o args' → args.Same r args' →
        SameOutcome r ((start b).after actions) (.invoke name request result)
          ((start b).after others) (.invoke again request' result')
  reordered : ∀ actions calls others, List.Perm calls others →
    ((start b).after actions).FixedCalls calls →
      (((start b).after actions).after calls).invokers = ((start b).after actions).invokers ∧
      (((start b).after actions).after others).invokers = ((start b).after actions).invokers ∧
      ∀ before call rest sofar later, calls = before ++ call :: rest →
        others = sofar ++ call :: later →
          SameOutcome .exact (((start b).after actions).after before) call
            (((start b).after actions).after sofar) call

theorem noninterference (b : Build) : Noninterfering b where
  next _ _ _ _ _ _ _ _ _ _ _ _ _ readies again functional calls calls' same :=
    same_next readies again functional calls calls' same
  reordered actions calls others perm fixed := by
    have each : ∀ call ∈ others, ((start b).after actions).FixedCall call :=
      fun call here => fixed.each call (perm.mem_iff.2 here)
    refine ⟨(after_fixed _ fixed.each).1, (after_fixed _ each).1, ?_⟩
    rintro before call rest sofar later rfl rfl
    apply same_after_others fixed
    · simp
    · simp
    · exact fun other here => perm.mem_iff.2 (List.mem_append_left _ here)

section Scripted

open Scripted.Script

theorem objectId_same (number : Nat) (o : Operation) {args again : Arguments o.shape}
    (same : args.Same .renamed again) : objectId number o again = objectId number o args := by
  cases o with
  | loadGraph => cases same; rfl
  | addVertices => cases same; rfl
  | addEdges => cases same; rfl
  | toArrow =>
    cases same with
    | toArrow source => simp only [objectId, Handle.objectId, Handle.Renamed.content source]
  | toDynamic =>
    cases same with
    | toDynamic source => simp only [objectId, Handle.objectId, Handle.Renamed.content source]

theorem run_scripted (number moment : Nat) (o : Operation) (stash : List Handle)
    (args : Arguments o.shape) :
    ((backend {} number).entry o).run moment stash args =
      .ok (.made ⟨objectId number o args, args.name, kind o⟩) := by
  cases o <;> cases args <;> rfl

theorem scripted_functional (number : Nat) (o : Operation) :
    ((backend {} number).entry o).Functional .renamed := by
  intro moment other stash kept args again same
  rw [run_scripted, run_scripted, objectId_same number o same, same.name]
  exact .done ⟨.fragment .nil, .nil, rfl⟩

theorem functional_ofTable :
    (Invoker.ofTable (b := .experimental) (table {} 0)).Functional .renamed := by
  intro l o entry opened resolved
  obtain rfl := entry_of_opened opened resolved
  exact scripted_functional 0 o

def quiet : List Action :=
  [.create "p" "plugin" "/lib" (.serving (table {} 0)) none, .init "p",
    .invoke "p" (.loadGraph .single ⟨"/store", 1⟩ "graph" .empty) "h"]

def busy : List Action :=
  [.create "q" "other" "/lib" (.serving (table {} 1)) none, .init "q",
    .invoke "q" (.loadGraph .single ⟨"/store", 1⟩ "graph" .empty) "h",
    .create "p" "plugin" "/lib" (.serving (table {} 0)) none, .init "p",
    .setUnloadOnDrop "p" false, .init "p",
    .invoke "p" (.loadGraph .single ⟨"/store", 1⟩ "" .empty) "e",
    .invoke "p" (.loadGraph .single ⟨"/store", 1⟩ "graph" .empty) "h", .close "q"]

theorem noninterference_of_busy :
    ∃ h k, ((start .experimental).after quiet).handles.get? "h" = some h ∧
      ((start .experimental).after busy).handles.get? "h" = some k ∧ h ≠ k ∧
      SameOutcome .renamed
        ((start .experimental).after quiet)
        (.invoke "p" (.toArrow ⟨"/store", 1⟩ .single "h" "arrow") "a")
        ((start .experimental).after busy)
        (.invoke "p" (.toArrow ⟨"/store", 1⟩ .single "h" "arrow") "a") := by
  have first : Readies (b := .experimental) (.ofTable (table {} 0)) "p" quiet :=
    ⟨quiet.take 1, quiet.drop 2, _, rfl, by simp [Lasts, quiet, Ends], rfl, ⟨true, rfl⟩, rfl⟩
  have second : Readies (b := .experimental) (.ofTable (table {} 0)) "p" busy :=
    ⟨busy.take 4, busy.drop 5, _, rfl, by simp [Lasts, busy, Ends], rfl, ⟨true, rfl⟩, rfl⟩
  refine ⟨_, _, rfl, rfl, by decide, ?_⟩
  exact (noninterference .experimental).next .renamed _ _ _ _ _ _ _ _ _ _ _ _ first second
    functional_ofTable (.toArrow rfl) (.toArrow rfl) (.toArrow (.bound (.fragment .nil)))

end Scripted

end Host

end GraphPlugin
