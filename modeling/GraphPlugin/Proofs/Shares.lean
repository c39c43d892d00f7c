import GraphPlugin.Proofs.Runs
import Mathlib.Data.List.Induction

/-! Who has a share of a library, in terms of what has happened: the invoker that opened it, and the
handles that its operations returned, for as long as they are alive. The count of shares is shown to
be that of these. -/
namespace GraphPlugin

namespace Holdings

/-- All that stands in the handle stands in a known one or is a new fragment. -/
def Novel (s : Holdings) (known : List Handle) (h : Handle) : Prop :=
  ∀ k ∈ h.parts, (∃ g ∈ known, k ∈ g.parts) ∨ k.library? = none ∧ ¬ s.Issued k.node

theorem novel_fragment {s : Holdings} {known held : List Handle} {tag : Tag}
    (new : ¬ s.fragments.Issued tag) (inside : ∀ h ∈ held, s.Novel known h) (content : Fragment)
    (shown : Option Nat) : s.Novel known (.fragment tag content held shown) := by
  intro k hk
  rcases (Handle.mem_parts_iff _ k).1 hk with rfl | ⟨i, hi, hk⟩
  · exact .inr ⟨rfl, new⟩
  · exact inside i hi k hk

theorem novel_known {s : Holdings} {known : List Handle} {h : Handle} (given : h ∈ known) :
    s.Novel known h := fun _ hk => .inl ⟨h, given, hk⟩

theorem Novel.of_alive {s : Holdings} {known roots : List Handle} {h : Handle}
    (novel : s.Novel known h) (ka : ∀ g ∈ known, g ∈ Handle.alive roots) : s.Novel roots h := by
  refine fun k hk => (novel k hk).imp_left ?_
  rintro ⟨g, given, inside⟩
  exact (Handle.mem_alive_iff roots k).1 (Handle.part_alive (ka g given) inside)

theorem novel_of_alive {s : Holdings} {roots : List Handle} {h : Handle}
    (ha : h ∈ Handle.alive roots) : s.Novel roots h :=
  fun k hk => .inl ((Handle.mem_alive_iff roots k).1 (Handle.part_alive ha hk))

section Products

variable {known : List Handle} {x : Node}

mutual

theorem issued_build (origin : Origin) : ∀ (product : Product known) (s : Holdings),
    s.Issued x → (s.build origin product).2.Issued x
  | .known _ _, _, issued => issued
  | .fragment _ held _, s, issued => by
    have before := issued_buildAll origin held s issued
    cases x with
    | fragment tag => exact (Tally.issued_advance_iff _ _ _).2 (.inr before)
    | binding number => exact before

theorem issued_buildAll (origin : Origin) : ∀ (products : List (Product known)) (s : Holdings),
    s.Issued x → (s.buildAll origin products).2.Issued x
  | [], _, issued => issued
  | product :: rest, s, issued =>
    issued_buildAll origin rest _ (issued_build origin product s issued)

end

mutual

theorem novel_build (origin : Origin) : ∀ (product : Product known) (s : Holdings),
    s.Novel known (s.build origin product).1
  | .known _ given, _ => novel_known given
  | .fragment content held shown, s => by
    refine novel_fragment (fun issued => ?_) (novel_buildAll origin held s) content shown
    exact Tally.not_issued_next _ _ (issued_buildAll (x := .fragment _) origin held s issued)

theorem novel_buildAll (origin : Origin) : ∀ (products : List (Product known)) (s : Holdings),
    ∀ h ∈ (s.buildAll origin products).1, s.Novel known h
  | [], _ => List.forall_mem_nil _
  | product :: rest, s => by
    refine List.forall_mem_cons.2 ⟨novel_build origin product s, fun h hh k hk => ?_⟩
    refine (novel_buildAll origin rest _ h hh k hk).imp_right fun ⟨unbound, new⟩ => ⟨unbound, ?_⟩
    exact fun issued => new (issued_build origin product s issued)

end

theorem novel_accept (s : Holdings) (origin : Origin) (response : Response known) :
    s.Novel known (s.accept origin response).1 ∧
      ∀ h ∈ (s.accept origin response).2.stash, h ∈ s.stash ∨ s.Novel known h := by
  have first := novel_build origin response.back s
  refine ⟨first, fun h hh => ?_⟩
  rw [stash_accept, List.mem_append, List.mem_append] at hh
  rcases hh with (again | stashed) | kept
  · obtain rfl : h = (s.accept origin response).1 := by
      split at again
      · exact List.mem_singleton.1 again
      · cases again
    exact .inr first
  · refine .inr fun k hk => ?_
    refine (novel_buildAll origin response.stashed _ h stashed k hk).imp_right
      fun ⟨unbound, new⟩ => ?_
    exact ⟨unbound, fun issued => new (issued_build origin response.back s issued)⟩
  · exact .inl kept

end Products

end Holdings

namespace Host

open Handle (alive root_alive part_alive inner_alive)

variable {b : Build} {host : Host b}

/-- The step is a call that an invoker with the library lets through to the entry. -/
def Reaches (host : Host b) (action : Action) (library : Tag) {o : Operation}
    (entry : Entry o.shape) (args : Arguments o.shape) : Prop :=
  ∃ (name : String) (request : Request) (result : String) (p : Invoker b)
      (bindings : Bindings b.operations) (offered : o ∈ b.operations),
    action = .invoke name request result ∧ host.invokers.get? name = some p ∧
      p.status = .ready bindings library ∧ host.Calls request o args ∧
      Invoker.Named o args ∧ entry = bindings o offered

/-- What an entry point answers to the call that reaches it. -/
def answerOf {o : Operation} (host : Host b) (entry : Entry o.shape) (args : Arguments o.shape) :
    Except BackendError (Response (args.unwrapped.known host.holdings.stash)) :=
  entry.run host.holdings.calls host.holdings.stash args.unwrapped

/-- An operation of an invoker that holds the library is answered with the handle. -/
def Returns (library : Tag) (h : Handle) (host : Host b) (action : Action) : Prop :=
  ∃ name request result p, action = .invoke name request result ∧
    host.invokers.get? name = some p ∧ p.library? = some library ∧
    (host.step action).answer = .handle h

def Returned (host : Host b) (actions : List Action) (library : Tag) (h : Handle) : Prop :=
  host.Sometime actions (Returns library h)

/-- After a run an invoker holds the library, or a handle that an operation of its invoker returned
is alive. -/
def Shared (host : Host b) (actions : List Action) (library : Tag) : Prop :=
  (∃ name p, (host.after actions).invokers.get? name = some p ∧ p.library? = some library) ∨
    ∃ h, host.Returned actions library h ∧ h ∈ alive (host.after actions).roots

inductive Gains (host : Host b) : Action → Handle → Prop
  | kept {action name k} : host.handles.get? name = some k → Gains host action k
  | returned {action library k} : Returns library k host action → Gains host action k
  | made {content holds shown result held} : host.findAll holds = .ok held →
      Gains host (.make content holds shown result)
        ((host.holdings.retainAll held).addFragment .inProcess content held shown).1
  | taken {handle result name h inner} : host.handles.get? name = some h →
      h.inner? = some inner → Gains host (.takeInner handle result) inner

theorem handles_answerHandle (result : String) (h : Handle) (s : Holdings) (events : List Event) :
    (host.answerHandle result h s events).state.handles = host.handles.insert result h := by
  unfold answerHandle keepHandle
  cases host.handles.get? result <;> rfl

theorem stash_answerHandle (result : String) (h : Handle) (s : Holdings) (events : List Event) :
    (host.answerHandle result h s events).state.holdings.stash = s.stash := by
  unfold answerHandle keepHandle
  cases host.handles.get? result with
  | none => rfl
  | some old => exact s.stash_drop old

theorem stashed_answerHandle {result : String} {h k : Handle} {s : Holdings} {events : List Event}
    (stashed : k ∈ (host.answerHandle result h s events).state.holdings.stash) : k ∈ s.stash :=
  stash_answerHandle result h s events ▸ stashed

theorem root_answerHandle (result : String) (h : Handle) (s : Holdings) (events : List Event) :
    h ∈ (host.answerHandle result h s events).state.roots := by
  have found : (host.answerHandle result h s events).state.handles.get? result = some h := by
    rw [handles_answerHandle, Keyed.get?_insert_self]
  exact root_of_find found

theorem named_answerHandle {result name : String} {h k : Handle} {s : Holdings}
    {events : List Event}
    (found : (host.answerHandle result h s events).state.handles.get? name = some k) :
    k = h ∨ ∃ name, host.handles.get? name = some k := by
  rw [handles_answerHandle, Keyed.get?_insert] at found
  split at found
  · exact .inl (Option.some.inj found).symm
  · exact .inr ⟨name, found⟩

theorem handles_keepInvoker (name : String) (p : Invoker b) :
    (host.keepInvoker name p).1.handles = host.handles := by
  unfold keepInvoker
  cases host.invokers.get? name <;> rfl

theorem stash_keepInvoker (name : String) (p : Invoker b) :
    (host.keepInvoker name p).1.holdings.stash = host.holdings.stash := by
  unfold keepInvoker
  cases host.invokers.get? name with
  | none => rfl
  | some old => exact stash_close old host.holdings

theorem stash_init (p : Invoker b) (s : Holdings) : (p.init s).state.2.stash = s.stash := by
  have outcome := p.init_cases s
  generalize p.init s = result at outcome ⊢
  cases outcome <;> rfl

/-- How a call ends: it is refused, and counted if an entry point was asked; or the entry point that
it reaches answers it. -/
inductive Invokes (host : Host b) (p : Invoker b) (action : Action) :
    Outcome (Host b) (Reply b) → Prop
  | refused {calls events error} : Invokes host p action
      ⟨{ host with holdings := { host.holdings with calls } }, events, .refused error⟩
  | answered {library} {o : Operation} {entry : Entry o.shape} {args : Arguments o.shape}
      {response : Response (args.unwrapped.known host.holdings.stash)} {result events} :
      p.library? = some library → Reaches host action library entry args →
      host.answerOf entry args = .ok response → Invokes host p action
        (host.answerHandle result (host.holdings.called.adopt library response).1
          (host.holdings.called.adopt library response).2 events)

theorem stepInvoke_invokes {name : String} {request : Request} {p : Invoker b} {o : Operation}
    {args : Arguments o.shape} (found : host.invokers.get? name = some p)
    (asked : host.arguments request = .ok ⟨o, args⟩) (result : String) :
    Invokes host p (.invoke name request result) (host.stepInvoke p o args result) := by
  have outcome := p.invoke_cases host.holdings o args
  unfold stepInvoke
  generalize p.invoke host.holdings o args = invoked at outcome ⊢
  cases outcome with
  | leftOut _ => exact .refused
  | notReady _ _ => exact .refused
  | unnamed _ _ _ => exact .refused
  | refused _ _ _ _ => exact .refused
  | @done bindings library response offered ready named ran =>
    have reaches : Reaches host (.invoke name request result) library (bindings o offered) args :=
      ⟨name, request, result, p, bindings, offered, rfl, found, ready,
        arguments_eq_ok_iff.1 asked, named, rfl⟩
    exact .answered (library?_of_ready ready) reaches ran

theorem named_step {action : Action} {name : String} {k : Handle}
    (found : (host.step action).state.handles.get? name = some k) : host.Gains action k := by
  have outcome := host.step_cases action
  generalize same : host.step action = result at outcome found
  cases outcome with
  | created _ => exact .kept (handles_keepInvoker _ _ ▸ found)
  | @invoked name request result o args p there asked =>
    have invokes := stepInvoke_invokes there asked result
    generalize host.stepInvoke p o args result = invoked at invokes same found
    cases invokes with
    | refused => exact .kept found
    | answered holds _ _ =>
      rcases named_answerHandle found with rfl | ⟨_, old⟩
      · exact .returned ⟨name, request, result, p, rfl, there, holds, by rw [same]; rfl⟩
      · exact .kept old
  | made holds =>
    rcases named_answerHandle found with rfl | ⟨_, old⟩
    · exact .made holds
    · exact .kept old
  | cloned there =>
    rcases named_answerHandle found with rfl | ⟨_, old⟩
    · exact .kept there
    · exact .kept old
  | taken there inside =>
    rcases named_answerHandle found with rfl | ⟨_, old⟩
    · exact .taken there inside
    · exact .kept old
  | dropped _ =>
    rw [Keyed.get?_erase] at found
    split at found
    · contradiction
    · exact .kept found
  | initialised _ => exact .kept found
  | closed _ => exact .kept found
  | unstashed _ => exact .kept found
  | refused => exact .kept found
  | policySet _ => exact .kept found
  | inspected => exact .kept found
  | described => exact .kept found
  | hollow => exact .kept found
  | absent => exact .kept found

theorem stashed_step {action : Action} {k : Handle}
    (stashed : k ∈ (host.step action).state.holdings.stash) :
    k ∈ host.holdings.stash ∨
      ∃ (library : Tag) (o : Operation) (entry : Entry o.shape) (args : Arguments o.shape)
        (response : Response (args.unwrapped.known host.holdings.stash)),
        Reaches host action library entry args ∧ host.answerOf entry args = .ok response ∧
          k ∈ (host.holdings.called.accept library.origin response).2.stash := by
  have outcome := host.step_cases action
  generalize host.step action = result at outcome stashed
  cases outcome with
  | created _ => exact .inl (stash_keepInvoker _ _ ▸ stashed)
  | initialised _ => exact .inl (stash_init _ _ ▸ stashed)
  | closed _ => exact .inl (stash_close _ _ ▸ stashed)
  | @invoked name request result o args p there asked =>
    have invokes := stepInvoke_invokes there asked result
    generalize host.stepInvoke p o args result = invoked at invokes stashed
    cases invokes with
    | refused => exact .inl stashed
    | answered _ reaches ran =>
      have kept := stashed_answerHandle stashed
      exact .inr ⟨_, _, _, _, _, reaches, ran, kept⟩
  | made _ =>
    have old := stashed_answerHandle stashed
    exact .inl old
  | cloned _ =>
    have old := stashed_answerHandle stashed
    exact .inl old
  | taken _ _ =>
    have old := stashed_answerHandle stashed
    exact .inl old
  | dropped _ => exact .inl (Holdings.stash_drop _ _ ▸ stashed)
  | unstashed _ => exact .inl (List.mem_of_mem_eraseIdx (Holdings.stash_drop _ _ ▸ stashed))
  | refused => exact .inl stashed
  | policySet _ => exact .inl stashed
  | inspected => exact .inl stashed
  | described => exact .inl stashed
  | hollow => exact .inl stashed
  | absent => exact .inl stashed

theorem reaches_known {action : Action} {library : Tag} {o : Operation} {entry : Entry o.shape}
    {args : Arguments o.shape} (reaches : Reaches host action library entry args) :
    ∀ k ∈ args.unwrapped.known host.holdings.stash, k ∈ alive host.roots := by
  obtain ⟨_, _, _, _, _, _, _, _, _, calls, _, _⟩ := reaches
  exact fun k known => known_alive (arguments_source (arguments_eq_ok_iff.2 calls)) known

theorem returns_answered {action : Action} {library : Tag} {h : Handle}
    (returns : Returns library h host action) :
    ∃ (o : Operation) (entry : Entry o.shape) (args : Arguments o.shape)
        (response : Response (args.unwrapped.known host.holdings.stash)) (result : String)
        (events : List Event),
      Reaches host action library entry args ∧ host.answerOf entry args = .ok response ∧
        h = (host.holdings.called.adopt library response).1 ∧
        host.step action =
          host.answerHandle result h (host.holdings.called.adopt library response).2 events := by
  obtain ⟨name, request, result, p, rfl, found, holds, answer⟩ := returns
  have outcome := host.step_cases (.invoke name request result)
  generalize host.step (.invoke name request result) = stepped at outcome answer ⊢
  cases outcome with
  | refused => cases answer
  | @invoked _ _ _ o args q again asked =>
    obtain rfl : q = p := Option.some.inj (again.symm.trans found)
    have invokes := stepInvoke_invokes found asked result
    generalize host.stepInvoke q o args result = invoked at invokes answer ⊢
    cases invokes with
    | refused => cases answer
    | answered own reaches ran =>
      obtain rfl := Option.some.inj (own.symm.trans holds)
      cases answer
      exact ⟨_, _, _, _, _, _, reaches, ran, rfl, rfl⟩

theorem answer_of_returns {action : Action} {library : Tag} {h : Handle}
    (returns : Returns library h host action) : (host.step action).answer = .handle h := by
  obtain ⟨_, _, _, _, _, _, _, answer⟩ := returns
  exact answer

theorem root_of_returns {action : Action} {library : Tag} {h : Handle}
    (returns : Returns library h host action) : h ∈ (host.step action).state.roots := by
  obtain ⟨_, _, _, _, _, _, _, _, _, step⟩ := returns_answered returns
  rw [step]
  exact root_answerHandle _ _ _ _

theorem returns_bound {action : Action} {library : Tag} {h : Handle}
    (returns : Returns library h host action) :
    ∃ number inner, h = .bound number library inner ∧ host.holdings.Novel host.roots inner := by
  obtain ⟨_, _, _, response, _, _, reaches, _, rfl, _⟩ := returns_answered returns
  have novel := (host.holdings.called.novel_accept library.origin response).1
  exact ⟨_, _, rfl, Holdings.Novel.of_alive novel (reaches_known reaches)⟩

theorem returns_library {action : Action} {library : Tag} {h : Handle}
    (returns : Returns library h host action) : h.library? = some library := by
  obtain ⟨number, inner, rfl, _⟩ := returns_bound returns
  rfl

theorem root_step {action : Action} {k : Handle} (held : k ∈ (host.step action).state.roots) :
    host.holdings.Novel host.roots k ∨ ∃ library, Returns library k host action := by
  rcases (mem_roots_iff _ k).1 held with ⟨name, found⟩ | stashed
  · cases named_step found with
    | kept old => exact .inl (Holdings.novel_known (root_of_find old))
    | returned returns => exact .inr ⟨_, returns⟩
    | made holds =>
      exact .inl (Holdings.novel_fragment (Tally.not_issued_next _ _)
        (fun h hh => Holdings.novel_known (root_of_findAll holds h hh)) _ _)
    | taken old inside =>
      exact .inl (Holdings.novel_of_alive
        (inner_alive (root_alive (root_of_find old)) (Handle.mem_inners_of_inner? inside)))
  · rcases stashed_step stashed with old | ⟨library, _, _, _, response, reaches, _, kept⟩
    · exact .inl (Holdings.novel_known (List.mem_append_right _ old))
    · rcases (host.holdings.called.novel_accept library.origin response).2 k kept with old | novel
      · exact .inl (Holdings.novel_known (List.mem_append_right _ old))
      · exact .inl (Holdings.Novel.of_alive novel (reaches_known reaches))

theorem alive_step {action : Action} {k : Handle}
    (ka : k ∈ alive (host.step action).state.roots) :
    k ∈ alive host.roots ∨ (∃ library, Returns library k host action) ∨
      (k.library? = none ∧ ¬ host.holdings.Issued k.node) := by
  obtain ⟨r, held, hr⟩ := (Handle.mem_alive_iff _ k).1 ka
  have known : ∀ {h}, host.holdings.Novel host.roots h → k ∈ h.parts →
      k ∈ alive host.roots ∨ (k.library? = none ∧ ¬ host.holdings.Issued k.node) :=
    fun novel hk => (novel k hk).imp_left (Handle.mem_alive_iff _ k).2
  rcases root_step held with novel | ⟨library, returns⟩
  · exact (known novel hr).imp_right .inr
  · obtain ⟨number, inner, rfl, novel⟩ := returns_bound returns
    rcases (Handle.mem_parts_iff _ k).1 hr with rfl | ⟨i, same, hi⟩
    · exact .inr (.inl ⟨_, returns⟩)
    · obtain rfl := List.mem_singleton.1 same
      exact (known novel hi).imp_right .inr

/-- Every live binding to a library was returned by an operation of its invoker. -/
theorem returned_of_alive {actions : List Action} {h : Handle} {library : Tag}
    (ha : h ∈ alive ((start b).after actions).roots) (bound : h.library? = some library) :
    (start b).Returned actions library h := by
  induction actions using List.reverseRecOn with
  | nil => exact absurd ha List.not_mem_nil
  | append_singleton actions action ih =>
    rw [after_snoc] at ha
    unfold Returned at ih ⊢
    rw [sometime_snoc_iff]
    rcases alive_step ha with old | ⟨own, returns⟩ | ⟨unbound, _⟩
    · exact .inl (ih old)
    · obtain rfl : own = library := Option.some.inj ((returns_library returns).symm.trans bound)
      exact .inr returns
    · rw [bound] at unbound
      contradiction

theorem Returned.library {actions : List Action} {library : Tag} {h : Handle}
    (returned : host.Returned actions library h) : h.library? = some library := by
  obtain ⟨before, action, rest, _, returns⟩ := returned
  exact returns_library returns

/-- The holdings count a share of a library exactly while somebody has one. -/
theorem mem_shares_iff_shared (b : Build) (actions : List Action) (library : Tag) :
    library ∈ ((start b).after actions).holdings.shares ↔ (start b).Shared actions library := by
  have counted := (after_balanced b actions).mem_shares_iff library
  rw [ledger] at counted
  rw [counted, mem_owners_iff, Shared]
  refine or_congr Iff.rfl ⟨?_, ?_⟩
  · rintro ⟨h, ha, bound⟩
    exact ⟨h, returned_of_alive ha bound, ha⟩
  · rintro ⟨h, returned, ha⟩
    exact ⟨h, ha, returned.library⟩

end Host

end GraphPlugin
