import GraphPlugin.Proofs.Dispatch
import GraphPlugin.Proofs.Origins

/-! What conversions do to handles. An operation puts one binding around what its entry point hands
back, and a conversion takes one wrapper off what it is given. So a backend gets back the handle
that it returned, and however often a graph is converted, wrappers do not pile up. -/
namespace GraphPlugin

/-- What is handed back is a new fragment that shows no handle inside, or the source. -/
inductive Response.Plain {s : Shape} {args : Arguments s} {stash : List Handle}
    (response : Response (args.known stash)) : Prop
  | made (content : Fragment) (held : List (Product (args.known stash))) (shown : Option Nat) :
      response.back = .fragment content held shown → shown.bind (held[·]?) = none → Plain response
  | source (h : Handle) (given : h ∈ args.known stash) : response.back = .known h given →
      args.source? = some h → Plain response

def Entry.Plain {s : Shape} (entry : Entry s) : Prop :=
  ∀ moment stash args response, entry.run moment stash args = .ok response → response.Plain

theorem Entry.Direct.plain {s : Shape} {entry : Entry s} (direct : entry.Direct) : entry.Plain := by
  intro moment stash args response ran
  cases direct moment stash args response ran with
  | made content shown => exact .made content [] shown rfl (by cases shown <;> rfl)
  | source h given same => exact .source h given rfl same

theorem hollow_of_length {α β : Type} {some : List α} {other : List β}
    (same : some.length = other.length) {shown : Option Nat}
    (hollow : shown.bind (some[·]?) = none) :
    shown.bind (other[·]?) = none := by
  cases shown with
  | none => rfl
  | some place =>
    rw [Option.bind_some, List.getElem?_eq_none_iff] at hollow ⊢
    omega

theorem Handle.depth_of_hollow {tag : Tag} {content : Fragment} {held : List Handle}
    {shown : Option Nat} (hollow : shown.bind (held[·]?) = none) :
    (Handle.fragment tag content held shown).depth = 0 := by
  rw [depth_eq, inner?, hollow, Option.elim_none]

theorem Product.Means.depth_of_hollow {known : List Handle} {s : Holdings} {content : Fragment}
    {products : List (Product known)} {shown : Option Nat} {f : Handle}
    (means : (Product.fragment content products shown).Means s f)
    (hollow : shown.bind (products[·]?) = none) : f.depth = 0 := by
  cases means with
  | fragment _ held => exact Handle.depth_of_hollow (hollow_of_length held.length_eq hollow)

namespace Host

variable {b : Build} {host : Host b} {actions : List Action} {action : Action} {h k f : Handle}

/-- The step is a conversion of the handle. -/
def Converts (h : Handle) (host : Host b) (action : Action) : Prop :=
  ∃ (library : Tag) (o : Operation) (entry : Entry o.shape) (args : Arguments o.shape),
    Reaches host action library entry args ∧ args.source? = some h

/-- An entry point that the step calls receives the handle as its source. -/
def Receives (k : Handle) (host : Host b) (action : Action) : Prop :=
  ∃ library label shape args,
    Event.calling library label (.operation shape args) ∈ (host.step action).events ∧
      args.source? = some k

/-- The entry point that the step calls hands back the first handle, and the caller gets the second.
-/
def Yields (f h : Handle) (host : Host b) (action : Action) : Prop :=
  ∃ (library : Tag) (o : Operation) (entry : Entry o.shape) (args : Arguments o.shape)
      (response : Response (args.unwrapped.known host.holdings.stash)),
    Reaches host action library entry args ∧ host.answerOf entry args = .ok response ∧
      f = (host.holdings.called.accept library.origin response).1 ∧
      (host.step action).answer = .handle h

/-- The step converts the first handle, its entry point hands back the source that it receives, and
the caller gets the second handle. -/
def HandsOn (h k : Handle) (host : Host b) (action : Action) : Prop :=
  Converts h host action ∧ ∃ f, Receives f host action ∧ Yields f k host action

/-- A number of conversions in a run, each of what the one before it returned, that all hand on
their source. -/
inductive Chain (host : Host b) (actions : List Action) (h : Handle) : Nat → Handle → Prop
  | none : Chain host actions h 0 h
  | more {n j k} : Chain host actions h n j → host.Sometime actions (HandsOn j k) →
      Chain host actions h (n + 1) k

/-- No fragment that the host makes shows a handle inside. -/
def Plain (actions : List Action) : Prop :=
  ∀ content holds shown result, Action.make content holds shown result ∈ actions →
    shown.bind (holds[·]?) = none

/-- How handles are unwrapped and wrapped in a run, at each step, for what is returned, while only
bindings show a handle inside, and along chains of conversions. -/
structure UnwrapsOnce (b : Build) (actions : List Action) : Prop where
  received : ∀ h, (start b).Always actions fun host action => Converts h host action →
    ∀ k, Receives k host action ↔ k = h.inner?.getD h
  shallower : ∀ h k, (start b).Always actions fun host action => Converts h host action →
    Receives k host action → k.depth = h.depth - 1
  yielded : (start b).Always actions fun host action => ∀ (library : Tag) (o : Operation)
    (entry : Entry o.shape) (args : Arguments o.shape)
    (response : Response (args.unwrapped.known host.holdings.stash)),
      Reaches host action library entry args → host.answerOf entry args = .ok response →
        ∃ f h, Yields f h host action ∧ response.back.Means host.holdings f
  deeper : ∀ f h, (start b).Always actions fun host action => Yields f h host action →
    h.inner? = some f ∧ h.depth = f.depth + 1
  returned : ∀ library h, (start b).Returned actions library h →
    ∃ f, (start b).Sometime actions (Yields f h) ∧
      (start b).Always actions fun host action => Converts h host action →
        ∀ k, Receives k host action ↔ k = f
  plain : Plain actions → Backed actions Entry.Plain →
    (∀ k, (start b).Sometime actions (Receives k) → k.depth = 0) ∧
      ∀ library h, (start b).Returned actions library h → h.depth = 1
  chained : ∀ f h n k, (start b).Sometime actions (Yields f h) →
    Chain (start b) actions h n k → k.inner? = some f
  begun : ∀ h n k, Chain (start b) actions h (n + 1) k → k.inner? = some (h.inner?.getD h)

theorem receives_iff {library : Tag} {o : Operation} {entry : Entry o.shape}
    {args : Arguments o.shape} (reaches : Reaches host action library entry args) :
    Receives k host action ↔ args.unwrapped.source? = some k := by
  have called := (delivers_of_reaches reaches).called
  constructor
  · rintro ⟨other, label, shape, received, shown, source⟩
    have among := List.mem_filter.2 ⟨shown, show Event.isCall _ = true from rfl⟩
    rw [called, List.mem_singleton] at among
    cases among
    exact source
  · intro source
    have shown : Event.calling (some library) entry.label (.operation o.shape args.unwrapped) ∈
        (host.step action).events.filter Event.isCall := by simp [called]
    exact ⟨_, _, _, _, (List.mem_filter.1 shown).1, source⟩

theorem received_of_converts (converts : Converts h host action) :
    Receives k host action ↔ k = h.unwrapped := by
  obtain ⟨library, o, entry, args, reaches, source⟩ := converts
  rw [receives_iff reaches, args.source?_unwrapped, source, Option.map_some, Option.some.injEq]
  exact eq_comm

theorem inner_of_yields (yields : Yields f h host action) : h.inner? = some f := by
  obtain ⟨library, o, entry, args, response, reaches, ran, rfl, answer⟩ := yields
  obtain ⟨result, events, step⟩ := step_of_reaches reaches ran
  rw [step] at answer
  cases answer
  rfl

theorem yields_of_answer {library : Tag} {o : Operation} {entry : Entry o.shape}
    {args : Arguments o.shape} {response : Response (args.unwrapped.known host.holdings.stash)}
    (reaches : Reaches host action library entry args)
    (ran : host.answerOf entry args = .ok response) :
    ∃ f h, Yields f h host action ∧ response.back.Means host.holdings f := by
  obtain ⟨result, events, step⟩ := step_of_reaches reaches ran
  have answer : (host.step action).answer =
      .handle (host.holdings.called.adopt library response).1 := by
    rw [step]
    rfl
  refine ⟨_, _, ⟨library, o, entry, args, response, reaches, ran, rfl, answer⟩, ?_⟩
  exact Holdings.means_build library.origin response.back host.holdings.called fun _ issued =>
    issued

theorem yields_of_returns {library : Tag} (returns : Returns library h host action) :
    ∃ f, Yields f h host action := by
  obtain ⟨o, entry, args, response, _, _, reaches, ran, _⟩ := returns_answered returns
  exact ⟨_, library, o, entry, args, response, reaches, ran, rfl, answer_of_returns returns⟩

theorem reaches_of_receives (receives : Receives k host action) :
    ∃ (library : Tag) (o : Operation) (entry : Entry o.shape) (args : Arguments o.shape),
      Reaches host action library entry args ∧ args.unwrapped.source? = some k := by
  obtain ⟨_, _, _, _, shown, source⟩ := receives
  obtain ⟨library, o, entry, args, reaches, same⟩ := reaches_of_called shown
  cases same
  exact ⟨library, o, entry, args, reaches, source⟩

def Flat (host : Host b) : Prop := ∀ name h, host.handles.get? name = some h → h.depth ≤ 1

theorem depth_of_receives (flat : host.Flat) (receives : Receives k host action) : k.depth = 0 := by
  obtain ⟨library, o, entry, args, reaches, received⟩ := reaches_of_receives receives
  obtain ⟨_, _, _, _, _, _, _, _, _, calls, _, _⟩ := reaches
  rw [args.source?_unwrapped] at received
  obtain ⟨h, given, rfl⟩ := Option.map_eq_some_iff.1 received
  obtain ⟨name, found⟩ := calls.source_named given
  have low := flat name h found
  rw [Handle.depth_unwrapped]
  omega

theorem depth_of_yields (flat : host.Flat)
    (plain : ∀ {library : Tag} {o : Operation} {entry : Entry o.shape} {args : Arguments o.shape},
      Reaches host action library entry args → entry.Plain)
    (yields : Yields f h host action) : h.depth = 1 := by
  rw [Handle.depth_inner (inner_of_yields yields)]
  obtain ⟨library, o, entry, args, response, reaches, ran, rfl, _⟩ := yields
  have means := Holdings.means_build library.origin response.back host.holdings.called
    fun _ issued => issued
  change (host.holdings.called.build library.origin response.back).1.depth + 1 = 1
  rw [Nat.add_eq_right]
  cases plain reaches _ _ _ _ ran with
  | made content held shown same hollow =>
    rw [same] at means ⊢
    exact means.depth_of_hollow hollow
  | source k given same source =>
    rw [same]
    exact depth_of_receives flat ((receives_iff reaches).2 source)

theorem flat_step (flat : host.Flat) (plain : Plain [action])
    (answers : ∀ {library : Tag} {o : Operation} {entry : Entry o.shape}
      {args : Arguments o.shape}, Reaches host action library entry args → entry.Plain) :
    (host.step action).state.Flat := by
  intro name k found
  cases named_step found with
  | kept old => exact flat _ k old
  | returned returns =>
    obtain ⟨f, yields⟩ := yields_of_returns returns
    exact Nat.le_of_eq (depth_of_yields flat answers yields)
  | @made content holds shown result held named =>
    have length := congrArg List.length ((findAll_eq_ok_iff _ _ _).1 named)
    rw [List.length_map, List.length_map] at length
    have hollow := plain content holds shown result List.mem_cons_self
    refine Nat.le_succ_of_le (Nat.le_of_eq ?_)
    exact Handle.depth_of_hollow (hollow_of_length length hollow)
  | taken old inside =>
    have outer := flat _ _ old
    have below := Handle.depth_inner inside
    omega

theorem Plain.of_append {more : List Action} (plain : Plain (actions ++ more)) : Plain actions :=
  fun content holds shown result made =>
    plain content holds shown result (List.mem_append_left _ made)

theorem flat_after (plain : Plain actions) (backed : Backed actions Entry.Plain) :
    ((start b).after actions).Flat := by
  induction actions using List.reverseRecOn with
  | nil => exact fun _ _ found => nomatch found
  | append_singleton actions action ih =>
    have last : Plain [action] := fun content holds shown result made =>
      plain content holds shown result (List.mem_append_right _ made)
    rw [after_snoc]
    exact flat_step (ih plain.of_append backed.of_append) last (kind_of_reaches backed.of_append)

theorem inner_of_handsOn (handsOn : HandsOn h k host action) : k.inner? = some h.unwrapped := by
  obtain ⟨converts, f, receives, yields⟩ := handsOn
  rw [inner_of_yields yields, (received_of_converts converts).1 receives]

theorem unwrapped_of_chain {n : Nat} (chain : Chain host actions h n k) :
    k.unwrapped = h.unwrapped := by
  induction chain with
  | none => rfl
  | more _ handed ih =>
    obtain ⟨before, action, rest, _, handsOn⟩ := handed
    have inside := inner_of_handsOn handsOn
    rw [← ih, Handle.unwrapped, inside]
    rfl

theorem inner_of_chain {n : Nat} (chain : Chain host actions h (n + 1) k) :
    k.inner? = some h.unwrapped := by
  cases chain with
  | more earlier handed =>
    obtain ⟨before, action, rest, _, handsOn⟩ := handed
    rw [inner_of_handsOn handsOn, unwrapped_of_chain earlier]

theorem unwraps_once (b : Build) (actions : List Action) : UnwrapsOnce b actions where
  received h before action rest _ converts k := received_of_converts converts
  shallower h k before action rest _ converts receives := by
    rw [(received_of_converts converts).1 receives, Handle.depth_unwrapped]
  yielded before action rest _ library o entry args response reaches ran :=
    yields_of_answer reaches ran
  deeper f h before action rest _ yields :=
    ⟨inner_of_yields yields, Handle.depth_inner (inner_of_yields yields)⟩
  returned library h returned := by
    obtain ⟨before, action, rest, split, returns⟩ := returned
    obtain ⟨f, yields⟩ := yields_of_returns returns
    refine ⟨f, ⟨before, action, rest, split, yields⟩, ?_⟩
    intro sofar other later _ converts k
    have received := received_of_converts (k := k) converts
    rwa [Handle.unwrapped, inner_of_yields yields] at received
  plain plain backed := by
    constructor
    · rintro k ⟨before, action, rest, rfl, receives⟩
      exact depth_of_receives (flat_after plain.of_append backed.of_append) receives
    · rintro library h ⟨before, action, rest, rfl, returns⟩
      obtain ⟨f, yields⟩ := yields_of_returns returns
      exact depth_of_yields (flat_after plain.of_append backed.of_append)
        (kind_of_reaches backed.of_append) yields
  chained f h n k yielded chain := by
    obtain ⟨before, action, rest, _, yields⟩ := yielded
    have inside := inner_of_yields yields
    cases n with
    | zero =>
      cases chain
      exact inside
    | succ n =>
      rw [inner_of_chain chain, Handle.unwrapped, inside]
      rfl
  begun h n k chain := inner_of_chain chain

/-- A graph is loaded through one library and converted by two others, which hand it on. -/
def convertedTwice : List Action :=
  [.create "a" "a" "/lib" (.serving (Scripted.Script.table {} 0)) none,
    .create "b" "b" "/lib" (.serving (Scripted.Script.table { echo := true } 1)) none,
    .create "c" "c" "/lib" (.serving (Scripted.Script.table { echo := true } 2)) none,
    .init "a", .init "b", .init "c",
    .invoke "a" (.loadGraph .single ⟨"/store", 0⟩ "g" .empty) "first",
    .invoke "b" (.toArrow ⟨"/store", 0⟩ .single "first" "h") "second",
    .invoke "c" (.toDynamic .single "second" "i") "third"]

def loaded (number : Nat) : Handle :=
  .bound number ⟨.inProcess, number⟩ (.fragment ⟨.inProcess, 1⟩ ⟨⟨630⟩, "g", .arrow⟩ [] none)

theorem unwraps_once_of_two_conversions :
    (start .experimental).Returned convertedTwice ⟨.inProcess, 1⟩ (loaded 1) ∧
      Chain (start .experimental) convertedTwice (loaded 1) 2 (loaded 3) ∧
      (loaded 3).inner? = (loaded 1).inner? ∧
      Plain convertedTwice ∧ Backed convertedTwice Entry.Plain ∧
      ∀ k, (start .experimental).Sometime convertedTwice (Receives k) → k.depth = 0 := by
  have returned : (start .experimental).Returned convertedTwice ⟨.inProcess, 1⟩ (loaded 1) :=
    ⟨convertedTwice.take 6, _, convertedTwice.drop 7, rfl, "a", _, _, _, rfl, rfl, rfl, rfl⟩
  have second : (start .experimental).Sometime convertedTwice (HandsOn (loaded 1) (loaded 2)) := by
    have reaches : Reaches (o := .toArrow) ((start .experimental).after (convertedTwice.take 7))
        convertedTwice[7] ⟨.inProcess, 2⟩
        ((Scripted.Script.backend { echo := true } 1).entry .toArrow)
        (.toArrow ⟨"/store", 0⟩ .single (loaded 1) "h") :=
      ⟨"b", _, _, _, _, by decide, rfl, rfl, rfl, .toArrow rfl, .inl rfl, rfl⟩
    refine ⟨convertedTwice.take 7, _, convertedTwice.drop 8, rfl, ⟨_, _, _, _, reaches, rfl⟩,
      (loaded 1).unwrapped, (receives_iff reaches).2 rfl, ?_⟩
    exact ⟨_, _, _, _, _, reaches, rfl, rfl, rfl⟩
  have third : (start .experimental).Sometime convertedTwice (HandsOn (loaded 2) (loaded 3)) := by
    have reaches : Reaches (o := .toDynamic) ((start .experimental).after (convertedTwice.take 8))
        convertedTwice[8] ⟨.inProcess, 3⟩
        ((Scripted.Script.backend { echo := true } 2).entry .toDynamic)
        (.toDynamic .single (loaded 2) "i") :=
      ⟨"c", _, _, _, _, by decide, rfl, rfl, rfl, .toDynamic rfl, .inl rfl, rfl⟩
    refine ⟨convertedTwice.take 8, _, convertedTwice.drop 9, rfl, ⟨_, _, _, _, reaches, rfl⟩,
      (loaded 2).unwrapped, (receives_iff reaches).2 rfl, ?_⟩
    exact ⟨_, _, _, _, _, reaches, rfl, rfl, rfl⟩
  have chain : Chain (start .experimental) convertedTwice (loaded 1) 2 (loaded 3) :=
    (Chain.none.more second).more third
  have plain : Plain convertedTwice := by simp [Plain, convertedTwice]
  have backed : Backed convertedTwice Entry.Plain := by
    refine backed_of_scripts fun name id path loader unload created => ?_
    have scripted (script : Scripted.Script) (number : Nat) (o : Operation) :
        ((script.backend number).entry o).Plain := (script.direct_entry number o).plain
    simp only [convertedTwice, List.mem_cons, Action.create.injEq, reduceCtorEq, List.not_mem_nil,
      or_false] at created
    rcases created with ⟨-, -, -, rfl, -⟩ | ⟨-, -, -, rfl, -⟩ | ⟨-, -, -, rfl, -⟩
    · exact ⟨{}, 0, rfl, scripted _ _⟩
    · exact ⟨{ echo := true }, 1, rfl, scripted _ _⟩
    · exact ⟨{ echo := true }, 2, rfl, scripted _ _⟩
  have unwraps := unwraps_once .experimental convertedTwice
  exact ⟨returned, chain, unwraps.begun _ _ _ chain, plain, backed, (unwraps.plain plain backed).1⟩

end Host

end GraphPlugin
