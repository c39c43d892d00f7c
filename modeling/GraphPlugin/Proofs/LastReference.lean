import GraphPlugin.Proofs.Drops
import GraphPlugin.Proofs.Origins
import GraphPlugin.Proofs.Dispatch

/-! What becomes of a fragment in a run of a host. It is referred to from the step that makes it on;
the step that takes the last reference away drops it, whatever the policy of any invoker; and
nothing is left when all handles are gone. -/
namespace GraphPlugin

/-- The entry point keeps nothing beyond what it hands back. -/
def Entry.KeepsNothing {s : Shape} (entry : Entry s) : Prop :=
  ∀ moment stash args response, entry.run moment stash args = .ok response →
    response.stashed = [] ∧ response.stashesBack = false

namespace Holdings

section Products

variable {known : List Handle} {fragment : Tag}

mutual

theorem made_build (origin : Origin) : ∀ (product : Product known) (s : Holdings),
    (s.build origin product).2.fragments.Issued fragment →
      s.fragments.Issued fragment ∨
        ∃ k ∈ (s.build origin product).1.parts, k.node = .fragment fragment
  | .known _ _, _, issued => .inl issued
  | .fragment _ held _, s, issued => by
    rcases (Tally.issued_advance_iff _ _ _).1 issued with rfl | earlier
    · exact .inr ⟨_, Handle.mem_parts_self _, rfl⟩
    · refine (made_buildAll origin held s earlier).imp_right ?_
      rintro ⟨h, hh, k, hk, node⟩
      exact ⟨k, Handle.parts_trans (Handle.inner_mem_parts hh) hk, node⟩

theorem made_buildAll (origin : Origin) : ∀ (products : List (Product known)) (s : Holdings),
    (s.buildAll origin products).2.fragments.Issued fragment →
      s.fragments.Issued fragment ∨
        ∃ h ∈ (s.buildAll origin products).1, ∃ k ∈ h.parts, k.node = .fragment fragment
  | [], _, issued => .inl issued
  | product :: rest, s, issued => by
    rcases made_buildAll origin rest _ issued with earlier | ⟨h, hh, found⟩
    · refine (made_build origin product s earlier).imp_right fun found => ?_
      exact ⟨_, List.mem_cons_self, found⟩
    · exact .inr ⟨h, List.mem_cons_of_mem _ hh, found⟩

end

theorem made_accept {s : Holdings} {origin : Origin} {response : Response known}
    (issued : (s.accept origin response).2.fragments.Issued fragment) :
    s.fragments.Issued fragment ∨ ∃ h, (h = (s.accept origin response).1 ∨
      h ∈ (s.accept origin response).2.stash) ∧ ∃ k ∈ h.parts, k.node = .fragment fragment := by
  rcases made_buildAll origin response.stashed _ issued with earlier | ⟨h, hh, found⟩
  · exact (made_build origin response.back s earlier).imp_right fun found => ⟨_, .inl rfl, found⟩
  · refine .inr ⟨h, .inr ?_, found⟩
    rw [stash_accept]
    simp [hh]

end Products

end Holdings

namespace Host

open Handle (alive root_alive part_alive inner_alive)

variable {b : Build} {host : Host b} {actions : List Action} {action : Action} {fragment : Tag}

/-- A handle is in use when it has a name, when a backend has kept it, or when a binding or a
fragment that is in use holds it. -/
inductive Held (host : Host b) : Handle → Prop
  | named {name h} : host.handles.get? name = some h → Held host h
  | stashed {h} : h ∈ host.holdings.stash → Held host h
  | bound {number library inner} : Held host (.bound number library inner) → Held host inner
  | fragment {tag content held shown h} : Held host (.fragment tag content held shown) →
      h ∈ held → Held host h

def Referenced (host : Host b) (fragment : Tag) : Prop :=
  ∃ h, host.Held h ∧ h.node = .fragment fragment

theorem held_of_part {r h : Handle} (held : host.Held r) (inside : h ∈ r.parts) : host.Held h := by
  induction r using Handle.inner_induction with
  | step r ih =>
    rcases (Handle.mem_parts_iff r h).1 inside with rfl | ⟨i, hi, inside⟩
    · exact held
    · refine ih i hi ?_ inside
      cases r with
      | fragment tag content others shown => exact held.fragment hi
      | bound number library inner =>
        obtain rfl := List.mem_singleton.1 hi
        exact held.bound

theorem held_iff_alive {h : Handle} : host.Held h ↔ h ∈ alive host.roots := by
  constructor
  · intro held
    induction held with
    | named found => exact root_alive (root_of_find found)
    | stashed kept => exact root_alive (List.mem_append_right _ kept)
    | bound _ outer => exact inner_alive outer List.mem_cons_self
    | fragment _ inside outer => exact inner_alive outer inside
  · intro ha
    obtain ⟨r, root, hr⟩ := (Handle.mem_alive_iff _ h).1 ha
    rcases (mem_roots_iff host r).1 root with ⟨name, found⟩ | kept
    · exact held_of_part (.named found) hr
    · exact held_of_part (.stashed kept) hr

theorem referenced_iff_counted (b : Build) (actions : List Action) (fragment : Tag) :
    ((start b).after actions).Referenced fragment ↔
      Node.fragment fragment ∈ ((start b).after actions).holdings.refs := by
  have bal := after_balanced b actions
  constructor
  · rintro ⟨h, held, node⟩
    rw [← node]
    exact bal.mem_refs_of_alive (held_iff_alive.1 held)
  · intro counted
    obtain ⟨h, ha, node⟩ := bal.alive_of_mem_refs counted
    exact ⟨h, held_iff_alive.2 ha, node⟩

theorem issued_of_referenced (referenced : ((start b).after actions).Referenced fragment) :
    ((start b).after actions).holdings.fragments.Issued fragment := by
  obtain ⟨h, held, node⟩ := referenced
  have issued := (after_balanced b actions).issued h (held_iff_alive.1 held)
  rwa [node] at issued

theorem lost_iff (b : Build) (actions : List Action) (fragment : Tag) :
    ((start b).after actions).holdings.Lost fragment ↔
      ((start b).after actions).holdings.fragments.Issued fragment ∧
        ¬ ((start b).after actions).Referenced fragment := by
  rw [referenced_iff_counted]
  rfl

/-- The step makes the fragment: the host does so itself, or it is new in what an entry point that
the step calls hands back or keeps. -/
inductive Makes (fragment : Tag) (host : Host b) : Action → Prop
  | host {content holds shown result h} :
      (host.step (.make content holds shown result)).answer = .handle h →
      h.node = .fragment fragment → Makes fragment host (.make content holds shown result)
  | entryPoint {action library} {h k : Handle} {o : Operation} {entry : Entry o.shape}
      {args : Arguments o.shape}
      {response : Response (args.unwrapped.known host.holdings.stash)} :
      Reaches host action library entry args → host.answerOf entry args = .ok response →
      (h = (host.holdings.called.accept library.origin response).1 ∨
        h ∈ (host.holdings.called.accept library.origin response).2.stash) →
      k ∈ h.parts → k.node = .fragment fragment →
      ¬ host.holdings.fragments.Issued fragment → Makes fragment host action

theorem fragments_answerHandle (result : String) (h : Handle) (s : Holdings)
    (events : List Event) :
    (host.answerHandle result h s events).state.holdings.fragments = s.fragments := by
  obtain ⟨refs, shares, same⟩ := host.holdings_answerHandle result h s events
  rw [same]

theorem fragments_init (p : Invoker b) (s : Holdings) :
    (p.init s).state.2.fragments = s.fragments := by
  have outcome := p.init_cases s
  generalize p.init s = result at outcome ⊢
  cases outcome <;> rfl

theorem makes_of_issued (new : ¬ host.holdings.fragments.Issued fragment)
    (issued : (host.step action).state.holdings.fragments.Issued fragment) :
    Makes fragment host action := by
  have outcome := host.step_cases action
  generalize same : host.step action = result at outcome issued
  have nothing : result.state.holdings.fragments ≠ host.holdings.fragments :=
    fun same => new (same ▸ issued)
  cases outcome with
  | @made content holds shown result held named =>
    rw [fragments_answerHandle] at issued
    have next := ((Tally.issued_advance_iff _ _ _).1 issued).resolve_right new
    exact .host (congrArg Outcome.answer same) (congrArg Node.fragment next.symm)
  | @invoked name request result o args p found asked =>
    have invokes := stepInvoke_invokes found asked result
    generalize host.stepInvoke p o args result = invoked at invokes issued
    cases invokes with
    | refused => exact absurd issued new
    | answered _ reaches ran =>
      rw [fragments_answerHandle] at issued
      obtain ⟨h, given, k, inside, node⟩ := (Holdings.made_accept issued).resolve_left new
      exact .entryPoint reaches ran given inside node new
  | created _ =>
    obtain ⟨shares, kept⟩ := host.holdings_keepInvoker _ _
    exact absurd (congrArg Holdings.fragments kept) nothing
  | closed _ =>
    obtain ⟨shares, kept⟩ := close_fst _ host.holdings
    exact absurd (congrArg Holdings.fragments kept) nothing
  | initialised _ => exact absurd (fragments_init _ _) nothing
  | cloned _ => exact absurd (fragments_answerHandle _ _ _ _) nothing
  | taken _ _ => exact absurd (fragments_answerHandle _ _ _ _) nothing
  | dropped _ =>
    obtain ⟨refs, shares, kept⟩ := host.holdings.drop_fst _
    exact absurd (congrArg Holdings.fragments kept) nothing
  | @unstashed place h _ =>
    obtain ⟨refs, shares, kept⟩ := (host.holdings.unstash place).drop_fst h
    exact absurd (congrArg Holdings.fragments kept) nothing
  | refused => exact absurd rfl nothing
  | policySet _ => exact absurd rfl nothing
  | inspected => exact absurd rfl nothing
  | described => exact absurd rfl nothing
  | hollow => exact absurd rfl nothing
  | absent => exact absurd rfl nothing

theorem made_by_host {content : Fragment} {holds : List String} {shown : Option Nat}
    {result : String} {h : Handle}
    (answer : (host.step (.make content holds shown result)).answer = .handle h) :
    h ∈ (host.step (.make content holds shown result)).state.roots ∧
      ∀ tag, h.node = .fragment tag → ¬ host.holdings.fragments.Issued tag := by
  have outcome := host.step_cases (.make content holds shown result)
  generalize host.step (.make content holds shown result) = taken at outcome answer ⊢
  cases outcome with
  | refused => cases answer
  | made _ =>
    cases answer
    refine ⟨root_answerHandle _ _ _ _, fun tag node => ?_⟩
    cases node
    exact Tally.not_issued_next _ _

theorem held_of_makes (makes : Makes fragment host action) :
    (host.step action).state.Referenced fragment := by
  cases makes with
  | host answer node => exact ⟨_, held_iff_alive.2 (root_alive (made_by_host answer).1), node⟩
  | @entryPoint _ library h k o entry args response reaches ran given inside node _ =>
    obtain ⟨result, events, step⟩ := step_of_reaches reaches ran
    refine ⟨k, held_of_part ?_ inside, node⟩
    rw [step]
    rcases given with rfl | kept
    · exact (held_iff_alive.2 (root_alive (root_answerHandle _ _ _ _))).bound
    · refine .stashed ?_
      rw [stash_answerHandle]
      exact kept

theorem new_of_makes (makes : Makes fragment host action) :
    ¬ host.holdings.fragments.Issued fragment := by
  cases makes with
  | host answer node => exact (made_by_host answer).2 fragment node
  | entryPoint _ _ _ _ _ new => exact new

theorem issued_of_made (made : (start b).Sometime actions (Makes fragment)) :
    ((start b).after actions).holdings.fragments.Issued fragment := by
  obtain ⟨before, action, rest, rfl, makes⟩ := made
  have held := held_of_makes makes
  rw [← after_snoc] at held
  have later := (more_loses b (before ++ [action]) rest).issued fragment (issued_of_referenced held)
  rwa [List.append_assoc, List.singleton_append] at later

theorem made_of_issued (issued : ((start b).after actions).holdings.fragments.Issued fragment) :
    (start b).Sometime actions (Makes fragment) := by
  induction actions using List.reverseRecOn with
  | nil => exact absurd issued (Tally.not_issued_empty fragment)
  | append_singleton actions action ih =>
    rw [after_snoc] at issued
    by_cases earlier : ((start b).after actions).holdings.fragments.Issued fragment
    · exact sometime_snoc_iff.2 (.inl (ih earlier))
    · exact sometime_snoc_iff.2 (.inr (makes_of_issued earlier issued))

theorem step_loses (b : Build) (actions : List Action) (action : Action) :
    Loses ((start b).after actions).holdings (((start b).after actions).step action).events
      ((start b).after (actions ++ [action])).holdings := by
  rw [after_snoc]
  exact (step_moves _ action).loses (after_balanced b actions)

/-- A step drops a fragment when it takes the last reference away. -/
theorem dropped_iff_unreferenced (b : Build) (actions : List Action) (action : Action)
    (fragment : Tag) :
    Event.dropped fragment ∈ (((start b).after actions).step action).events ↔
      ((start b).after actions).Referenced fragment ∧
        ¬ (((start b).after actions).step action).state.Referenced fragment := by
  have loses := step_loses b actions action
  have lost := loses.lost fragment
  rw [lost_iff, lost_iff] at lost
  rw [← after_snoc]
  constructor
  · intro dropped
    obtain ⟨issued, unreferenced⟩ := lost.2 (.inr dropped)
    refine ⟨?_, unreferenced⟩
    by_cases earlier : ((start b).after actions).holdings.fragments.Issued fragment
    · obtain ⟨front, back, split⟩ := List.append_of_mem dropped
      obtain ⟨s, h, roots, owners, _, node, _, _, was⟩ :=
        (step_moves _ action).lastHeld (after_balanced b actions) split
      have ha := was h fragment (root_alive List.mem_cons_self) node earlier
      exact ⟨h, held_iff_alive.2 ha, node⟩
    · rw [after_snoc] at issued unreferenced
      exact absurd (held_of_makes (makes_of_issued earlier issued)) unreferenced
  · rintro ⟨referenced, unreferenced⟩
    have issued := issued_of_referenced referenced
    rcases lost.1 ⟨loses.issued fragment issued, unreferenced⟩ with ⟨_, before⟩ | dropped
    · exact absurd referenced before
    · exact dropped

theorem drops_trace_le_one (b : Build) (actions : List Action) (fragment : Tag) :
    drops ((start b).trace actions) fragment ≤ 1 := by
  apply drops_le_one
  intro front back split
  exact (((start b).run_moves actions).lastHeld (start_balanced b) split).not_dropped_before

theorem outer_dropped_first {before rest : List Action} {content : Fragment}
    {held : List Handle} {shown : Option Nat} {i k : Handle} {inside : Tag}
    (outer : ((start b).after before).Held (.fragment fragment content held shown))
    (holds : i ∈ held) (within : k ∈ i.parts) (node : k.node = .fragment inside)
    {front back : List Event}
    (split : (start b).trace (before ++ rest) = front ++ .dropped inside :: back) :
    Event.dropped fragment ∈ front := by
  have bal := after_balanced b before
  have outer := held_iff_alive.1 outer
  rw [trace_append] at split
  rcases append_split split with ⟨more, earlier⟩ | ⟨more, rfl, later⟩
  · have dropped : Event.dropped inside ∈ (start b).trace before := by simp [earlier]
    have counted := bal.mem_refs_of_alive (part_alive (inner_alive outer holds) within)
    rw [node] at counted
    exact absurd counted ((dropped_iff_lost b before inside).1 dropped).2
  · have last := (run_moves _ rest).lastHeld bal later
    exact List.mem_append_right _ (last.outer_dropped_before bal outer rfl holds within node)

theorem released_last_of_drop {name : String} {number : Nat} {library : Tag} {inner : Handle}
    (found : ((start b).after actions).handles.get? name = some (.bound number library inner))
    {first last : List Event}
    (split : (((start b).after actions).step (.drop name)).events =
      first ++ .released library :: last) : last = [] := by
  have split_roots := (Keyed.values_perm_of_get? found).append_right
    ((start b).after actions).holdings.stash
  have bal := (after_balanced b actions).reorder split_roots (.refl _)
  have events : (((start b).after actions).step (.drop name)).events =
      (((start b).after actions).holdings.drop (.bound number library inner)).2 := by
    rw [step, (find_eq_ok_iff _ _ _).2 found]
  rw [events] at split
  exact bal.released_last split

theorem stash_of_keepsNothing (keepsNothing : Backed actions Entry.KeepsNothing) :
    ((start b).after actions).holdings.stash = [] := by
  rw [List.eq_nil_iff_forall_not_mem]
  intro k stashed
  induction actions using List.reverseRecOn with
  | nil => cases stashed
  | append_singleton actions action ih =>
    have earlier := keepsNothing.of_append
    rw [after_snoc] at stashed
    rcases stashed_step stashed with old | ⟨library, o, entry, args, response, reaches, ran, kept⟩
    · exact ih earlier old
    · obtain ⟨nothing, again⟩ := kind_of_reaches earlier reaches _ _ _ _ ran
      rw [Holdings.stash_accept, nothing, again] at kept
      exact ih earlier kept

theorem unkept_after (unkept : host.holdings.stash = [])
    (idle : ∀ name request result, Action.invoke name request result ∉ actions) :
    (host.after actions).holdings.stash = [] := by
  induction actions generalizing host with
  | nil => exact unkept
  | cons action rest ih =>
    refine ih (List.eq_nil_iff_forall_not_mem.2 fun k stashed => ?_)
      fun name request result among => idle name request result (List.mem_cons_of_mem _ among)
    rcases stashed_step stashed with old | ⟨_, _, _, _, _, reaches, _⟩
    · rw [unkept] at old
      cases old
    · obtain ⟨name, request, result, _, _, _, rfl, _⟩ := reaches
      exact idle name request result List.mem_cons_self

theorem dropped_iff_of_made (made : (start b).Sometime actions (Makes fragment)) :
    Event.dropped fragment ∈ (start b).trace actions ↔
      ¬ ((start b).after actions).Referenced fragment := by
  rw [dropped_iff_lost, lost_iff]
  exact and_iff_right (issued_of_made made)

theorem drops_of_no_handles (made : (start b).Sometime actions (Makes fragment))
    (none : ∀ name, ((start b).after actions).handles.get? name = none)
    (unkept : ((start b).after actions).holdings.stash = []) :
    drops ((start b).trace actions) fragment = 1 := by
  have unreferenced : ¬ ((start b).after actions).Referenced fragment := by
    rintro ⟨h, held, _⟩
    obtain ⟨r, root, _⟩ := (Handle.mem_alive_iff _ h).1 (held_iff_alive.1 held)
    rcases (mem_roots_iff _ r).1 root with ⟨name, found⟩ | kept
    · rw [none name] at found
      cases found
    · rw [unkept] at kept
      cases kept
  have dropped := (dropped_iff_of_made made).2 unreferenced
  have once := drops_trace_le_one b actions fragment
  have some := (drops_pos_iff _ _).2 dropped
  omega

theorem handles_close (name : String) : (host.step (.close name)).state.handles = host.handles := by
  have outcome := host.step_cases (.close name)
  generalize host.step (.close name) = result at outcome ⊢
  cases outcome <;> rfl

theorem handles_drop (name : String) :
    (host.step (.drop name)).state.handles = host.handles.erase name := by
  rw [step, find]
  cases found : host.handles.get? name with
  | none => exact (Keyed.erase_of_get?_none found).symm
  | some h => rfl

theorem handles_closes (names : List String) :
    (host.after (names.map .close)).handles = host.handles := by
  induction names generalizing host with
  | nil => rfl
  | cons name rest ih => exact ih.trans (handles_close name)

theorem handles_drops (names : List String) {other : String}
    (gone : other ∈ names ∨ host.handles.get? other = none) :
    (host.after (names.map .drop)).handles.get? other = none := by
  induction names generalizing host with
  | nil => exact gone.resolve_left List.not_mem_nil
  | cons name rest ih =>
    apply ih
    rw [handles_drop, Keyed.get?_erase]
    by_cases here : other = name
    · exact .inr (if_pos here)
    · rw [if_neg here]
      exact gone.imp_left fun among => (List.mem_cons.1 among).resolve_left here

theorem no_handles_after_shutDown (host : Host b) (name : String) :
    (host.after (host.invokers.keys.map .close ++ host.handles.keys.map .drop)).handles.get? name =
      none := by
  rw [after_append]
  apply handles_drops
  rw [handles_closes]
  cases found : host.handles.get? name with
  | none => exact .inr rfl
  | some h => exact .inl (List.mem_map.2 ⟨_, (Keyed.get?_eq_some_iff _ _ _).1 found, rfl⟩)

/-- What becomes of a fragment in a run: it is made at one step and referred to after that step; it
is dropped once at most, by the step that takes the last reference away, and before what it holds.
When a library goes in the same step, the fragment goes first, unless it was held beside a binding
to the library by the handle that went; and the library that a dropped handle is bound to goes last.
The fragment has been dropped when nothing refers to it any more, so at the latest when all handles
are gone and backends have kept none. -/
structure GoesWithLastReference (b : Build) (actions : List Action) (fragment : Tag) : Prop where
  born : ((start b).after actions).Referenced fragment → (start b).Sometime actions (Makes fragment)
  new : ∀ before action rest, actions = before ++ action :: rest →
    Makes fragment ((start b).after before) action → ¬ (start b).Sometime before (Makes fragment)
  made : (start b).Always actions fun host action =>
    Makes fragment host action → (host.step action).state.Referenced fragment
  once : drops ((start b).trace actions) fragment ≤ 1
  last : (start b).Always actions fun host action =>
    (Event.dropped fragment ∈ (host.step action).events ↔
      host.Referenced fragment ∧ ¬ (host.step action).state.Referenced fragment)
  outer : ∀ before rest content held shown i k inside, actions = before ++ rest →
    ((start b).after before).Held (.fragment fragment content held shown) → i ∈ held →
      k ∈ i.parts → k.node = .fragment inside → ∀ front back,
        (start b).trace actions = front ++ .dropped inside :: back → Event.dropped fragment ∈ front
  released : (start b).Always actions fun host action => ∀ library first last,
    (host.step action).events = first ++ .released library :: last →
      Event.dropped fragment ∈ last → ∃ old ∈ host.roots,
        (∃ j ∈ old.parts, j.library? = some library) ∧
          ∃ k, old.Beside library k ∧ k.node = .fragment fragment
  bound : (start b).Always actions fun host action => ∀ name number library inner,
    action = .drop name → host.handles.get? name = some (.bound number library inner) →
      ∀ first last, (host.step action).events = first ++ .released library :: last → last = []
  unleaked : (start b).Sometime actions (Makes fragment) →
    (Event.dropped fragment ∈ (start b).trace actions ↔
      ¬ ((start b).after actions).Referenced fragment)
  unkept : Backed actions Entry.KeepsNothing → ((start b).after actions).holdings.stash = []
  emptied : (start b).Sometime actions (Makes fragment) →
    (∀ name, ((start b).after actions).handles.get? name = none) →
      ((start b).after actions).holdings.stash = [] →
        drops ((start b).trace actions) fragment = 1
  ended : (start b).Sometime actions (Makes fragment) →
    ((start b).after actions).holdings.stash = [] →
      drops ((start b).trace actions ++ ((start b).after actions).shutDown.2) fragment = 1

/-- Fragments are neither leaked nor dropped early. -/
theorem goes_with_last_reference (b : Build) (actions : List Action) (fragment : Tag) :
    GoesWithLastReference b actions fragment where
  born referenced := made_of_issued (issued_of_referenced referenced)
  new before action rest _ makes made := new_of_makes makes (issued_of_made made)
  made before action rest _ makes := held_of_makes makes
  once := drops_trace_le_one b actions fragment
  last before action rest _ := dropped_iff_unreferenced b before action fragment
  outer before rest content held shown i k inside split outer holds
    within node front back trace := by
    subst split
    exact outer_dropped_first outer holds within node trace
  released before action rest _ library first last split dropped :=
    beside_of_dropped_after (after_balanced b before) split dropped
  bound before action rest _ name number library inner drop found first last split := by
    subst drop
    exact released_last_of_drop found split
  unleaked made := dropped_iff_of_made made
  unkept keepsNothing := stash_of_keepsNothing keepsNothing
  emptied made none unkept := drops_of_no_handles made none unkept
  ended made unkept := by
    let closing := ((start b).after actions).invokers.keys.map Action.close ++
      ((start b).after actions).handles.keys.map Action.drop
    have none : ∀ name, ((start b).after (actions ++ closing)).handles.get? name = none := by
      rw [after_append]
      exact no_handles_after_shutDown _
    have idle : ∀ name request result, Action.invoke name request result ∉ closing := by
      simp [closing]
    have nothing : ((start b).after (actions ++ closing)).holdings.stash = [] := by
      rw [after_append]
      exact unkept_after unkept idle
    have once := drops_of_no_handles (made.more closing) none nothing
    rw [trace_append] at once
    exact once

end Host

end GraphPlugin
