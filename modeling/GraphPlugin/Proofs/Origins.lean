import GraphPlugin.Proofs.Lives
import GraphPlugin.Proofs.Losses

/-! Which library a fragment comes from, and who keeps it alive. While backends keep nothing and
hand back what holds nothing, and nobody takes a handle out of the one around it, a fragment that an
entry point made is held by bindings only. So while it is alive a handle that an operation returned
speaks for it. -/
namespace GraphPlugin

namespace Handle

def tag : Handle → Tag
  | fragment tag _ _ _ => tag
  | bound _ _ inner => inner.tag

theorem fragment_in_parts (h : Handle) : ∃ f ∈ h.parts, f.node = .fragment h.tag := by
  induction h using inner_induction with
  | step h ih =>
    cases h with
    | fragment tag content held shown => exact ⟨_, mem_parts_self _, rfl⟩
    | bound number library inner =>
      obtain ⟨f, hf, same⟩ := ih inner List.mem_cons_self
      exact ⟨f, parts_trans (inner_mem_parts List.mem_cons_self) hf, same⟩

theorem of_node_fragment {h : Handle} {tag : Tag} (same : h.node = .fragment tag) :
    h.tag = tag ∧ h.library? = none := by
  cases h with
  | fragment tag content held shown => exact ⟨Node.fragment.inj same, rfl⟩
  | bound number library inner => cases same

end Handle

/-- The response is a new fragment that holds nothing, or the very source, and nothing is kept. -/
inductive Response.Direct {s : Shape} {args : Arguments s} {stash : List Handle} :
    Response (args.known stash) → Prop
  | made (content : Fragment) (shown : Option Nat) : Direct ⟨.fragment content [] shown, [], false⟩
  | source (h : Handle) (given : h ∈ args.known stash) : args.source? = some h →
      Direct ⟨.known h given, [], false⟩

def Entry.Direct {s : Shape} (entry : Entry s) : Prop :=
  ∀ moment stash args response, entry.run moment stash args = .ok response → response.Direct

theorem Scripted.Script.direct_entry (script : Script) (number : Nat) (o : Operation) :
    ((script.backend number).entry o).Direct := by
  intro moment stash args response ran
  change script.run number o stash args = .ok response at ran
  unfold run at ran
  split at ran
  · cases ran
  · split at ran
    · next source given _ =>
      cases ran
      exact .source source _ given
    · cases ran
      exact .made _ none

namespace Host

open Handle (alive root_alive part_alive inner_alive)

variable {b : Build} {host : Host b} {actions : List Action} {action : Action}

theorem more_loses (b : Build) (actions more : List Action) :
    Loses ((start b).after actions).holdings (((start b).after actions).trace more)
      ((start b).after (actions ++ more)).holdings := by
  rw [after_append]
  exact (run_moves _ more).loses (after_balanced b actions)

theorem tag_issued {h : Handle} (ha : h ∈ alive ((start b).after actions).roots) :
    ((start b).after actions).holdings.fragments.Issued h.tag := by
  obtain ⟨f, hf, same⟩ := h.fragment_in_parts
  have issued := (after_balanced b actions).issued f (part_alive ha hf)
  rwa [same] at issued

/-- The fragment comes to be in an operation of an invoker that holds the library. -/
def Creates (library fragment : Tag) (host : Host b) (action : Action) : Prop :=
  (∃ name request result p, action = .invoke name request result ∧
      host.invokers.get? name = some p ∧ p.library? = some library) ∧
    ¬ host.holdings.fragments.Issued fragment ∧
      (host.step action).state.holdings.fragments.Issued fragment

def Created (host : Host b) (actions : List Action) (library fragment : Tag) : Prop :=
  host.Sometime actions (Creates library fragment)

theorem created_issued {library fragment : Tag}
    (created : (start b).Created actions library fragment) :
    ((start b).after actions).holdings.fragments.Issued fragment := by
  obtain ⟨before, action, rest, rfl, _, _, issued⟩ := created
  rw [← after_snoc] at issued
  have later := (more_loses b (before ++ [action]) rest).issued fragment issued
  rwa [List.append_assoc, List.singleton_append] at later

theorem shared_of_creates {library fragment : Tag}
    (creates : Creates library fragment ((start b).after actions) action) :
    (start b).Shared actions library := by
  obtain ⟨⟨name, _, _, p, _, found, holds⟩, _, _⟩ := creates
  exact .inl ⟨name, p, found, holds⟩

theorem created_opened {library fragment : Tag}
    (created : (start b).Created actions library fragment) :
    ((start b).after actions).holdings.libraries.Issued library := by
  obtain ⟨before, action, rest, rfl, creates⟩ := created
  have shared := (mem_shares_iff_shared b before library).2 (shared_of_creates creates)
  exact (more_settles b before (action :: rest)).issued library
    ((after_balanced b before).opened library (.inl shared))

theorem created_unique {first second fragment : Tag}
    (one : (start b).Created actions first fragment)
    (other : (start b).Created actions second fragment) : first = second := by
  induction actions using List.reverseRecOn with
  | nil => exact absurd one not_sometime_nil
  | append_singleton actions action ih =>
    rw [Created, sometime_snoc_iff] at one other
    rcases one with one | ⟨⟨name, _, _, p, invoked, found, holds⟩, new, _⟩ <;>
      rcases other with other | ⟨⟨name', _, _, q, again, there, too⟩, unissued, _⟩
    · exact ih one other
    · exact absurd (created_issued one) unissued
    · exact absurd (created_issued other) new
    · rw [invoked] at again
      cases again
      cases found.symm.trans there
      exact Option.some.inj (holds.symm.trans too)

/-- The operation returns a handle on a fragment that was there before. -/
def HandsBack (library : Tag) (h : Handle) (host : Host b) (action : Action) : Prop :=
  Returns library h host action ∧ host.holdings.fragments.Issued h.tag

theorem handed_back_of_foreign {owner maker : Tag} {k : Handle}
    (returned : (start b).Returned actions owner k)
    (created : (start b).Created actions maker k.tag) (foreign : owner ≠ maker) :
    (start b).Sometime actions (HandsBack owner k) := by
  obtain ⟨before, action, rest, rfl, returns⟩ := returned
  refine ⟨before, action, rest, rfl, returns, ?_⟩
  by_contra new
  have held := root_of_returns returns
  rw [← after_snoc] at held
  have issued := tag_issued (root_alive held)
  rw [after_snoc] at issued
  obtain ⟨name, request, result, p, invoked, found, holds, _⟩ := returns
  have creates : Creates owner k.tag ((start b).after before) action :=
    ⟨⟨name, request, result, p, invoked, found, holds⟩, new, issued⟩
  exact foreign (created_unique ⟨before, action, rest, rfl, creates⟩ created)

/-- Handles stay where they are put: nothing is taken out of the handle around it, the host's own
fragments hold one handle at most, and entry points hand back what they make, or their source. -/
structure Untangled (actions : List Action) : Prop where
  untaken : ∀ handle result, Action.takeInner handle result ∉ actions
  single : ∀ content holds shown result, Action.make content holds shown result ∈ actions →
    holds.length ≤ 1
  direct : Backed actions Entry.Direct

theorem Untangled.of_append {more : List Action} (untangled : Untangled (actions ++ more)) :
    Untangled actions where
  untaken handle result taken := untangled.untaken handle result (List.mem_append_left _ taken)
  single content holds shown result made :=
    untangled.single content holds shown result (List.mem_append_left _ made)
  direct := untangled.direct.of_append

/-- What a step of an untangled run leaves alive. -/
inductive Brings (host : Host b) (action : Action) : Handle → Prop
  | old {f} : f ∈ alive host.roots → Brings host action f
  | returned {library f} : Returns library f host action → Brings host action f
  | empty {tag content shown} : ¬ host.holdings.fragments.Issued tag →
      Brings host action (.fragment tag content [] shown)
  | made {tag content holds held shown result} : ¬ host.holdings.fragments.Issued tag →
      action = .make content holds shown result → host.findAll holds = .ok held →
      Brings host action (.fragment tag content held shown)

theorem brings_of_returned {library : Tag} {h f : Handle}
    (direct : ∀ {library : Tag} {o : Operation} {entry : Entry o.shape} {args : Arguments o.shape},
      Reaches host action library entry args → entry.Direct)
    (returns : Returns library h host action) (inside : f ∈ h.parts) : host.Brings action f := by
  obtain ⟨o, entry, args, response, _, _, reaches, ran, same, _⟩ := returns_answered returns
  have answered := direct reaches _ _ _ _ ran
  subst same
  rcases (Handle.mem_parts_iff _ f).1 inside with rfl | ⟨inner, same, inside⟩
  · exact .returned returns
  · obtain rfl := List.mem_singleton.1 same
    cases answered with
    | made content shown =>
      rcases (Handle.mem_parts_iff _ f).1 inside with rfl | ⟨i, none, _⟩
      · exact .empty (Tally.not_issued_next _ _)
      · cases none
    | source k given _ => exact .old (part_alive (reaches_known reaches k given) inside)

theorem direct_of_untangled (untangled : Untangled (actions ++ [action])) {library : Tag}
    {o : Operation} {entry : Entry o.shape} {args : Arguments o.shape}
    (reaches : Reaches ((start b).after actions) action library entry args) : entry.Direct :=
  kind_of_reaches untangled.of_append.direct reaches

theorem untangled_root_step (untangled : Untangled (actions ++ [action])) {r : Handle}
    (held : r ∈ (((start b).after actions).step action).state.roots) :
    r ∈ ((start b).after actions).roots ∨
      (∃ library, Returns library r ((start b).after actions) action) ∨
      ∃ tag content holds held shown result, action = .make content holds shown result ∧
        ((start b).after actions).findAll holds = .ok held ∧
        r = .fragment tag content held shown ∧
        ¬ ((start b).after actions).holdings.fragments.Issued tag := by
  have last : action ∈ actions ++ [action] := by simp
  rcases (mem_roots_iff _ r).1 held with ⟨name, found⟩ | stashed
  · cases named_step found with
    | kept old => exact .inl (root_of_find old)
    | returned returns => exact .inr (.inl ⟨_, returns⟩)
    | made holds => exact .inr (.inr ⟨_, _, _, _, _, _, rfl, holds, rfl, Tally.not_issued_next _ _⟩)
    | taken _ _ => exact absurd last (untangled.untaken _ _)
  · rcases stashed_step stashed with old | ⟨library, o, entry, args, response, reaches, ran, kept⟩
    · exact .inl (List.mem_append_right _ old)
    · rw [Holdings.stash_accept] at kept
      cases direct_of_untangled untangled reaches _ _ _ _ ran with
      | made content shown => exact .inl (List.mem_append_right _ kept)
      | source k given _ => exact .inl (List.mem_append_right _ kept)

theorem brings_step (untangled : Untangled (actions ++ [action])) {f : Handle}
    (fa : f ∈ alive (((start b).after actions).step action).state.roots) :
    ((start b).after actions).Brings action f := by
  obtain ⟨r, held, inside⟩ := (Handle.mem_alive_iff _ f).1 fa
  rcases untangled_root_step untangled held with
    old | ⟨library, returns⟩ | ⟨_, _, _, _, _, _, made, holds, rfl, new⟩
  · exact .old (part_alive (root_alive old) inside)
  · exact brings_of_returned (direct_of_untangled untangled) returns inside
  · rcases (Handle.mem_parts_iff _ f).1 inside with rfl | ⟨i, hi, inside⟩
    · exact .made new made holds
    · exact .old (part_alive (root_alive (root_of_findAll holds i hi)) inside)

/-- The handle is held from outside, or by a live fragment. -/
def Exposed (host : Host b) (j : Handle) : Prop :=
  j ∈ host.roots ∨ ∃ f ∈ alive host.roots, f.library? = none ∧ j ∈ f.inners

theorem Exposed.alive {j : Handle} (exposed : host.Exposed j) : j ∈ alive host.roots := by
  rcases exposed with held | ⟨f, fa, _, inside⟩
  · exact root_alive held
  · exact inner_alive fa inside

theorem exposed_step (untangled : Untangled (actions ++ [action])) {j : Handle}
    (exposed : (((start b).after actions).step action).state.Exposed j) :
    ((start b).after actions).Exposed j ∨
      (∃ library, Returns library j ((start b).after actions) action) ∨
      (¬ ((start b).after actions).holdings.fragments.Issued j.tag ∧
        ∀ library, ¬ Creates library j.tag ((start b).after actions) action) := by
  rcases exposed with held | ⟨f, fa, unbound, inside⟩
  · rcases untangled_root_step untangled held with
      old | returned | ⟨tag, _, _, _, _, _, rfl, _, rfl, new⟩
    · exact .inl (.inl old)
    · exact .inr (.inl returned)
    · refine .inr (.inr ⟨new, ?_⟩)
      rintro library ⟨⟨_, _, _, _, invoked, _⟩, _⟩
      cases invoked
  · cases brings_step untangled fa with
    | old fa => exact .inl (.inr ⟨f, fa, unbound, inside⟩)
    | returned returns =>
      rw [returns_library returns] at unbound
      contradiction
    | empty _ => cases inside
    | made _ _ holds => exact .inl (.inl (root_of_findAll holds j inside))

theorem not_created_of_exposed (untangled : Untangled actions) {j : Handle}
    (exposed : ((start b).after actions).Exposed j) (unbound : j.library? = none) (library : Tag) :
    ¬ (start b).Created actions library j.tag := by
  induction actions using List.reverseRecOn with
  | nil => exact not_sometime_nil
  | append_singleton actions action ih =>
    rw [after_snoc] at exposed
    rw [Created, sometime_snoc_iff]
    rintro (created | creates)
    · rcases exposed_step untangled exposed with before | ⟨_, returned⟩ | ⟨unissued, _⟩
      · exact ih untangled.of_append before created
      · rw [returns_library returned] at unbound
        contradiction
      · exact unissued (created_issued created)
    · rcases exposed_step untangled exposed with before | ⟨_, returned⟩ | ⟨_, others⟩
      · exact creates.2.1 (tag_issued before.alive)
      · rw [returns_library returned] at unbound
        contradiction
      · exact others library creates

/-- While a fragment that an entry point made is alive, so is a returned handle that speaks for it.
-/
theorem returned_speaks_for (untangled : Untangled actions) {j : Handle} {library : Tag}
    (ja : j ∈ alive ((start b).after actions).roots) (unbound : j.library? = none)
    (created : (start b).Created actions library j.tag) :
    ∃ k owner, (start b).Returned actions owner k ∧ k ∈ alive ((start b).after actions).roots ∧
      k.tag = j.tag := by
  obtain ⟨r, held, hr⟩ := (Handle.mem_alive_iff _ j).1 ja
  rcases Handle.part_parent hr with rfl | ⟨p, hp, inside⟩
  · exact absurd created (not_created_of_exposed untangled (.inl held) unbound library)
  · have pa := (Handle.mem_alive_iff _ p).2 ⟨r, held, hp⟩
    cases p with
    | fragment tag content held shown =>
      exact absurd created
        (not_created_of_exposed untangled (.inr ⟨_, pa, rfl, inside⟩) unbound library)
    | bound number owner inner =>
      obtain rfl := List.mem_singleton.1 inside
      exact ⟨_, owner, returned_of_alive pa rfl, pa, rfl⟩

theorem holds_of_untangled (untangled : Untangled actions) {h : Handle}
    (ha : h ∈ alive ((start b).after actions).roots) :
    h.inners.length ≤ 1 ∧ ∀ library, h.library? = none →
      (start b).Created actions library h.tag → h.inners = [] := by
  induction actions using List.reverseRecOn with
  | nil => exact absurd ha List.not_mem_nil
  | append_singleton actions action ih =>
    rw [after_snoc] at ha
    cases brings_step untangled ha with
    | old ha =>
      obtain ⟨single, none⟩ := ih untangled.of_append ha
      refine ⟨single, fun library unbound created => ?_⟩
      rcases sometime_snoc_iff.1 created with earlier | creates
      · exact none library unbound earlier
      · exact absurd (tag_issued ha) creates.2.1
    | returned returns =>
      obtain ⟨number, inner, rfl, _⟩ := returns_bound returns
      exact ⟨Nat.le_refl 1, fun _ unbound => nomatch unbound⟩
    | empty _ => exact ⟨Nat.zero_le 1, fun _ _ _ => rfl⟩
    | @made tag content holds held shown result new made found =>
      have length := congrArg List.length ((findAll_eq_ok_iff _ _ _).1 found)
      rw [List.length_map, List.length_map] at length
      refine ⟨length ▸ untangled.single content holds shown result (by simp [made]), ?_⟩
      intro library _ created
      rcases sometime_snoc_iff.1 created with earlier | ⟨⟨_, _, _, _, invoked, _⟩, _⟩
      · exact absurd (created_issued earlier) new
      · rw [made] at invoked
        cases invoked

end Host

end GraphPlugin
