import GraphPlugin.Proofs.Drops
import GraphPlugin.Proofs.Origins

/-! Whether a handle can outlive the code of its fragment. An entry point may hand back its source
or what it has kept, and the result is bound to its own library, not to the one that made the
fragment. Such a handle is safe just as long as somebody else keeps the other library. -/
namespace GraphPlugin

theorem Handle.Beside.unbound_of_single {library : Tag} {h k : Handle}
    (beside : h.Beside library k) (single : ∀ j ∈ h.parts, j.inners.length ≤ 1)
    (innermost : k.inners = []) (unbound : k.library? = none) :
    ∀ j ∈ h.parts, j.library? ≠ some library := by
  induction beside with
  | self h =>
    intro j hj
    rw [parts_eq, innermost, List.flatMap_nil, List.mem_singleton] at hj
    simp [hj, unbound]
  | @inside h i k foreign hi _ ih =>
    intro j hj
    obtain ⟨only, same⟩ := List.length_eq_one_iff.1
      (Nat.le_antisymm (single h h.mem_parts_self) (List.length_pos_of_mem hi))
    rcases (mem_parts_iff h j).1 hj with rfl | ⟨i', hi', hj⟩
    · exact foreign
    · rw [same, List.mem_singleton] at hi hi'
      subst hi hi'
      have held : i' ∈ h.inners := by simp [same]
      exact ih (fun j hj => single j (parts_trans (inner_mem_parts held) hj)) innermost unbound j hj

namespace Host

open Handle (alive root_alive part_alive)

variable {b : Build}

/-- No returned handle that is alive speaks for a fragment whose library has been released. -/
def Safe (host : Host b) (actions : List Action) : Prop :=
  ∀ k owner maker, host.Returned actions owner k → k ∈ alive (host.after actions).roots →
    host.Created actions maker k.tag → Event.released maker ∉ host.trace actions

/-- The library that made the fragment of a live returned handle is shared or to stay, also where no
binding in the handle is to that library. -/
def Secured (host : Host b) (actions : List Action) : Prop :=
  ∀ k owner maker, host.Returned actions owner k → k ∈ alive (host.after actions).roots →
    host.Created actions maker k.tag → (∀ j ∈ k.parts, j.library? ≠ some maker) →
    host.Shared actions maker ∨ host.Stays actions maker

/-- Before a library is released all fragments that its entry points made are dropped. -/
def DropsFirst (host : Host b) (actions : List Action) : Prop :=
  ∀ maker fragment, host.Created actions maker fragment → ∀ front back,
    host.trace actions = front ++ .released maker :: back → Event.dropped fragment ∈ front

theorem safe_iff_secured (b : Build) (actions : List Action) :
    (start b).Safe actions ↔ (start b).Secured actions := by
  constructor
  · intro safe k owner maker returned ka created _
    have unreleased := safe k owner maker returned ka created
    rw [released_iff] at unreleased
    have opened := created_opened created
    by_contra neither
    exact unreleased ⟨opened, not_or.1 neither⟩
  · intro secured k owner maker returned ka created released
    obtain ⟨_, unshared, leaves⟩ := (released_iff b actions maker).1 released
    -- A binding to the maker inside the handle is itself a share of the maker.
    have foreign : ∀ j ∈ k.parts, j.library? ≠ some maker := by
      intro j hj bound
      have ja := part_alive ka hj
      exact unshared (.inr ⟨j, returned_of_alive ja bound, ja⟩)
    rcases secured k owner maker returned ka created foreign with shared | stays
    · exact unshared shared
    · exact leaves stays

/-- An operation hands back a fragment that another library has made. -/
def Crosses (host : Host b) (actions : List Action) : Prop :=
  ∃ k owner maker, host.Sometime actions (HandsBack owner k) ∧
    host.Created actions maker k.tag ∧ owner ≠ maker

theorem safe_of_not_crosses {actions : List Action} (apart : ¬ (start b).Crosses actions) :
    (start b).Safe actions := by
  rw [safe_iff_secured]
  intro k owner maker returned _ created unbound
  have foreign : owner ≠ maker := by
    rintro rfl
    exact unbound k (k.mem_parts_self) returned.library
  have back := handed_back_of_foreign returned created foreign
  exact absurd ⟨k, owner, maker, back, created, foreign⟩ apart

theorem created_before_release {sofar later : List Action} {maker fragment : Tag}
    (created : (start b).Created (sofar ++ later) maker fragment)
    (released : Event.released maker ∈ (start b).trace sofar) :
    (start b).Created sofar maker fragment := by
  induction later using List.reverseRecOn with
  | nil => simpa using created
  | append_singleton later action ih =>
    rw [← List.append_assoc, Created, sometime_snoc_iff] at created
    rcases created with before | creates
    · exact ih before
    · have still : Event.released maker ∈ (start b).trace (sofar ++ later) := by
        rw [trace_append]
        exact List.mem_append_left _ released
      obtain ⟨_, unshared, _⟩ := (released_iff b _ maker).1 still
      exact absurd (shared_of_creates creates) unshared

theorem not_dropped_of_alive {actions : List Action} {k : Handle}
    (ka : k ∈ alive ((start b).after actions).roots) :
    Event.dropped k.tag ∉ (start b).trace actions := by
  obtain ⟨f, hf, same⟩ := k.fragment_in_parts
  have counted := (after_balanced b actions).mem_refs_of_alive (part_alive ka hf)
  rw [same] at counted
  rw [dropped_iff_lost]
  exact fun lost => lost.2 counted

theorem alive_of_not_dropped {actions : List Action} {maker fragment : Tag}
    (created : (start b).Created actions maker fragment)
    (undropped : Event.dropped fragment ∉ (start b).trace actions) :
    ∃ j ∈ alive ((start b).after actions).roots, j.node = .fragment fragment := by
  rw [dropped_iff_lost] at undropped
  by_contra none
  refine undropped ⟨created_issued created, fun counted => none ?_⟩
  exact (after_balanced b actions).alive_of_mem_refs counted

theorem not_dropped_after_release {sofar : List Action} {action : Action}
    (untangled : Untangled sofar) {first last : List Event} {maker fragment : Tag}
    (step : (((start b).after sofar).step action).events = first ++ .released maker :: last)
    (created : (start b).Created (sofar ++ [action]) maker fragment) :
    Event.dropped fragment ∉ last := by
  intro dropped
  obtain ⟨old, held, ⟨j, hj, bound⟩, k, beside, node⟩ :=
    beside_of_dropped_after (after_balanced b sofar) step dropped
  obtain ⟨rfl, unbound⟩ := Handle.of_node_fragment node
  have ka := part_alive (root_alive held) beside.mem_parts
  have created : (start b).Created sofar maker k.tag := by
    rcases sometime_snoc_iff.1 created with earlier | creates
    · exact earlier
    · exact absurd (tag_issued ka) creates.2.1
  have innermost := (holds_of_untangled untangled ka).2 maker unbound created
  have single : ∀ i ∈ old.parts, i.inners.length ≤ 1 := fun i hi =>
    (holds_of_untangled untangled (part_alive (root_alive held) hi)).1
  exact beside.unbound_of_single single innermost unbound j hj bound

theorem drops_first_iff_safe {actions : List Action} (untangled : Untangled actions) :
    (start b).DropsFirst actions ↔ ∀ sofar, sofar <+: actions → (start b).Safe sofar := by
  constructor
  · rintro first sofar ⟨later, rfl⟩ k owner maker _ ka created released
    obtain ⟨front, back, split⟩ := List.append_of_mem released
    have dropped := first maker k.tag (created.more later) front
      (back ++ ((start b).after sofar).trace later) (by rw [trace_append, split]; simp)
    apply not_dropped_of_alive ka
    rw [split]
    exact List.mem_append_left _ dropped
  · intro safe maker fragment created front back shown
    obtain ⟨sofar, action, later, first, last, rfl, step, rfl⟩ := trace_split shown
    have split : (start b).trace (sofar ++ [action]) =
        (start b).trace sofar ++ (first ++ .released maker :: last) := by
      rw [trace_snoc, step]
    have released : Event.released maker ∈ (start b).trace (sofar ++ [action]) := by
      rw [split]
      simp
    have again : sofar ++ action :: later = sofar ++ [action] ++ later := by simp
    rw [again] at created untangled safe
    have created := created_before_release created released
    have untangled := untangled.of_append
    -- Whatever was not dropped by the end of the step would have a returned handle to speak for it.
    have dropped : Event.dropped fragment ∈ (start b).trace (sofar ++ [action]) := by
      by_contra undropped
      obtain ⟨j, ja, same⟩ := alive_of_not_dropped created undropped
      obtain ⟨rfl, unbound⟩ := Handle.of_node_fragment same
      obtain ⟨k, owner, returned, ka, speaks⟩ := returned_speaks_for untangled ja unbound created
      exact safe _ (List.prefix_append _ _) k owner maker returned ka (speaks ▸ created) released
    rw [split, List.mem_append, List.mem_append, List.mem_cons] at dropped
    rcases dropped with before | inside | same | after
    · exact List.mem_append_left _ before
    · exact List.mem_append_right _ inside
    · cases same
    · exact absurd after (not_dropped_after_release untangled.of_append step created)

/-- Whether code is outlived is decided by those handles that are bound to another library than the
one that made their fragment, and these come from operations that hand back what was there before.
-/
theorem outliving_exact (b : Build) (actions : List Action) :
    ((start b).Safe actions ↔ (start b).Secured actions) ∧
      (Untangled actions →
        ((start b).DropsFirst actions ↔ ∀ sofar, sofar <+: actions → (start b).Secured sofar)) ∧
      (¬ (start b).Crosses actions → (start b).Safe actions) := by
  refine ⟨safe_iff_secured b actions, fun untangled => ?_, safe_of_not_crosses⟩
  rw [drops_first_iff_safe untangled]
  simp only [safe_iff_secured]

/-- One library loads a graph, another one hands it back from a conversion, and all that holds the
first library goes away. -/
def handBack : List Action :=
  [.create "a" "a" "/lib" (.serving (Scripted.Script.table {} 0)) none,
    .create "b" "b" "/lib" (.serving (Scripted.Script.table { echo := true } 1)) none,
    .init "a", .init "b",
    .invoke "a" (.loadGraph .single ⟨"/store", 0⟩ "g" .empty) "first",
    .invoke "b" (.toArrow ⟨"/store", 0⟩ .single "first" "h") "second",
    .close "a", .drop "first"]

theorem outliving_exact_hand_back :
    Untangled handBack ∧ ((start .experimental).DropsFirst handBack ↔
      ∀ sofar, sofar <+: handBack → (start .experimental).Secured sofar) := by
  have untangled : Untangled handBack := by
    refine ⟨by simp [handBack], by simp [handBack], backed_of_scripts ?_⟩
    intro name id path loader unload created
    simp only [handBack, List.mem_cons, Action.create.injEq, reduceCtorEq, List.not_mem_nil,
      or_false] at created
    rcases created with ⟨-, -, -, rfl, -⟩ | ⟨-, -, -, rfl, -⟩
    · exact ⟨{}, 0, rfl, fun o => Scripted.Script.direct_entry _ _ o⟩
    · exact ⟨{ echo := true }, 1, rfl, fun o => Scripted.Script.direct_entry _ _ o⟩
  exact ⟨untangled, (outliving_exact .experimental handBack).2.1 untangled⟩

def handedBack : Handle :=
  .bound 2 ⟨.inProcess, 2⟩ (.fragment ⟨.inProcess, 1⟩ ⟨⟨630⟩, "g", .arrow⟩ [] none)

theorem hand_back_outlives :
    ¬ (start .experimental).Safe handBack ∧ ¬ (start .experimental).DropsFirst handBack := by
  have returned : (start .experimental).Returned handBack ⟨.inProcess, 2⟩ handedBack :=
    ⟨handBack.take 5, _, handBack.drop 6, rfl, "b", _, _, _, rfl, rfl, rfl, rfl⟩
  have created : (start .experimental).Created handBack ⟨.inProcess, 1⟩ handedBack.tag :=
    ⟨handBack.take 4, _, handBack.drop 5, rfl, ⟨"a", _, _, _, rfl, rfl, rfl⟩, by decide, by decide⟩
  have held : handedBack ∈ alive ((start .experimental).after handBack).roots := by decide
  have released : Event.released ⟨.inProcess, 1⟩ ∈ (start .experimental).trace handBack := by
    rw [← releases_pos_iff]
    decide
  constructor
  · intro safe
    exact safe handedBack _ _ returned held created released
  · intro first
    obtain ⟨front, back, split⟩ := List.append_of_mem released
    apply not_dropped_of_alive held
    rw [split]
    exact List.mem_append_left _ (first _ _ created front back split)

end Host

end GraphPlugin
