import GraphPlugin.Proofs.Runs

/-! When fragments are dropped. A fragment is lost when it has been made and nothing refers to it
any more. The trace of every change of balanced books shows a drop of each fragment that is lost in
it. -/
namespace GraphPlugin

open Handle (alive root_alive)

namespace Holdings

def Lost (s : Holdings) (tag : Tag) : Prop :=
  s.fragments.Issued tag ∧ Node.fragment tag ∉ s.refs

end Holdings

/-- What happens between two states of the holdings accounts for the fragments that are lost, and no
fragment is made twice. -/
structure Loses (s : Holdings) (events : List Event) (t : Holdings) : Prop where
  lost : ∀ tag, t.Lost tag ↔ s.Lost tag ∨ Event.dropped tag ∈ events
  issued : ∀ tag, s.fragments.Issued tag → t.fragments.Issued tag

namespace Loses

variable {s t u : Holdings} {events more : List Event}

theorem trans (first : Loses s events t) (second : Loses t more u) :
    Loses s (events ++ more) u where
  lost tag := by rw [second.lost tag, first.lost tag, List.mem_append, or_assoc]
  issued tag h := second.issued tag (first.issued tag h)

theorem of_same (none : ∀ tag, Event.dropped tag ∉ events) (fragments : t.fragments = s.fragments)
    (refs : ∀ tag, Node.fragment tag ∈ t.refs ↔ Node.fragment tag ∈ s.refs) :
    Loses s events t where
  lost tag := by simp only [Holdings.Lost, fragments, refs, none, or_false]
  issued tag h := fragments ▸ h

theorem refl (s : Holdings) : Loses s [] s :=
  of_same (fun _ => List.not_mem_nil) rfl fun _ => Iff.rfl

theorem quiet (s : Holdings) (quiet : ∀ e ∈ events, e.Quiet) : Loses s events s :=
  of_same (fun _ dropped => quiet _ dropped) rfl fun _ => Iff.rfl

theorem of_new (origin : Origin) (fragments : t.fragments = s.fragments.advance origin)
    (refs : ∀ tag, Node.fragment tag ∈ t.refs ↔
      tag = s.fragments.next origin ∨ Node.fragment tag ∈ s.refs) : Loses s [] t where
  lost tag := by
    have new := s.fragments.not_issued_next origin
    simp only [Holdings.Lost, fragments, refs, Tally.issued_advance_iff, List.not_mem_nil, or_false]
    by_cases e : tag = s.fragments.next origin
    · simp [e, new]
    · simp [e]
  issued tag h := by
    rw [fragments]
    exact (s.fragments.issued_advance_iff origin tag).2 (.inr h)

end Loses

namespace Holdings

variable {s : Holdings}

theorem loses_giveUp (s : Holdings) (library : Tag) :
    Loses s (s.giveUp library).2 (s.giveUp library).1 := by
  refine .of_same (fun tag dropped => ?_) ?_ fun tag => ?_
  · cases s.giveUp_released library _ dropped
  · rw [giveUp_fst]
  · rw [giveUp_fst]

theorem loses_forget_counted {x : Node} (counted : x ∈ s.refs.erase x) :
    Loses s [] (s.forget x) := by
  refine .of_same (fun _ => List.not_mem_nil) rfl fun tag => ?_
  by_cases e : Node.fragment tag = x
  · have here : x ∈ s.refs := List.mem_of_mem_erase counted
    simp [forget, e, counted, here]
  · exact List.mem_erase_of_ne e

theorem loses_forget_last {tag : Tag} (issued : s.fragments.Issued tag)
    (last : Node.fragment tag ∉ s.refs.erase (.fragment tag)) :
    Loses s [.dropped tag] (s.forget (.fragment tag)) := by
  refine ⟨fun other => ?_, fun _ h => h⟩
  by_cases e : other = tag
  · simp [Lost, forget, e, issued, last]
  · have apart : Node.fragment other ≠ .fragment tag := by simpa using e
    simp [Lost, forget, e, List.mem_erase_of_ne apart]

theorem loses_forget_binding (s : Holdings) (number : Nat) :
    Loses s [] (s.forget (.binding number)) :=
  .of_same (fun _ => List.not_mem_nil) rfl fun _ => List.mem_erase_of_ne nofun

end Holdings

namespace Ledger

variable {s : Holdings} {roots : List Handle} {owners : List Tag} {h : Handle}

theorem Balanced.loses_dropAll {held : List Handle} (bal : Balanced ⟨s, held ++ roots, owners⟩) :
    Loses s (s.dropAll held).2 (s.dropAll held).1 := by
  induction s, held using Holdings.dropAll_induction generalizing roots owners with
  | nil s => exact .refl s
  | counted s h rest counted same ih =>
    rw [same]
    have stays := bal.letGo (bal.mem_refs_erase_iff.1 counted)
    exact (Holdings.loses_forget_counted counted).trans (ih stays)
  | fragment s tag content held shown rest last same ih =>
    rw [same]
    have issued := bal.issued _ (root_alive List.mem_cons_self)
    have left := bal.leave (mt bal.mem_refs_erase_iff.2 last)
    have others := ih (left.reorder (.of_eq (List.append_assoc _ _ _).symm) (.refl _))
    exact (Holdings.loses_forget_last issued last).trans others
  | bound s t number library inner rest last inside same ih others =>
    rw [same]
    have left := bal.leave (mt bal.mem_refs_erase_iff.2 last)
    have after : Balanced ⟨t, rest ++ roots, library :: owners⟩ := inside ▸ left.dropAll
    have handle := (Holdings.loses_forget_binding s number).trans (ih left)
    rw [← inside] at handle
    exact (handle.trans (t.loses_giveUp library)).trans (others after.giveUp)

theorem Balanced.loses_drop (bal : Balanced ⟨s, h :: roots, owners⟩) :
    Loses s (s.drop h).2 (s.drop h).1 := by
  have one : Balanced ⟨s, [h] ++ roots, owners⟩ := bal
  rw [← Holdings.dropAll_singleton]
  exact one.loses_dropAll

theorem Balanced.mem_refs_of_alive {l : Ledger} (bal : l.Balanced) (ha : h ∈ alive l.roots) :
    h.node ∈ l.holdings.refs :=
  bal.refs.mem_iff.2 (List.mem_map_of_mem ((Handle.mem_referred_iff _ h).2 ha))

theorem Balanced.alive_of_mem_refs {l : Ledger} (bal : l.Balanced) {x : Node}
    (counted : x ∈ l.holdings.refs) : ∃ h ∈ alive l.roots, h.node = x := by
  obtain ⟨h, referred, same⟩ := List.mem_map.1 (bal.refs.mem_iff.1 counted)
  exact ⟨h, (Handle.mem_referred_iff _ h).1 referred, same⟩

end Ledger

theorem Move.loses {l m : Ledger} {events : List Event} (move : Move l events m)
    (bal : l.Balanced) : Loses l.holdings events m.holdings := by
  cases move with
  | reorder _ _ => exact .refl _
  | note quiet => exact .quiet _ quiet
  | call => exact .of_same (fun _ => List.not_mem_nil) rfl fun _ => Iff.rfl
  | stash _ => exact .of_same (fun _ => List.not_mem_nil) rfl fun _ => Iff.rfl
  | @retain s roots owners held ha =>
    refine .of_same (fun _ => List.not_mem_nil) rfl fun tag => ?_
    rw [Holdings.retainAll, List.mem_append, List.mem_map, or_iff_right_of_imp]
    rintro ⟨h, hh, same⟩
    exact same ▸ bal.mem_refs_of_alive (ha h hh)
  | addFragment origin content shown =>
    exact .of_new origin rfl fun tag => by simp [Holdings.addFragment]
  | bind owned =>
    exact .of_same (fun _ => List.not_mem_nil) rfl fun tag => by simp [Holdings.bind]
  | drop => exact bal.loses_drop
  | giveUp => exact Holdings.loses_giveUp _ _
  | serve origin unload => exact .of_same (fun _ => List.not_mem_nil) rfl fun _ => Iff.rfl
  | discard origin => exact .of_same (fun tag => by simp) rfl fun _ => Iff.rfl

theorem Moves.loses {l m : Ledger} {events : List Event} (moves : Moves l events m)
    (bal : l.Balanced) : Loses l.holdings events m.holdings := by
  induction moves with
  | done l => exact .refl _
  | next move _ ih => exact (move.loses bal).trans (ih (move.balanced bal))

namespace Host

variable {b : Build} {host : Host b}

/-- The trace shows the drops of the fragments that are lost in the end, and no other. -/
theorem dropped_iff_lost (b : Build) (actions : List Action) (tag : Tag) :
    Event.dropped tag ∈ (start b).trace actions ↔ ((start b).after actions).holdings.Lost tag := by
  have loses := ((start b).run_moves actions).loses (start_balanced b)
  have none : ¬ (start b).ledger.holdings.Lost tag := fun lost =>
    Tally.not_issued_empty tag lost.1
  have lost := loses.lost tag
  rw [or_iff_right none] at lost
  exact lost.symm

end Host

end GraphPlugin
