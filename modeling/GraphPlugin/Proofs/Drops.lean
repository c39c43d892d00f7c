import GraphPlugin.Proofs.Losses

/-! Fragments go with the last reference to them: once, no earlier and no later, the outer ones
before what they hold, and what is bound to a library before the library. The books at the moment of
a drop tell who is left, and everything else follows from them. -/
namespace GraphPlugin

open Handle (alive root_alive part_alive inner_alive)

variable {b : Build}

/-- The second handle stands inside the first, and no binding to the library is around it there. -/
inductive Handle.Beside (library : Tag) : Handle → Handle → Prop
  | self (h : Handle) : Beside library h h
  | inside {h i k : Handle} : h.library? ≠ some library → i ∈ h.inners → Beside library i k →
      Beside library h k

theorem Handle.Beside.mem_parts {library : Tag} {h k : Handle} (beside : h.Beside library k) :
    k ∈ h.parts := by
  induction beside with
  | self h => exact mem_parts_self h
  | inside _ hi _ ih => exact parts_trans (inner_mem_parts hi) ih

theorem Handle.beside_of_unbound {library : Tag} {h k : Handle} (inside : k ∈ h.parts)
    (unbound : ∀ j ∈ h.parts, j.library? ≠ some library) : h.Beside library k := by
  induction h using inner_induction with
  | step h ih =>
    rcases (mem_parts_iff h k).1 inside with rfl | ⟨i, hi, hk⟩
    · exact .self _
    · exact .inside (unbound h (mem_parts_self h)) hi
        (ih i hi hk fun j hj => unbound j (parts_trans (inner_mem_parts hi) hj))

def Event.isDropOf (fragment : Tag) : Event → Bool
  | dropped f => f == fragment
  | _ => false

def drops (events : List Event) (fragment : Tag) : Nat := events.countP (Event.isDropOf fragment)

theorem isDropOf_iff {e : Event} {fragment : Tag} :
    e.isDropOf fragment = true ↔ e = .dropped fragment := by
  cases e <;> simp [Event.isDropOf]

theorem drops_pos_iff (events : List Event) (fragment : Tag) :
    0 < drops events fragment ↔ Event.dropped fragment ∈ events := by
  simp [drops, List.countP_pos_iff, isDropOf_iff]

theorem drops_le_one {events : List Event} {fragment : Tag}
    (first : ∀ front back, events = front ++ .dropped fragment :: back →
      Event.dropped fragment ∉ front) : drops events fragment ≤ 1 := by
  by_cases dropped : Event.dropped fragment ∈ events
  · obtain ⟨front, back, rfl⟩ := List.append_of_mem dropped
    have before : drops front fragment = 0 := by
      have none := first front back rfl
      rw [← drops_pos_iff] at none
      omega
    have after : drops back fragment = 0 := by
      by_contra some
      obtain ⟨middle, rest, rfl⟩ := List.append_of_mem
        ((drops_pos_iff back fragment).1 (Nat.pos_of_ne_zero some))
      exact first (front ++ .dropped fragment :: middle) rest (by simp) (by simp)
    unfold drops at before after ⊢
    simp [before, after, Event.isDropOf]
  · rw [← drops_pos_iff] at dropped
    omega

/-- The books just before a fragment is dropped. One handle on it is left and is about to go, what
has happened until then accounts for what is lost by then, and no fragment that was there before has
come to life again. -/
def LastHeld (l : Ledger) (front : List Event) (fragment : Tag) : Prop :=
  ∃ s h roots owners, Ledger.Balanced ⟨s, h :: roots, owners⟩ ∧ h.node = .fragment fragment ∧
    h ∉ alive roots ∧ Loses l.holdings front s ∧
    ∀ k tag, k ∈ alive (h :: roots) → k.node = .fragment tag → l.holdings.fragments.Issued tag →
      k ∈ alive l.roots

namespace LastHeld

variable {l m : Ledger} {events front : List Event} {fragment : Tag}

theorem earlier (last : LastHeld m front fragment) (loses : Loses l.holdings events m.holdings)
    (stays : ∀ k tag, k ∈ alive m.roots → k.node = .fragment tag →
      l.holdings.fragments.Issued tag → k ∈ alive l.roots) :
    LastHeld l (events ++ front) fragment := by
  obtain ⟨s, h, roots, owners, bal, node, only, lost, was⟩ := last
  refine ⟨s, h, roots, owners, bal, node, only, loses.trans lost, ?_⟩
  intro k tag ka same issued
  exact stays k tag (was k tag ka same (loses.issued tag issued)) same issued

theorem not_dropped_before (last : LastHeld l front fragment) : Event.dropped fragment ∉ front := by
  obtain ⟨s, h, roots, owners, bal, node, only, loses, _⟩ := last
  intro dropped
  have lost := (loses.lost fragment).2 (.inr dropped)
  apply lost.2
  rw [← node]
  exact bal.mem_refs_of_alive (root_alive List.mem_cons_self)

theorem outer_dropped_before (last : LastHeld l front fragment) (bal : l.Balanced)
    {outer inner k : Handle} {tag : Tag} (alive_outer : outer ∈ alive l.roots)
    (node_outer : outer.node = .fragment tag) (inside : inner ∈ outer.inners)
    (within : k ∈ inner.parts) (node_k : k.node = .fragment fragment) :
    Event.dropped tag ∈ front := by
  obtain ⟨s, h, roots, owners, books, node, only, loses, was⟩ := last
  have issued : l.holdings.fragments.Issued tag := by
    have issued := bal.issued outer alive_outer
    rwa [node_outer] at issued
  by_contra undropped
  have counted : Node.fragment tag ∈ s.refs := by
    by_contra uncounted
    rcases (loses.lost tag).1 ⟨loses.issued tag issued, uncounted⟩ with lost | dropped
    · exact lost.2 (node_outer ▸ bal.mem_refs_of_alive alive_outer)
    · exact undropped dropped
  -- The outer fragment is still there, so the handle that is about to go stands inside it.
  obtain ⟨o, still, same⟩ := books.alive_of_mem_refs counted
  obtain rfl : o = outer :=
    bal.apart o (was o tag still same issued) outer alive_outer (same.trans node_outer.symm)
  have k_alive : k ∈ alive (h :: roots) := part_alive (inner_alive still inside) within
  obtain rfl : k = h :=
    books.apart k k_alive h (root_alive List.mem_cons_self) (node_k.trans node.symm)
  rcases (Handle.mem_alive_cons_iff k o roots).1 still with above | others
  · exact Handle.not_mem_parts_inner inside (Handle.parts_trans within above)
  · exact only (part_alive (inner_alive others inside) within)

end LastHeld

theorem Holdings.bound_of_released {s : Holdings} {held : List Handle} {library : Tag}
    (released : Event.released library ∈ (s.dropAll held).2) :
    ∃ h ∈ held, ∃ j ∈ h.parts, j.library? = some library := by
  induction s, held using dropAll_induction with
  | nil s => cases released
  | counted s h rest _ same ih =>
    rw [same] at released
    obtain ⟨r, hr, bound⟩ := ih released
    exact ⟨r, List.mem_cons_of_mem _ hr, bound⟩
  | fragment s tag content held shown rest _ same ih =>
    rw [same] at released
    obtain ⟨r, hr, j, hj, bound⟩ := ih ((List.mem_cons.1 released).resolve_left nofun)
    rcases List.mem_append.1 hr with inside | others
    · exact ⟨_, List.mem_cons_self, j, Handle.parts_trans (Handle.inner_mem_parts inside) hj, bound⟩
    · exact ⟨r, List.mem_cons_of_mem _ others, j, hj, bound⟩
  | bound s t number own inner rest _ _ same ih later =>
    rw [same, List.mem_append, List.mem_append] at released
    rcases released with (above | given) | behind
    · obtain ⟨r, hr, j, hj, bound⟩ := ih above
      obtain rfl := List.mem_singleton.1 hr
      exact ⟨_, List.mem_cons_self, j,
        Handle.parts_trans (Handle.inner_mem_parts List.mem_cons_self) hj, bound⟩
    · cases t.giveUp_released own _ given
      exact ⟨_, List.mem_cons_self, _, Handle.mem_parts_self _, rfl⟩
    · obtain ⟨r, hr, found⟩ := later behind
      exact ⟨r, List.mem_cons_of_mem _ hr, found⟩

namespace Ledger

variable {s : Holdings} {roots : List Handle} {owners : List Tag} {h : Handle}
  {front back : List Event} {fragment : Tag}

theorem Balanced.lastHeld_of_dropAll {held : List Handle}
    (bal : Balanced ⟨s, held ++ roots, owners⟩)
    (split : (s.dropAll held).2 = front ++ .dropped fragment :: back) :
    LastHeld ⟨s, held ++ roots, owners⟩ front fragment := by
  induction s, held using Holdings.dropAll_induction generalizing roots owners front back with
  | nil s => simp [Holdings.dropAll] at split
  | counted s h rest counted same ih =>
    rw [same] at split
    have stays := bal.letGo (bal.mem_refs_erase_iff.1 counted)
    show LastHeld _ ([] ++ front) fragment
    exact (ih stays split).earlier (Holdings.loses_forget_counted counted)
      fun _ _ ka _ _ => Handle.alive_cons h ka
  | fragment s tag content held shown rest last same ih =>
    rw [same] at split
    have only := mt bal.mem_refs_erase_iff.2 last
    cases front with
    | nil =>
      cases split
      exact ⟨s, _, rest ++ roots, owners, bal, rfl, only, .refl s, fun _ _ ka _ _ => ka⟩
    | cons e front =>
      obtain ⟨rfl, more⟩ := List.cons.inj split
      have left := (bal.leave only).reorder (.of_eq (List.append_assoc _ _ _).symm) (.refl _)
      have issued := bal.issued _ (root_alive List.mem_cons_self)
      refine (ih left more).earlier (Holdings.loses_forget_last issued last) ?_
      intro k _ ka _ _
      rw [List.append_assoc] at ka
      exact (Handle.alive_cons_perm_cons only).mem_iff.2 (List.mem_cons_of_mem _ ka)
  | bound s t number library inner rest last inside same ih later =>
    rw [same] at split
    have only := mt bal.mem_refs_erase_iff.2 last
    have left := bal.leave only
    have after : Balanced ⟨t, rest ++ roots, library :: owners⟩ := inside ▸ left.dropAll
    have handle : Loses s ([] ++ ((s.forget (.binding number)).dropAll [inner]).2) t :=
      inside ▸ (Holdings.loses_forget_binding s number).trans left.loses_dropAll
    rcases append_split split with ⟨more, here⟩ | ⟨more, rfl, there⟩
    · rcases append_split here with ⟨more, above⟩ | ⟨more, _, released⟩
      · show LastHeld _ ([] ++ front) fragment
        refine (ih left above).earlier (Holdings.loses_forget_binding s number) ?_
        intro k _ ka _ _
        exact (Handle.alive_cons_perm_cons only).mem_iff.2 (List.mem_cons_of_mem _ ka)
      · have shown : Event.dropped fragment ∈ (t.giveUp library).2 := by simp [released]
        cases Holdings.giveUp_released _ _ _ shown
    · exact (later after.giveUp there).earlier (handle.trans (t.loses_giveUp library))
        fun _ _ ka _ _ => Handle.alive_cons _ ka

theorem Balanced.lastHeld_of_drop (bal : Balanced ⟨s, h :: roots, owners⟩)
    (split : (s.drop h).2 = front ++ .dropped fragment :: back) :
    LastHeld ⟨s, h :: roots, owners⟩ front fragment := by
  have one : Balanced ⟨s, [h] ++ roots, owners⟩ := bal
  rw [← Holdings.dropAll_singleton] at split
  exact one.lastHeld_of_dropAll split

theorem Balanced.alive_of_dropAll {held : List Handle} (bal : Balanced ⟨s, held ++ roots, owners⟩)
    (dropped : Event.dropped fragment ∈ (s.dropAll held).2) :
    ∃ k ∈ alive (held ++ roots), k.node = .fragment fragment := by
  have lost := (bal.loses_dropAll.lost fragment).2 (.inr dropped)
  obtain ⟨refs, shares, same⟩ := s.dropAll_fst held
  have issued : s.fragments.Issued fragment := by
    have later := lost.1
    rwa [same] at later
  obtain ⟨front, back, split⟩ := List.append_of_mem dropped
  obtain ⟨_, k, _, _, _, node, _, _, was⟩ := bal.lastHeld_of_dropAll split
  exact ⟨k, was k fragment (root_alive List.mem_cons_self) node issued, node⟩

theorem Balanced.not_released_of_owned {held : List Handle} {library : Tag}
    (bal : Balanced ⟨s, held ++ roots, owners⟩) (owned : library ∈ owners) :
    Event.released library ∉ (s.dropAll held).2 := by
  intro released
  have gone := ((bal.settles_dropAll.released_iff library).1 released).1
  exact gone.2.1 ((bal.dropAll.mem_shares_iff library).2 (.inl owned))

theorem Balanced.released_last {number : Nat} {library : Tag} {inner : Handle}
    (bal : Balanced ⟨s, .bound number library inner :: roots, owners⟩)
    (split : (s.drop (.bound number library inner)).2 = front ++ .released library :: back) :
    back = [] := by
  by_cases counted : Node.binding number ∈ s.refs.erase (.binding number)
  · rw [Holdings.drop_of_counted counted] at split
    simp at split
  · have left := bal.leave (mt bal.mem_refs_erase_iff.2 counted)
    rw [Holdings.drop_bound counted, ← Holdings.dropAll_singleton] at split
    rcases append_split split with ⟨more, above⟩ | ⟨more, _, given⟩
    · have released : Event.released library ∈
          ((s.forget (.binding number)).dropAll [inner]).2 := by simp [above]
      exact absurd released (left.not_released_of_owned List.mem_cons_self)
    · generalize ((s.forget (.binding number)).dropAll [inner]).1 = t at given
      by_cases stays : library ∈ t.shares.erase library ∨ library ∈ t.kept
      · rw [Holdings.giveUp_of_shared stays] at given
        simp at given
      · rw [Holdings.giveUp_of_last stays] at given
        cases more with
        | nil => exact (List.cons.inj given).2.symm
        | cons e more => simp at given

theorem Balanced.beside_of_gone {held : List Handle} {library : Tag}
    (bal : Balanced ⟨s, held ++ roots, owners⟩) (gone : s.Gone library)
    (dropped : Event.dropped fragment ∈ (s.dropAll held).2) :
    ∃ r ∈ held ++ roots, ∃ k, r.Beside library k ∧ k.node = .fragment fragment := by
  obtain ⟨k, ka, node⟩ := bal.alive_of_dropAll dropped
  obtain ⟨r, hr, hk⟩ := (Handle.mem_alive_iff _ k).1 ka
  have unbound : ∀ j ∈ r.parts, j.library? ≠ some library := by
    intro j hj bound
    have ja := part_alive (root_alive hr) hj
    exact gone.2.1 ((bal.mem_shares_iff library).2 (.inr ⟨j, ja, bound⟩))
  exact ⟨r, hr, k, Handle.beside_of_unbound hk unbound, node⟩

theorem Balanced.beside_of_dropAll {held : List Handle} {library : Tag}
    (bal : Balanced ⟨s, held ++ roots, owners⟩)
    (split : (s.dropAll held).2 = front ++ .dropped fragment :: back)
    (released : Event.released library ∈ front) :
    ∃ r ∈ held ++ roots, ∃ k, r.Beside library k ∧ k.node = .fragment fragment := by
  induction s, held using Holdings.dropAll_induction generalizing roots owners front back with
  | nil s => simp [Holdings.dropAll] at split
  | counted s h rest counted same ih =>
    rw [same] at split
    obtain ⟨r, hr, found⟩ := ih (bal.letGo (bal.mem_refs_erase_iff.1 counted)) split released
    exact ⟨r, List.mem_cons_of_mem _ hr, found⟩
  | fragment s tag content held shown rest last same ih =>
    rw [same] at split
    cases front with
    | nil => cases released
    | cons e front =>
      obtain ⟨rfl, more⟩ := List.cons.inj split
      have left := (bal.leave (mt bal.mem_refs_erase_iff.2 last)).reorder
        (.of_eq (List.append_assoc _ _ _).symm) (.refl _)
      obtain ⟨r, hr, k, beside, node⟩ :=
        ih left more ((List.mem_cons.1 released).resolve_left nofun)
      rw [List.append_assoc] at hr
      rcases List.mem_append.1 hr with hr | hr
      · exact ⟨_, List.mem_cons_self, k, .inside (by simp [Handle.library?]) hr beside, node⟩
      · exact ⟨r, List.mem_cons_of_mem _ hr, k, beside, node⟩
  | bound s t number own inner rest last inside same ih later =>
    rw [same] at split
    have left := bal.leave (mt bal.mem_refs_erase_iff.2 last)
    have after : Balanced ⟨t, rest ++ roots, own :: owners⟩ := inside ▸ left.dropAll
    have handle := left.settles_dropAll
    rcases append_split split with ⟨more, here⟩ | ⟨more, rfl, there⟩
    · rcases append_split here with ⟨more, above⟩ | ⟨more, _, released⟩
      · obtain ⟨r, hr, k, beside, node⟩ := ih left above released
        rcases List.mem_cons.1 hr with rfl | hr
        · -- The share of the binding itself is not yet given up.
          have foreign : own ≠ library := by
            rintro rfl
            have among : Event.released own ∈ ((s.forget (.binding number)).dropAll [r]).2 := by
              simp [above, released]
            exact left.not_released_of_owned List.mem_cons_self among
          exact ⟨_, List.mem_cons_self, k, .inside (by simpa [Handle.library?]) List.mem_cons_self
            beside, node⟩
        · exact ⟨r, List.mem_cons_of_mem _ hr, k, beside, node⟩
      · have shown : Event.dropped fragment ∈ (t.giveUp own).2 := by simp [released]
        cases Holdings.giveUp_released _ _ _ shown
    · have books := after.giveUp
      have left : ∃ r ∈ rest ++ roots, ∃ k, r.Beside library k ∧ k.node = .fragment fragment := by
        rcases List.mem_append.1 released with earlier | among
        · -- Nobody shares the library any more, so nothing that is left is bound to it.
          have shared := (after.mem_shares_iff own).2 (.inl List.mem_cons_self)
          have settled := (inside ▸ handle).trans
            (settles_giveUp shared (after.opened own (.inl shared)))
          have gone := ((settled.released_iff library).1 earlier).1
          exact books.beside_of_gone gone (by simp [there])
        · exact later books there among
      obtain ⟨r, hr, found⟩ := left
      exact ⟨r, List.mem_cons_of_mem _ hr, found⟩

end Ledger

theorem Move.stays {l m : Ledger} {events : List Event} (move : Move l events m) {k : Handle}
    {tag : Tag} (ka : k ∈ alive m.roots) (node : k.node = .fragment tag)
    (issued : l.holdings.fragments.Issued tag) : k ∈ alive l.roots := by
  cases move with
  | reorder same _ => exact Handle.alive_mono (fun _ held => root_alive (same.mem_iff.2 held)) ka
  | note _ => exact ka
  | call => exact ka
  | stash _ => exact ka
  | retain ha => exact (Handle.alive_append_perm ha).mem_iff.1 ka
  | @addFragment s held roots owners origin content shown =>
    rcases (Handle.mem_alive_cons_iff _ _ _).1 ka with new | old
    · rcases (Handle.mem_parts_iff _ k).1 new with rfl | ⟨i, inside, hk⟩
      · cases node
        exact absurd issued (s.fragments.not_issued_next origin)
      · exact part_alive (root_alive (List.mem_append_left _ inside)) hk
    · exact Handle.alive_mono (fun _ hr => root_alive (List.mem_append_right _ hr)) old
  | bind _ =>
    rcases (Handle.mem_alive_cons_iff _ _ _).1 ka with new | old
    · rcases List.mem_cons.1 new with rfl | inside
      · cases node
      · exact (Handle.mem_alive_cons_iff _ _ _).2 (.inl inside)
    · exact Handle.alive_cons _ old
  | drop => exact Handle.alive_cons _ ka
  | giveUp => exact ka
  | serve _ _ => exact ka
  | discard _ => exact ka

theorem Move.lastHeld {l m : Ledger} {events front back : List Event} {fragment : Tag}
    (move : Move l events m) (bal : l.Balanced)
    (split : events = front ++ .dropped fragment :: back) : LastHeld l front fragment := by
  have shown : Event.dropped fragment ∈ events := by simp [split]
  cases move with
  | note quiet => exact (quiet _ shown).elim
  | drop => exact bal.lastHeld_of_drop split
  | giveUp => cases Holdings.giveUp_released _ _ _ shown
  | discard _ => simp at shown
  | _ => cases shown

theorem Moves.lastHeld {l m : Ledger} {events front back : List Event} {fragment : Tag}
    (moves : Moves l events m) (bal : l.Balanced)
    (split : events = front ++ .dropped fragment :: back) : LastHeld l front fragment := by
  induction moves generalizing front with
  | done l => simp at split
  | next move _ ih =>
    rcases append_split split with ⟨more, here⟩ | ⟨more, rfl, later⟩
    · exact move.lastHeld bal here
    · refine (ih (move.balanced bal) later).earlier (move.loses bal) ?_
      intro k tag ka node issued
      exact move.stays ka node issued

namespace Host

variable {host : Host b} {action : Action} {library fragment : Tag}

/-- A fragment can go after a library in one step only where a handle that goes holds it beside a
binding to that library. -/
theorem beside_of_dropped_after (bal : host.ledger.Balanced) {first last : List Event}
    (split : (host.step action).events = first ++ .released library :: last)
    (dropped : Event.dropped fragment ∈ last) :
    ∃ old ∈ host.roots, (∃ j ∈ old.parts, j.library? = some library) ∧
      ∃ k, old.Beside library k ∧ k.node = .fragment fragment := by
  have shown : Event.dropped fragment ∈ (host.step action).events := by simp [split, dropped]
  have lost := (((host.step_moves action).loses bal).lost fragment).2 (.inr shown)
  cases host.step_turns action with
  | keeps _ none => exact absurd shown (none fragment)
  | @discards events s old held quiet moves same holdings =>
    rw [same] at split
    rcases append_split split with ⟨more, here⟩ | ⟨more, _, there⟩
    · exact (quiet (.released library) (by simp [here])).elim
    · have books : Ledger.Balanced ⟨s, [old] ++ _, _⟩ := moves.balanced bal
      rw [← Holdings.dropAll_singleton] at there
      obtain ⟨middle, rest, rfl⟩ := List.append_of_mem dropped
      have released : Event.released library ∈ (s.dropAll [old]).2 := by simp [there]
      obtain ⟨h, hh, bound⟩ := Holdings.bound_of_released released
      obtain rfl := List.mem_singleton.1 hh
      have again : (s.dropAll [h]).2 =
          (more ++ .released library :: middle) ++ .dropped fragment :: rest := by simp [there]
      have earlier : Event.released library ∈ more ++ .released library :: middle := by simp
      obtain ⟨r, hr, k, beside, node⟩ := books.beside_of_dropAll again earlier
      refine ⟨h, held, bound, k, ?_, node⟩
      rcases List.mem_cons.1 hr with rfl | others
      · exact beside
      · -- What is still held from outside has not been dropped.
        have after := (host.step_moves action).balanced bal
        have ka := part_alive (root_alive others) beside.mem_parts
        exact absurd (node ▸ after.mem_refs_of_alive ka) lost.2

end Host

end GraphPlugin
