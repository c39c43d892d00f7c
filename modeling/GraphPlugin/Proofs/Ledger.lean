import GraphPlugin.Holdings
import GraphPlugin.Proofs.Alive

/-! The holdings as books on who holds what. Books are balanced when they count each node as often
as something refers to it and each library as often as something shares it. Then the test that a
count is down to nothing is a test on what is alive, and dropping a handle leaves balanced books. -/
namespace GraphPlugin

def Holdings.Issued (s : Holdings) : Node → Prop
  | .fragment tag => s.fragments.Issued tag
  | .binding number => number ≤ s.bindings

namespace Holdings

def forget (s : Holdings) (x : Node) : Holdings := { s with refs := s.refs.erase x }

variable {s : Holdings}

theorem dropAll_singleton (s : Holdings) (h : Handle) : s.dropAll [h] = s.drop h :=
  Prod.ext rfl (List.append_nil _)

theorem dropAll_cons (s : Holdings) (h : Handle) (rest : List Handle) :
    s.dropAll (h :: rest) =
      (((s.drop h).1.dropAll rest).1, (s.drop h).2 ++ ((s.drop h).1.dropAll rest).2) := rfl

theorem dropAll_append (s : Holdings) (held rest : List Handle) :
    s.dropAll (held ++ rest) =
      (((s.dropAll held).1.dropAll rest).1,
        (s.dropAll held).2 ++ ((s.dropAll held).1.dropAll rest).2) := by
  induction held generalizing s with
  | nil => rfl
  | cons h held ih =>
    rw [List.cons_append, dropAll_cons, dropAll_cons, ih]
    exact Prod.ext rfl (List.append_assoc _ _ _).symm

theorem drop_of_counted {h : Handle} (counted : h.node ∈ s.refs.erase h.node) :
    s.drop h = (s.forget h.node, []) := by
  cases h with
  | fragment tag content held shown => exact if_pos counted
  | bound number library inner => exact if_pos counted

theorem drop_fragment {tag : Tag} (last : Node.fragment tag ∉ s.refs.erase (.fragment tag))
    (content : Fragment) (held : List Handle) (shown : Option Nat) :
    s.drop (.fragment tag content held shown) =
      (((s.forget (.fragment tag)).dropAll held).1,
        .dropped tag :: ((s.forget (.fragment tag)).dropAll held).2) := if_neg last

theorem drop_bound {number : Nat} (last : Node.binding number ∉ s.refs.erase (.binding number))
    (library : Tag) (inner : Handle) :
    s.drop (.bound number library inner) =
      ((((s.forget (.binding number)).drop inner).1.giveUp library).1,
        ((s.forget (.binding number)).drop inner).2 ++
          (((s.forget (.binding number)).drop inner).1.giveUp library).2) := if_neg last

theorem giveUp_of_shared {library : Tag}
    (stays : library ∈ s.shares.erase library ∨ library ∈ s.kept) :
    s.giveUp library = ({ s with shares := s.shares.erase library }, []) := if_pos stays

theorem giveUp_of_last {library : Tag}
    (last : ¬ (library ∈ s.shares.erase library ∨ library ∈ s.kept)) :
    s.giveUp library = ({ s with shares := s.shares.erase library }, [.released library]) :=
  if_neg last

theorem giveUp_fst (s : Holdings) (library : Tag) :
    (s.giveUp library).1 = { s with shares := s.shares.erase library } := by
  by_cases stays : library ∈ s.shares.erase library ∨ library ∈ s.kept
  · rw [giveUp_of_shared stays]
  · rw [giveUp_of_last stays]

theorem giveUp_released (s : Holdings) (library : Tag) :
    ∀ e ∈ (s.giveUp library).2, e = .released library := by
  by_cases stays : library ∈ s.shares.erase library ∨ library ∈ s.kept
  · simp [giveUp_of_shared stays]
  · simp [giveUp_of_last stays]

theorem append_induction {motive : Holdings → List Handle → Prop} {held rest : List Handle}
    (first : ∀ h ∈ held, ∀ s rest, (∀ s, motive s rest) → motive s (h :: rest))
    (others : ∀ s, motive s rest) (s : Holdings) : motive s (held ++ rest) := by
  induction held generalizing s with
  | nil => exact others s
  | cons h held ih =>
    obtain ⟨here, there⟩ := List.forall_mem_cons.1 first
    exact here s (held ++ rest) (ih there)

section Induction

variable {motive : Holdings → List Handle → Prop} (nil : ∀ s, motive s [])
  (counted : ∀ s h rest, h.node ∈ s.refs.erase h.node →
    s.dropAll (h :: rest) = (s.forget h.node).dropAll rest →
    motive (s.forget h.node) rest → motive s (h :: rest))
  (fragment : ∀ s tag content held shown rest, Node.fragment tag ∉ s.refs.erase (.fragment tag) →
    s.dropAll (.fragment tag content held shown :: rest) =
      (((s.forget (.fragment tag)).dropAll (held ++ rest)).1,
        .dropped tag :: ((s.forget (.fragment tag)).dropAll (held ++ rest)).2) →
    motive (s.forget (.fragment tag)) (held ++ rest) →
    motive s (.fragment tag content held shown :: rest))
  (bound : ∀ s t number library inner rest, Node.binding number ∉ s.refs.erase (.binding number) →
    t = ((s.forget (.binding number)).dropAll [inner]).1 →
    s.dropAll (.bound number library inner :: rest) =
      (((t.giveUp library).1.dropAll rest).1,
        ((s.forget (.binding number)).dropAll [inner]).2 ++ (t.giveUp library).2 ++
          ((t.giveUp library).1.dropAll rest).2) →
    motive (s.forget (.binding number)) [inner] → motive (t.giveUp library).1 rest →
    motive s (.bound number library inner :: rest))

include nil counted fragment bound

theorem cons_induction (h : Handle) (s : Holdings) (rest : List Handle)
    (others : ∀ s, motive s rest) : motive s (h :: rest) := by
  induction h using Handle.inner_induction generalizing s rest with
  | step h inside =>
    by_cases more : h.node ∈ s.refs.erase h.node
    · exact counted s h rest more (by rw [dropAll_cons, drop_of_counted more]; rfl) (others _)
    · cases h with
      | fragment tag content held shown =>
        refine fragment s tag content held shown rest more ?_ (append_induction inside others _)
        rw [dropAll_cons, drop_fragment more, dropAll_append]
        rfl
      | bound number library inner =>
        refine bound s _ number library inner rest more rfl ?_
          (inside inner List.mem_cons_self _ [] nil) (others _)
        rw [dropAll_cons, drop_bound more, dropAll_singleton]

/-- Induction on the drop of some handles. A node that is still counted stays. A fragment that is
not goes away, and what it held is dropped next; and a binding that is not goes away with its
handle, and then its share of the library. -/
@[elab_as_elim]
theorem dropAll_induction (s : Holdings) (held : List Handle) : motive s held := by
  rw [← List.append_nil held]
  exact append_induction (fun h _ => cons_induction nil counted fragment bound h) nil s

end Induction

theorem dropAll_fst (s : Holdings) (held : List Handle) :
    ∃ refs shares, (s.dropAll held).1 = { s with refs := refs, shares := shares } := by
  induction s, held using dropAll_induction with
  | nil s => exact ⟨s.refs, s.shares, rfl⟩
  | counted s h rest _ same ih =>
    obtain ⟨refs, shares, others⟩ := ih
    exact ⟨refs, shares, by rw [same, others]; rfl⟩
  | fragment s tag content held shown rest _ same ih =>
    obtain ⟨refs, shares, others⟩ := ih
    exact ⟨refs, shares, by rw [same, others]; rfl⟩
  | bound s t number library inner rest _ inside same ih others =>
    obtain ⟨refs, shares, left⟩ := ih
    obtain ⟨refs', shares', behind⟩ := others
    exact ⟨refs', shares', by rw [same, behind, giveUp_fst, inside, left]; rfl⟩

theorem drop_fst (s : Holdings) (h : Handle) :
    ∃ refs shares, (s.drop h).1 = { s with refs := refs, shares := shares } := by
  rw [← dropAll_singleton]
  exact s.dropAll_fst [h]

end Holdings

/-- The holdings together with those that hold: the handles held from outside, one entry for each
reference, and the libraries that invokers hold. -/
structure Ledger where
  holdings : Holdings
  roots : List Handle
  owners : List Tag

namespace Ledger

open Handle (alive referred shared)

structure Balanced (l : Ledger) : Prop where
  refs : l.holdings.refs.Perm ((referred l.roots).map Handle.node)
  shares : l.holdings.shares.Perm (l.owners ++ shared l.roots)
  apart : ∀ h ∈ alive l.roots, ∀ k ∈ alive l.roots, h.node = k.node → h = k
  issued : ∀ h ∈ alive l.roots, l.holdings.Issued h.node
  opened : ∀ n, n ∈ l.holdings.shares ∨ n ∈ l.holdings.kept → l.holdings.libraries.Issued n

variable {s : Holdings} {roots : List Handle} {owners : List Tag} {h : Handle}

theorem Balanced.mem_shares_iff {l : Ledger} (bal : l.Balanced) (library : Tag) :
    library ∈ l.holdings.shares ↔
      library ∈ l.owners ∨ ∃ h ∈ alive l.roots, h.library? = some library := by
  rw [bal.shares.mem_iff, List.mem_append, Handle.mem_shared_iff]

theorem referred_cons_perm (ha : h ∈ alive roots) :
    (referred (h :: roots)).Perm (h :: referred roots) :=
  Handle.referred_append_perm (List.forall_mem_singleton.2 ha)

theorem Balanced.mem_refs_erase_iff (bal : Balanced ⟨s, h :: roots, owners⟩) :
    h.node ∈ s.refs.erase h.node ↔ h ∈ alive roots := by
  have refs := bal.refs
  by_cases ha : h ∈ alive roots
  · have rest := (refs.trans ((referred_cons_perm ha).map Handle.node)).erase h.node
    rw [List.map_cons, List.erase_cons_head] at rest
    have here := (Handle.mem_referred_iff roots h).2 ha
    simp only [ha, iff_true]
    exact rest.mem_iff.2 (List.mem_map_of_mem here)
  · have rest := (refs.trans ((Handle.referred_cons_perm_cons ha).map Handle.node)).erase h.node
    rw [List.map_cons, List.erase_cons_head] at rest
    simp only [ha, iff_false]
    intro again
    obtain ⟨k, hk, same⟩ := List.mem_map.1 (rest.mem_iff.1 again)
    have ka := (Handle.mem_referred_iff _ k).1 hk
    have kept : k ∈ alive (h :: roots) :=
      (Handle.alive_cons_perm_cons ha).mem_iff.2 (List.mem_cons_of_mem _ ka)
    have e := bal.apart k kept h (Handle.root_alive List.mem_cons_self) same
    exact Handle.not_alive_inners ha (e ▸ ka)

theorem Balanced.reorder {more : List Handle} {others : List Tag}
    (bal : Balanced ⟨s, roots, owners⟩) (hr : roots.Perm more) (ho : owners.Perm others) :
    Balanced ⟨s, more, others⟩ := by
  have same : ∀ h, h ∈ alive more → h ∈ alive roots :=
    fun h => Handle.alive_mono fun k hk => Handle.root_alive (hr.mem_iff.2 hk)
  exact {
    refs := bal.refs.trans ((Handle.referred_perm hr).map _)
    shares := bal.shares.trans (ho.append (Handle.shared_perm hr))
    apart := fun h ha k ka => bal.apart h (same h ha) k (same k ka)
    issued := fun h ha => bal.issued h (same h ha)
    opened := bal.opened }

theorem Balanced.retainAll {held : List Handle} (bal : Balanced ⟨s, roots, owners⟩)
    (ha : ∀ h ∈ held, h ∈ alive roots) : Balanced ⟨s.retainAll held, held ++ roots, owners⟩ := by
  have same := Handle.alive_append_perm ha
  have referred := (Handle.referred_append_perm ha).symm.map Handle.node
  rw [List.map_append] at referred
  exact {
    refs := (bal.refs.append_left _).trans referred
    shares := bal.shares.trans ((Handle.shared_append_perm ha).symm.append_left owners)
    apart := fun j ja k ka => bal.apart j (same.mem_iff.1 ja) k (same.mem_iff.1 ka)
    issued := fun j ja => bal.issued j (same.mem_iff.1 ja)
    opened := bal.opened }

theorem Balanced.letGo (bal : Balanced ⟨s, h :: roots, owners⟩) (ha : h ∈ alive roots) :
    Balanced ⟨s.forget h.node, roots, owners⟩ := by
  have same := Handle.alive_cons_perm ha
  have refs := (bal.refs.trans ((referred_cons_perm ha).map Handle.node)).erase h.node
  rw [List.map_cons, List.erase_cons_head] at refs
  exact {
    refs := refs
    shares := bal.shares.trans ((Handle.shared_cons_perm ha).append_left owners)
    apart := fun j ja k ka => bal.apart j (same.mem_iff.2 ja) k (same.mem_iff.2 ka)
    issued := fun j ja => bal.issued j (same.mem_iff.2 ja)
    opened := bal.opened }

theorem Balanced.leave (bal : Balanced ⟨s, h :: roots, owners⟩) (ha : h ∉ alive roots) :
    Balanced ⟨s.forget h.node, h.inners ++ roots,
      h.library?.toList ++ owners⟩ := by
  have same := Handle.alive_cons_perm_cons ha
  have before : ∀ k, k ∈ alive (h.inners ++ roots) → k ∈ alive (h :: roots) :=
    fun k ka => same.mem_iff.2 (List.mem_cons_of_mem _ ka)
  have refs := (bal.refs.trans ((Handle.referred_cons_perm_cons ha).map Handle.node)).erase h.node
  rw [List.map_cons, List.erase_cons_head] at refs
  have shares := bal.shares.trans ((Handle.shared_cons_perm_append ha).append_left owners)
  rw [← List.append_assoc] at shares
  exact {
    refs := refs
    shares := shares.trans (List.perm_append_comm.append_right _)
    apart := fun j ja k ka => bal.apart j (before j ja) k (before k ka)
    issued := fun j ja => bal.issued j (before j ja)
    opened := bal.opened }

theorem Balanced.enter {t : Holdings}
    (bal : Balanced ⟨s, h.inners ++ roots, h.library?.toList ++ owners⟩)
    (new : ¬ s.Issued h.node) (refs : t.refs = h.node :: s.refs) (shares : t.shares = s.shares)
    (kept : t.kept = s.kept) (libraries : t.libraries = s.libraries)
    (issued : ∀ x, t.Issued x ↔ x = h.node ∨ s.Issued x) :
    Balanced ⟨t, h :: roots, owners⟩ := by
  have inside : ∀ k, k ∈ alive roots → k ∈ alive (h.inners ++ roots) :=
    fun k => Handle.alive_mono fun j hj => Handle.root_alive (List.mem_append_right _ hj)
  have ha : h ∉ alive roots := fun ha => new (bal.issued h (inside h ha))
  have same := Handle.alive_cons_perm_cons ha
  -- Whatever is alive was so before or is the new handle, and these have different nodes.
  have apart : ∀ k, k ∈ alive (h.inners ++ roots) → k.node ≠ h.node :=
    fun k ka e => new (e ▸ bal.issued k ka)
  refine {
    refs := ?_
    shares := ?_
    apart := ?_
    issued := ?_
    opened := ?_ }
  · show t.refs.Perm _
    rw [refs]
    exact (bal.refs.cons h.node).trans ((Handle.referred_cons_perm_cons ha).symm.map Handle.node)
  · show t.shares.Perm _
    rw [shares]
    refine (bal.shares.trans ?_).trans ((Handle.shared_cons_perm_append ha).symm.append_left owners)
    show (h.library?.toList ++ owners ++ shared _).Perm (owners ++ (_ ++ shared _))
    rw [← List.append_assoc]
    exact List.perm_append_comm.append_right _
  · intro j ja k ka e
    rcases List.mem_cons.1 (same.mem_iff.1 ja) with rfl | ja <;>
      rcases List.mem_cons.1 (same.mem_iff.1 ka) with rfl | ka
    · rfl
    · exact absurd e.symm (apart k ka)
    · exact absurd e (apart j ja)
    · exact bal.apart j ja k ka e
  · intro k ka
    rcases List.mem_cons.1 (same.mem_iff.1 ka) with rfl | ka
    · exact (issued _).2 (.inl rfl)
    · exact (issued _).2 (.inr (bal.issued k ka))
  · show ∀ n, n ∈ t.shares ∨ n ∈ t.kept → t.libraries.Issued n
    rw [shares, kept, libraries]
    exact bal.opened

theorem Balanced.share {library : Tag} (bal : Balanced ⟨s, roots, owners⟩)
    (opened : s.libraries.Issued library) :
    Balanced ⟨{ s with shares := library :: s.shares }, roots, library :: owners⟩ := by
  refine { bal with shares := bal.shares.cons library, opened := ?_ }
  rintro n (shared | kept)
  · rcases List.mem_cons.1 shared with rfl | shared
    · exact opened
    · exact bal.opened n (.inl shared)
  · exact bal.opened n (.inr kept)

theorem Balanced.giveUp {library : Tag} (bal : Balanced ⟨s, roots, library :: owners⟩) :
    Balanced ⟨(s.giveUp library).1, roots, owners⟩ := by
  have shares := bal.shares.erase library
  rw [List.cons_append, List.erase_cons_head] at shares
  rw [Holdings.giveUp_fst]
  refine { bal with shares := shares, opened := ?_ }
  rintro n (shared | kept)
  · exact bal.opened n (.inl (List.mem_of_mem_erase shared))
  · exact bal.opened n (.inr kept)

theorem Balanced.dropAll {held : List Handle} (bal : Balanced ⟨s, held ++ roots, owners⟩) :
    Balanced ⟨(s.dropAll held).1, roots, owners⟩ := by
  induction s, held using Holdings.dropAll_induction generalizing roots owners with
  | nil s => exact bal
  | counted s h rest counted same ih =>
    rw [same]
    exact ih (bal.letGo (bal.mem_refs_erase_iff.1 counted))
  | fragment s tag content held shown rest last same ih =>
    rw [same]
    have left := bal.leave (mt bal.mem_refs_erase_iff.2 last)
    exact ih (left.reorder (.of_eq (List.append_assoc _ _ _).symm) (.refl _))
  | bound s t number library inner rest last inside same ih others =>
    rw [same]
    have left := ih (bal.leave (mt bal.mem_refs_erase_iff.2 last))
    exact others (inside ▸ left).giveUp

theorem Balanced.drop (bal : Balanced ⟨s, h :: roots, owners⟩) :
    Balanced ⟨(s.drop h).1, roots, owners⟩ := by
  have one : Balanced ⟨s, [h] ++ roots, owners⟩ := bal
  rw [← Holdings.dropAll_singleton]
  exact one.dropAll

theorem Balanced.addFragment {held : List Handle} (bal : Balanced ⟨s, held ++ roots, owners⟩)
    (origin : Origin) (content : Fragment) (shown : Option Nat) :
    Balanced ⟨(s.addFragment origin content held shown).2,
      (s.addFragment origin content held shown).1 :: roots, owners⟩ := by
  let h := Handle.fragment (s.fragments.next origin) content held shown
  have made : Balanced ⟨s, h.inners ++ roots, h.library?.toList ++ owners⟩ := bal
  refine made.enter (s.fragments.not_issued_next origin) rfl rfl rfl rfl fun x => ?_
  cases x with
  | fragment tag =>
    simp [Holdings.Issued, Holdings.addFragment, h, Handle.node, Tally.issued_advance_iff]
  | binding number => simp [Holdings.Issued, Holdings.addFragment, h, Handle.node]

theorem Balanced.bind {library : Tag} (bal : Balanced ⟨s, h :: roots, owners⟩)
    (opened : s.libraries.Issued library) :
    Balanced ⟨(s.bind library h).2, (s.bind library h).1 :: roots, owners⟩ := by
  let k := Handle.bound (s.bindings + 1) library h
  have made : Balanced ⟨{ s with shares := library :: s.shares }, k.inners ++ roots,
      k.library?.toList ++ owners⟩ := bal.share opened
  have new : ¬ s.Issued (.binding (s.bindings + 1)) := by simp [Holdings.Issued]
  refine made.enter new rfl rfl rfl rfl fun x => ?_
  cases x with
  | fragment tag => simp [Holdings.Issued, Holdings.bind, k, Handle.node]
  | binding number =>
    simp only [Holdings.Issued, Holdings.bind, k, Handle.node, Node.binding.injEq]
    omega

theorem Balanced.addLibrary (bal : Balanced ⟨s, roots, owners⟩) (origin : Origin) :
    Balanced ⟨(s.addLibrary origin).2, roots, owners⟩ := by
  refine { bal with opened := fun n hn => ?_ }
  exact (s.libraries.issued_advance_iff origin n).2 (.inr (bal.opened n hn))

theorem Balanced.firstShare {library : Tag} (bal : Balanced ⟨s, roots, owners⟩) (unload : Bool)
    (opened : s.libraries.Issued library) :
    Balanced ⟨s.share library unload, roots, library :: owners⟩ := by
  refine { bal with shares := bal.shares.cons library, opened := ?_ }
  rintro n (shared | kept)
  · rcases List.mem_cons.1 shared with rfl | shared
    · exact opened
    · exact bal.opened n (.inl shared)
  · cases unload with
    | true => exact bal.opened n (.inr kept)
    | false =>
      rcases List.mem_cons.1 kept with rfl | kept
      · exact opened
      · exact bal.opened n (.inr kept)

end Ledger

end GraphPlugin
