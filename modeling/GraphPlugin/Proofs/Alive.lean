import GraphPlugin.Handle
import Mathlib.Data.List.Dedup

/-! Which handles are alive. A handle keeps alive what it holds, so the handles that are alive are
the parts of those that somebody holds. How often each of them is referred to, and what changes with
one holder more or less, is said of lists of holders, one entry for each. -/
namespace GraphPlugin.Handle

def inners : Handle → List Handle
  | fragment _ _ held _ => held
  | bound _ _ inner => [inner]

def library? : Handle → Option Tag
  | bound _ library _ => some library
  | _ => none

theorem parts_eq (h : Handle) : h.parts = h :: h.inners.flatMap parts := by
  cases h with
  | fragment tag content held shown => rw [parts, allParts_eq, inners]
  | bound number library inner => simp [parts, inners]

mutual

theorem inner_induction {motive : Handle → Prop}
    (step : ∀ h, (∀ i ∈ h.inners, motive i) → motive h) : ∀ h, motive h
  | fragment _ _ held _ => step _ (inners_induction step held)
  | bound _ _ inner => step _ (List.forall_mem_singleton.2 (inner_induction step inner))

theorem inners_induction {motive : Handle → Prop}
    (step : ∀ h, (∀ i ∈ h.inners, motive i) → motive h) : ∀ hs : List Handle, ∀ i ∈ hs, motive i
  | [] => List.forall_mem_nil _
  | h :: rest => List.forall_mem_cons.2 ⟨inner_induction step h, inners_induction step rest⟩

end

theorem mem_parts_iff (h k : Handle) : k ∈ h.parts ↔ k = h ∨ ∃ i ∈ h.inners, k ∈ i.parts := by
  rw [parts_eq, List.mem_cons, List.mem_flatMap]

theorem inner_mem_parts {h i : Handle} (inside : i ∈ h.inners) : i ∈ h.parts :=
  (mem_parts_iff h i).2 (.inr ⟨i, inside, mem_parts_self i⟩)

theorem mem_inners_of_inner? {h i : Handle} (shown : h.inner? = some i) : i ∈ h.inners := by
  cases h with
  | fragment tag content held shown =>
    obtain ⟨place, _, there⟩ := Option.bind_eq_some_iff.1 shown
    exact List.mem_of_getElem? there
  | bound number library inner =>
    cases shown
    exact List.mem_cons_self

theorem depth_inner {h i : Handle} (shown : h.inner? = some i) : h.depth = i.depth + 1 := by
  rw [depth_eq, shown, Option.elim_some]

theorem parts_trans {h k j : Handle} (hk : k ∈ h.parts) (kj : j ∈ k.parts) : j ∈ h.parts := by
  induction h using inner_induction with
  | step h ih =>
    rcases (mem_parts_iff h k).1 hk with rfl | ⟨i, inside, hk⟩
    · exact kj
    · exact (mem_parts_iff h j).2 (.inr ⟨i, inside, ih i inside hk⟩)

theorem length_parts_inner {h i : Handle} (inside : i ∈ h.inners) :
    i.parts.length < h.parts.length := by
  have sub : i.parts.Sublist (h.inners.flatMap parts) :=
    List.sublist_flatten_of_mem (List.mem_map_of_mem inside)
  have le := sub.length_le
  rw [parts_eq h, List.length_cons]
  omega

theorem length_parts_le {h k : Handle} (hk : k ∈ h.parts) : k.parts.length ≤ h.parts.length := by
  induction h using inner_induction with
  | step h ih =>
    rcases (mem_parts_iff h k).1 hk with rfl | ⟨i, inside, hk⟩
    · exact Nat.le_refl _
    · have below := ih i inside hk
      have above := length_parts_inner inside
      omega

theorem part_parent {h k : Handle} (hk : k ∈ h.parts) :
    k = h ∨ ∃ p ∈ h.parts, k ∈ p.inners := by
  induction h using inner_induction with
  | step h ih =>
    rcases (mem_parts_iff h k).1 hk with rfl | ⟨i, inside, hk⟩
    · exact .inl rfl
    · right
      rcases ih i inside hk with rfl | ⟨p, hp, pk⟩
      · exact ⟨h, mem_parts_self h, inside⟩
      · exact ⟨p, parts_trans (inner_mem_parts inside) hp, pk⟩

theorem not_mem_parts_inner {h i : Handle} (inside : i ∈ h.inners) : h ∉ i.parts := by
  intro hi
  have below := length_parts_le hi
  have above := length_parts_inner inside
  omega

theorem unwrapped_mem_parts (h : Handle) : h.unwrapped ∈ h.parts := by
  unfold unwrapped
  cases shown : h.inner? with
  | none => exact mem_parts_self h
  | some i => exact inner_mem_parts (mem_inners_of_inner? shown)

/-- The handles that are alive while those in a list are held, each of them once. -/
def alive (roots : List Handle) : List Handle := (roots.flatMap parts).dedup

theorem mem_alive_iff (roots : List Handle) (k : Handle) :
    k ∈ alive roots ↔ ∃ r ∈ roots, k ∈ r.parts := by
  simp [alive]

theorem alive_nodup (roots : List Handle) : (alive roots).Nodup := List.nodup_dedup _

theorem root_alive {roots : List Handle} {h : Handle} (held : h ∈ roots) : h ∈ alive roots :=
  (mem_alive_iff roots h).2 ⟨h, held, mem_parts_self h⟩

theorem part_alive {roots : List Handle} {h k : Handle} (ha : h ∈ alive roots)
    (hk : k ∈ h.parts) : k ∈ alive roots := by
  obtain ⟨r, held, hr⟩ := (mem_alive_iff roots h).1 ha
  exact (mem_alive_iff roots k).2 ⟨r, held, parts_trans hr hk⟩

theorem inner_alive {roots : List Handle} {h i : Handle} (ha : h ∈ alive roots)
    (inside : i ∈ h.inners) : i ∈ alive roots := part_alive ha (inner_mem_parts inside)

theorem mem_alive_cons_iff (h k : Handle) (roots : List Handle) :
    k ∈ alive (h :: roots) ↔ k ∈ h.parts ∨ k ∈ alive roots := by
  simp [mem_alive_iff]

theorem alive_cons (h : Handle) {k : Handle} {roots : List Handle} (ka : k ∈ alive roots) :
    k ∈ alive (h :: roots) := (mem_alive_cons_iff h k roots).2 (.inr ka)

theorem mem_alive_append_iff (held roots : List Handle) (k : Handle) :
    k ∈ alive (held ++ roots) ↔ k ∈ alive held ∨ k ∈ alive roots := by
  simp [mem_alive_iff, or_and_right, exists_or]

theorem alive_mono {roots more : List Handle} (sub : ∀ h ∈ roots, h ∈ alive more) {k : Handle}
    (ka : k ∈ alive roots) : k ∈ alive more := by
  obtain ⟨r, held, hr⟩ := (mem_alive_iff roots k).1 ka
  exact part_alive (sub r held) hr

theorem alive_perm {roots more : List Handle} (sub : ∀ h ∈ roots, h ∈ alive more)
    (sup : ∀ h ∈ more, h ∈ alive roots) : (alive roots).Perm (alive more) :=
  (List.perm_ext_iff_of_nodup (alive_nodup _) (alive_nodup _)).2
    fun _ => ⟨alive_mono sub, alive_mono sup⟩

theorem alive_append_perm {held roots : List Handle} (ha : ∀ h ∈ held, h ∈ alive roots) :
    (alive (held ++ roots)).Perm (alive roots) := by
  apply alive_perm
  · intro k hk
    rcases List.mem_append.1 hk with hk | hk
    · exact ha k hk
    · exact root_alive hk
  · intro k hk
    exact root_alive (List.mem_append_right _ hk)

theorem alive_cons_perm {roots : List Handle} {h : Handle} (ha : h ∈ alive roots) :
    (alive (h :: roots)).Perm (alive roots) :=
  alive_append_perm (List.forall_mem_singleton.2 ha)

theorem not_alive_inners {roots : List Handle} {h : Handle} (ha : h ∉ alive roots) :
    h ∉ alive (h.inners ++ roots) := by
  intro again
  obtain ⟨r, held, hr⟩ := (mem_alive_iff _ h).1 again
  rcases List.mem_append.1 held with inside | held
  · exact not_mem_parts_inner inside hr
  · exact ha ((mem_alive_iff roots h).2 ⟨r, held, hr⟩)

theorem alive_cons_perm_cons {roots : List Handle} {h : Handle} (ha : h ∉ alive roots) :
    (alive (h :: roots)).Perm (h :: alive (h.inners ++ roots)) := by
  refine (List.perm_ext_iff_of_nodup (alive_nodup _)
    (List.nodup_cons.2 ⟨not_alive_inners ha, alive_nodup _⟩)).2 fun k => ?_
  rw [mem_alive_cons_iff, mem_parts_iff, List.mem_cons, mem_alive_append_iff,
    mem_alive_iff h.inners, or_assoc]

/-- The handles that something refers to, each as often as something does: from outside, or by
holding it. -/
def referred (roots : List Handle) : List Handle := roots ++ (alive roots).flatMap inners

def shared (roots : List Handle) : List Tag := (alive roots).filterMap library?

theorem mem_referred_iff (roots : List Handle) (k : Handle) :
    k ∈ referred roots ↔ k ∈ alive roots := by
  simp only [referred, List.mem_append, List.mem_flatMap]
  constructor
  · rintro (held | ⟨h, ha, inside⟩)
    · exact root_alive held
    · exact inner_alive ha inside
  · intro ka
    obtain ⟨r, held, hr⟩ := (mem_alive_iff roots k).1 ka
    rcases part_parent hr with rfl | ⟨p, hp, inside⟩
    · exact .inl held
    · exact .inr ⟨p, (mem_alive_iff roots p).2 ⟨r, held, hp⟩, inside⟩

theorem mem_shared_iff (roots : List Handle) (library : Tag) :
    library ∈ shared roots ↔ ∃ h ∈ alive roots, h.library? = some library :=
  List.mem_filterMap

theorem alive_perm_of_perm {roots more : List Handle} (same : roots.Perm more) :
    (alive roots).Perm (alive more) :=
  alive_perm (fun _ h => root_alive (same.mem_iff.1 h)) fun _ h => root_alive (same.mem_iff.2 h)

theorem referred_perm {roots more : List Handle} (same : roots.Perm more) :
    (referred roots).Perm (referred more) :=
  same.append ((alive_perm_of_perm same).flatMap_right _)

theorem shared_perm {roots more : List Handle} (same : roots.Perm more) :
    (shared roots).Perm (shared more) := (alive_perm_of_perm same).filterMap _

theorem referred_append_perm {held roots : List Handle} (ha : ∀ h ∈ held, h ∈ alive roots) :
    (referred (held ++ roots)).Perm (held ++ referred roots) := by
  rw [referred, List.append_assoc]
  exact (((alive_append_perm ha).flatMap_right inners).append_left roots).append_left held

theorem shared_append_perm {held roots : List Handle} (ha : ∀ h ∈ held, h ∈ alive roots) :
    (shared (held ++ roots)).Perm (shared roots) := (alive_append_perm ha).filterMap library?

theorem shared_cons_perm {roots : List Handle} {h : Handle} (ha : h ∈ alive roots) :
    (shared (h :: roots)).Perm (shared roots) := (alive_cons_perm ha).filterMap library?

theorem referred_cons_perm_cons {roots : List Handle} {h : Handle} (ha : h ∉ alive roots) :
    (referred (h :: roots)).Perm (h :: referred (h.inners ++ roots)) := by
  have inners := (alive_cons_perm_cons ha).flatMap_right inners
  rw [List.flatMap_cons] at inners
  refine List.Perm.cons h ((inners.append_left roots).trans ?_)
  rw [referred, ← List.append_assoc]
  exact List.perm_append_comm.append_right _

theorem shared_cons_perm_append {roots : List Handle} {h : Handle} (ha : h ∉ alive roots) :
    (shared (h :: roots)).Perm (h.library?.toList ++ shared (h.inners ++ roots)) := by
  have shares := (alive_cons_perm_cons ha).filterMap library?
  have first : ∀ l : List Handle,
      (h :: l).filterMap library? = h.library?.toList ++ l.filterMap library? := by
    intro l
    cases inside : h.library? <;> simp [inside]
  rwa [first] at shares

end GraphPlugin.Handle
