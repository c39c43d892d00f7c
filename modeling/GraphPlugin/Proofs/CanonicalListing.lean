import GraphPlugin.Params.Bags
import GraphPlugin.Proofs.LastWrite

/-! The order in which parameters are listed. A bag lists each key that it has once, in the byte
order of the keys and with the value that was written last, so the listing is settled by those last
writes: which writes there were before them, in which order the keys came and whether they came one
by one or many at a time makes no difference. -/
namespace GraphPlugin

universe u

namespace Keyed

variable {α : Type u}

theorem get?_ofList_iff (history : List (String × α)) (key : String) (value : α) :
    (ofList history).get? key = some value ↔
      LastWrite (fun e => e.1 = key) history (key, value) := by
  have read : (ofList history).get? key = some value ↔
      ∃ e, LastWrite (fun e : String × α => e.1 = key) history e ∧ some e.2 = some value := by
    apply read_foldl_iff (fun m : Keyed α => m.get? key) (get?_empty key)
    · rintro m ⟨other, new⟩ rfl
      exact get?_insert_self m other new
    · intro m e elsewhere
      exact get?_insert_of_ne m e.2 (Ne.symm elsewhere)
  rw [read]
  constructor
  · rintro ⟨⟨other, found⟩, last, same⟩
    obtain rfl : other = key := last.here
    cases same
    exact last
  · intro last
    exact ⟨_, last, rfl⟩

theorem ofList_congr {history other : List (String × α)}
    (same : ∀ key value, LastWrite (fun e => e.1 = key) history (key, value) ↔
      LastWrite (fun e => e.1 = key) other (key, value)) : ofList history = ofList other := by
  apply ext_get?
  intro key
  apply Option.ext
  intro value
  rw [get?_ofList_iff, get?_ofList_iff, same]

/-- No key comes twice in a listing, so each entry is the last write to its key. -/
theorem lastWrite_entries_iff (m : Keyed α) (key : String) (value : α) :
    LastWrite (fun e => e.1 = key) m.entries (key, value) ↔ (key, value) ∈ m.entries := by
  constructor
  · exact LastWrite.mem
  · intro listed
    have written : ∃ e ∈ m.entries, e.1 = key := ⟨_, listed, rfl⟩
    obtain ⟨⟨other, found⟩, last⟩ := LastWrite.exists_iff.2 written
    obtain rfl : other = key := last.here
    have again := (get?_eq_some_iff m other found).2 last.mem
    have same := again.symm.trans ((get?_eq_some_iff m other value).2 listed)
    rwa [Option.some.inj same] at last

theorem ofList_entries (m : Keyed α) : ofList m.entries = m := by
  apply ext_get?
  intro key
  apply Option.ext
  intro value
  rw [get?_ofList_iff, lastWrite_entries_iff, get?_eq_some_iff]

theorem ofList_snoc (history : List (String × α)) (key : String) (value : α) :
    ofList (history ++ [(key, value)]) = (ofList history).insert key value := by
  rw [ofList, List.foldl_append]
  rfl

def inOrder (e f : String × α) : Bool := !decide (Text.Precedes f.1 e.1)

def keepLast : List (String × α) → List (String × α)
  | [] => []
  | e :: rest => if rest.head?.map (·.1) = some e.1 then keepLast rest else e :: keepLast rest

/-- The entries sorted by their keys, those with one key in the order in which they came, and of
these the last one. -/
def sortAtOnce (entries : List (String × α)) : List (String × α) :=
  keepLast (entries.mergeSort inOrder)

theorem inOrder_trans (e f g : String × α) (first : inOrder e f = true)
    (second : inOrder f g = true) :
    inOrder e g = true := by
  simp only [inOrder, Bool.not_eq_true', decide_eq_false_iff_not] at *
  exact Text.not_precedes_trans first second

theorem inOrder_total (e f : String × α) : (inOrder e f || inOrder f e) = true := by
  simp only [inOrder, Bool.or_eq_true, Bool.not_eq_true', decide_eq_false_iff_not]
  exact Text.not_precedes_total e.1 f.1

theorem filter_mergeSort (entries : List (String × α)) (key : String) :
    (entries.mergeSort inOrder).filter (fun e => e.1 = key) =
      entries.filter (fun e => e.1 = key) := by
  have alike : (entries.filter fun e => e.1 = key).Pairwise fun e f => inOrder e f = true := by
    apply List.pairwise_of_forall_mem_list
    intro e he f hf
    have first := (List.mem_filter.1 he).2
    have second := (List.mem_filter.1 hf).2
    simp_all [inOrder, Text.precedes_irrefl]
  have stable := List.sublist_mergeSort inOrder_trans inOrder_total alike List.filter_sublist
  have kept := stable.filter (fun e => decide (e.1 = key))
  rw [List.filter_filter] at kept
  simp only [Bool.and_self] at kept
  have same := ((List.mergeSort_perm entries inOrder).filter
    (fun e => decide (e.1 = key))).length_eq
  exact (kept.eq_of_length same.symm).symm

theorem lastWrite_iff_getLast? (entries : List (String × α)) (key : String) (e : String × α) :
    LastWrite (fun e => e.1 = key) entries e ↔
      (entries.filter fun e => e.1 = key).getLast? = some e := by
  induction entries using List.reverseRecOn with
  | nil => simp [LastWrite.not_nil]
  | append_singleton entries last ih =>
    rw [LastWrite.snoc_iff, ih]
    by_cases here : last.1 = key
    · simp [here, eq_comm]
    · simp [here]

theorem keepLast_sublist (entries : List (String × α)) : (keepLast entries).Sublist entries := by
  induction entries with
  | nil => exact .slnil
  | cons e rest ih =>
    unfold keepLast
    split
    · exact ih.cons e
    · exact ih.cons_cons e

theorem above_of_inOrder {e : String × α} {rest : List (String × α)}
    (ordered : (e :: rest).Pairwise fun e f => inOrder e f = true)
    (last : rest.head?.map (·.1) ≠ some e.1) : ∀ f ∈ rest, Text.Precedes e.1 f.1 := by
  cases rest with
  | nil => simp
  | cons next rest =>
    simp only [List.pairwise_cons, List.forall_mem_cons, inOrder, Bool.not_eq_true',
      decide_eq_false_iff_not] at ordered
    obtain ⟨⟨first, _⟩, behind, _⟩ := ordered
    have apart : next.1 ≠ e.1 := by simpa using last
    have below : Text.Precedes e.1 next.1 := by
      rcases Text.precedes_or_eq e.1 next.1 with below | same | above
      · exact below
      · exact absurd same.symm apart
      · contradiction
    intro f there
    rcases List.mem_cons.1 there with rfl | there
    · exact below
    · rcases Text.precedes_or_eq e.1 f.1 with above | same | under
      · exact above
      · exact absurd (same ▸ below) (behind f there)
      · exact absurd (under.trans below) (behind f there)

theorem keepLast_ordered {entries : List (String × α)}
    (ordered : entries.Pairwise fun e f => inOrder e f = true) :
    (keepLast entries).Pairwise fun e f => Text.Precedes e.1 f.1 := by
  induction entries with
  | nil => exact .nil
  | cons e rest ih =>
    unfold keepLast
    split
    · exact ih ordered.of_cons
    · next last =>
      refine .cons ?_ (ih ordered.of_cons)
      intro f kept
      exact above_of_inOrder ordered last f ((keepLast_sublist rest).subset kept)

theorem mem_keepLast_iff {entries : List (String × α)}
    (ordered : entries.Pairwise fun e f => inOrder e f = true) (e : String × α) :
    e ∈ keepLast entries ↔ (entries.filter fun f => f.1 = e.1).getLast? = some e := by
  induction entries with
  | nil => simp [keepLast]
  | cons f rest ih =>
    have behind := ih ordered.of_cons
    unfold keepLast
    by_cases again : rest.head?.map (·.1) = some f.1
    · rw [if_pos again, behind]
      by_cases here : f.1 = e.1
      · obtain ⟨next, found, same⟩ := Option.map_eq_some_iff.1 again
        have there : next ∈ rest.filter fun f => f.1 = e.1 := by
          simp [List.mem_of_mem_head? found, same, here]
        rw [List.filter_cons_of_pos (by simpa using here),
          List.getLast?_cons_of_ne_nil (List.ne_nil_of_mem there)]
      · rw [List.filter_cons_of_neg (by simpa using here)]
    · have above := above_of_inOrder ordered again
      rw [if_neg again, List.mem_cons, behind]
      by_cases here : f.1 = e.1
      · have none : rest.filter (fun f => f.1 = e.1) = [] := by
          apply List.filter_eq_nil_iff.2
          intro g there
          have apart := (above g there).ne
          simpa [← here] using apart.symm
        rw [List.filter_cons_of_pos (by simpa using here), none]
        simp [eq_comm]
      · have apart : e ≠ f := fun same => here (congrArg Prod.fst same.symm)
        simp [here, apart]

theorem entries_ofList (entries : List (String × α)) :
    (ofList entries).entries = sortAtOnce entries := by
  have sorted := List.pairwise_mergeSort inOrder_trans inOrder_total entries
  apply eq_of_same_members (ordered _) (keepLast_ordered sorted)
  rintro ⟨key, value⟩
  rw [← get?_eq_some_iff, get?_ofList_iff, lastWrite_iff_getLast?, mem_keepLast_iff sorted,
    filter_mergeSort]

end Keyed

namespace Bags

/-- What a step adds to the histories of the bags. A bag that is collected or copied starts again,
with the entries that it is collected from or with the history of the bag that it is a copy of. -/
def noted (histories : String → List (String × Attribute)) :
    Step → String → List (String × Attribute)
  | .clear bag, name => if name = bag then [] else histories name
  | .add bag key value, name =>
    if name = bag then histories name ++ [(key, value)] else histories name
  | .replace bag key value, name =>
    if name = bag then histories name ++ [(key, value)] else histories name
  | .collect bag entries, name => if name = bag then entries else histories name
  | .copy bag result, name => if name = result then histories bag else histories name
  | _, name => histories name

def history (steps : List Step) : String → List (String × Attribute) :=
  steps.foldl noted fun _ => []

def after (bags : Bags) (steps : List Step) : Bags :=
  steps.foldl (fun bags step => (bags.step step).1) bags

def answer (steps : List Step) (step : Step) : Answer := ((after .empty steps).step step).2

theorem run_snoc (bags : Bags) (steps : List Step) (step : Step) :
    bags.run (steps ++ [step]) = bags.run steps ++ [((bags.after steps).step step).2] := by
  induction steps generalizing bags with
  | nil => rfl
  | cons first rest ih =>
    simp only [List.cons_append, run, ih]
    rfl

theorem bag_insert (bags : Bags) (key name : String) (p : Params) :
    Bags.bag (bags.insert key p) name = if name = key then p else bags.bag name := by
  unfold bag
  rw [Keyed.get?_insert]
  split <;> rfl

theorem bag_step (bags : Bags) (histories : String → List (String × Attribute))
    (agree : ∀ name, bags.bag name = .ofList (histories name)) (step : Step) (name : String) :
    (bags.step step).1.bag name = .ofList (noted histories step name) := by
  cases step with
  | clear bag =>
    simp only [Bags.step, noted, bag_insert, agree]
    split <;> rfl
  | add bag key value =>
    simp only [Bags.step, noted, bag_insert, agree]
    split
    · next same => rw [same, Keyed.ofList_snoc]
    · rfl
  | replace bag key value =>
    simp only [Bags.step, noted, bag_insert, agree, Params.replace]
    split
    · next same => rw [same, Keyed.ofList_snoc]
    · rfl
  | collect bag entries =>
    simp only [Bags.step, noted, bag_insert, agree]
    split <;> rfl
  | copy bag result =>
    simp only [Bags.step, noted, bag_insert, agree]
    split <;> rfl
  | look bag key => exact agree name
  | list bag => exact agree name
  | compare bag other => exact agree name

/-- However a bag has come about, it is the one that its history makes when it is put in from first
to last. -/
theorem bag_after (steps : List Step) (name : String) :
    (after .empty steps).bag name = .ofList (history steps name) := by
  induction steps using List.reverseRecOn generalizing name with
  | nil => rfl
  | append_singleton steps step ih =>
    rw [after, history, List.foldl_append, List.foldl_append]
    exact bag_step _ _ ih step name

theorem answer_list (steps : List Step) (name : String) :
    answer steps (.list name) =
      .listing (Keyed.ofList (history steps name)).entries
        (Keyed.ofList (history steps name)).size (Keyed.ofList (history steps name)).isEmpty := by
  rw [← bag_after]
  rfl

theorem history_collect (steps : List Step) (name : String) (entries : List (String × Attribute)) :
    history (steps ++ [.collect name entries]) name = entries := by
  rw [history, List.foldl_append]
  exact if_pos rfl

/-- What is listed of a bag after any steps. It is all that the bag has, in strict order of the keys
and with their last values, as many entries as the bag is said to have, and what a look at a key
finds; two bags with the same last writes are listed alike; entries that are collected are listed as
when they are sorted at once; and the entries of a listing make a bag that is listed as they are. -/
structure ListsCanonically : Prop where
  answered : ∀ steps step, run .empty (steps ++ [step]) = run .empty steps ++ [answer steps step]
  listed : ∀ steps name, ∃ entries,
    answer steps (.list name) = .listing entries entries.length entries.isEmpty ∧
      entries.Pairwise (fun a b => Text.Precedes a.1 b.1) ∧
      ∀ key value, (key, value) ∈ entries ↔
        LastWrite (fun e => e.1 = key) (history steps name) (key, value)
  found : ∀ steps name entries size isEmpty,
    answer steps (.list name) = .listing entries size isEmpty →
    ∀ key, ∃ look, answer steps (.look name key) = .look look ∧
      (look.present = true ↔ ∃ value, (key, value) ∈ entries) ∧
      ∀ value, look.value = some value ↔ (key, value) ∈ entries
  agree : ∀ steps others name other,
    (∀ key value, LastWrite (fun e => e.1 = key) (history steps name) (key, value) ↔
      LastWrite (fun e => e.1 = key) (history others other) (key, value)) →
    answer steps (.list name) = answer others (.list other)
  bulk : ∀ steps name entries, answer (steps ++ [.collect name entries]) (.list name) =
    .listing (Keyed.sortAtOnce entries) (Keyed.sortAtOnce entries).length
      (Keyed.sortAtOnce entries).isEmpty
  collected : ∀ steps name entries size isEmpty other,
    answer steps (.list name) = .listing entries size isEmpty →
      answer (steps ++ [.collect other entries]) (.list other) = .listing entries size isEmpty

theorem lists_canonically : ListsCanonically where
  answered steps step := run_snoc .empty steps step
  listed steps name := by
    refine ⟨_, answer_list steps name, Keyed.ordered _, fun key value => ?_⟩
    rw [← Keyed.get?_eq_some_iff, Keyed.get?_ofList_iff]
  found steps name entries size isEmpty shown key := by
    rw [answer_list] at shown
    cases shown
    simp only [← Keyed.get?_eq_some_iff, ← bag_after]
    exact ⟨_, rfl, Option.isSome_iff_exists, fun _ => Iff.rfl⟩
  agree steps others name other same := by
    rw [answer_list, answer_list, Keyed.ofList_congr same]
  bulk steps name entries := by
    rw [answer_list, history_collect, ← Keyed.entries_ofList]
    rfl
  collected steps name entries size isEmpty other shown := by
    rw [answer_list] at shown ⊢
    rw [history_collect]
    cases shown
    rw [Keyed.ofList_entries]

end Bags

end GraphPlugin
