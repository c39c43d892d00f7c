import GraphPlugin.Proofs.Doubles
import GraphPlugin.Proofs.LastValues
import Mathlib.Data.List.Forall2

/-! When two bags are equal. Bags are compared listing against listing, and that is the same as key
against key: how they were filled makes no difference. The comparison is symmetric and transitive. A
bag is equal to itself, and to its copies, unless it holds a float that stands for no number. -/
namespace GraphPlugin

universe u v

namespace Attribute

/-- Values of one kind with the same content, floats with the same number. -/
inductive Agree : Attribute → Attribute → Prop
  | text (s : String) : Agree (text s) (text s)
  | int (i : Int64) : Agree (int i) (int i)
  | float {x y : Binary64} {number : Binary64.Number} :
    x.number? = some number → y.number? = some number → Agree (float x) (float y)
  | bool (b : Bool) : Agree (bool b) (bool b)
  | bytes (v : List UInt8) : Agree (bytes v) (bytes v)

def Numberless (v : Attribute) : Prop := ∃ x, v = float x ∧ x.number? = none

theorem equal_iff_agree (v w : Attribute) : v.equal w = true ↔ Agree v w := by
  constructor
  · intro equal
    unfold Attribute.equal at equal
    split at equal
    · rw [beq_iff_eq.1 equal]
      exact .text _
    · rw [beq_iff_eq.1 equal]
      exact .int _
    · obtain ⟨number, here, there⟩ := (Binary64.equal_iff_number? _ _).1 equal
      exact .float here there
    · rw [beq_iff_eq.1 equal]
      exact .bool _
    · rw [beq_iff_eq.1 equal]
      exact .bytes _
    · contradiction
  · rintro (_ | _ | ⟨here, there⟩ | _ | _)
    case float => exact (Binary64.equal_iff_number? _ _).2 ⟨_, here, there⟩
    all_goals exact beq_self_eq_true _

theorem Agree.symm {v w : Attribute} (agree : Agree v w) : Agree w v := by
  cases agree with
  | float here there => exact .float there here
  | text s => exact .text s
  | int i => exact .int i
  | bool b => exact .bool b
  | bytes v => exact .bytes v

theorem Agree.trans {u v w : Attribute} (first : Agree u v) (second : Agree v w) : Agree u w := by
  cases first with
  | float here there =>
    cases second with
    | float again further =>
      obtain rfl := Option.some.inj (again.symm.trans there)
      exact .float here further
  | text _ => exact second
  | int _ => exact second
  | bool _ => exact second
  | bytes _ => exact second

theorem agree_self_iff (v : Attribute) : Agree v v ↔ ¬ v.Numberless := by
  constructor
  · rintro agree ⟨x, rfl, none⟩
    cases agree with
    | float here _ =>
      rw [none] at here
      cases here
  · intro number
    cases v with
    | float x =>
      have some : x.number? ≠ none := fun none => number ⟨x, rfl, none⟩
      obtain ⟨n, here⟩ := Option.ne_none_iff_exists'.1 some
      exact .float here here
    | text s => exact .text s
    | int i => exact .int i
    | bool b => exact .bool b
    | bytes v => exact .bytes v

end Attribute

namespace Keyed

variable {α : Type u} {β : Type v} {same : α → β → Prop}

theorem lookup_of_above {key : String} {l : List (String × α)}
    (above : ∀ e ∈ l, Text.Precedes key e.1) : l.lookup key = none := by
  rw [List.lookup_eq_none_iff]
  intro e there
  exact bne_iff_ne.2 (above e there).ne

theorem lookup_of_below_head {key : String} {e : String × α} {l : List (String × α)}
    (ordered : (e :: l).Pairwise fun a b => Text.Precedes a.1 b.1) (below : Text.Precedes key e.1) :
    (e :: l).lookup key = none := by
  refine lookup_of_above (List.forall_mem_cons.2 ⟨below, fun f there => ?_⟩)
  exact below.trans (List.rel_of_pairwise_cons ordered there)

theorem lookup_head (e : String × α) (l : List (String × α)) : (e :: l).lookup e.1 = some e.2 := by
  rw [lookup_entry, if_pos (beq_self_eq_true _)]

theorem lookup_tail {key : String} {e : String × α} (ne : key ≠ e.1) (l : List (String × α)) :
    (e :: l).lookup key = l.lookup key := by
  rw [lookup_entry, if_neg (mt beq_iff_eq.1 ne)]

theorem forall₂_of_lookup {l : List (String × α)} {k : List (String × β)}
    (hl : l.Pairwise fun a b => Text.Precedes a.1 b.1)
    (hk : k.Pairwise fun a b => Text.Precedes a.1 b.1)
    (related : ∀ key, Option.Rel same (l.lookup key) (k.lookup key)) :
    List.Forall₂ (fun a b => a.1 = b.1 ∧ same a.2 b.2) l k := by
  induction l generalizing k with
  | nil =>
    cases k with
    | nil => exact .nil
    | cons b k =>
      have first := related b.1
      rw [lookup_head] at first
      cases first
  | cons a l ih =>
    cases k with
    | nil =>
      have first := related a.1
      rw [lookup_head] at first
      cases first
    | cons b k =>
      have heads : a.1 = b.1 := by
        rcases Text.precedes_or_eq a.1 b.1 with below | equal | above
        · have first := related a.1
          rw [lookup_head, lookup_of_below_head hk below] at first
          cases first
        · exact equal
        · have first := related b.1
          rw [lookup_head, lookup_of_below_head hl above] at first
          cases first
      have values : same a.2 b.2 := by
        have first := related a.1
        rw [lookup_head, heads, lookup_head] at first
        cases first with
        | some pair => exact pair
      refine .cons ⟨heads, values⟩ (ih hl.of_cons hk.of_cons fun key => ?_)
      by_cases here : key = a.1
      · subst here
        rw [lookup_of_above fun _ => List.rel_of_pairwise_cons hl,
          lookup_of_above fun _ there => heads ▸ List.rel_of_pairwise_cons hk there]
        exact .none
      · have later := related key
        rwa [lookup_tail here, lookup_tail (heads ▸ here)] at later

theorem lookup_of_forall₂ {l : List (String × α)} {k : List (String × β)}
    (matched : List.Forall₂ (fun a b => a.1 = b.1 ∧ same a.2 b.2) l k) (key : String) :
    Option.Rel same (l.lookup key) (k.lookup key) := by
  induction matched with
  | nil => exact .none
  | @cons a b l k pair _ ih =>
    by_cases here : key = a.1
    · rw [here, lookup_head, pair.1, lookup_head]
      exact .some pair.2
    · rwa [lookup_tail here, lookup_tail (pair.1 ▸ here)]

theorem forall₂_entries_iff (m : Keyed α) (n : Keyed β) :
    List.Forall₂ (fun a b => a.1 = b.1 ∧ same a.2 b.2) m.entries n.entries ↔
      ∀ key, Option.Rel same (m.get? key) (n.get? key) :=
  ⟨lookup_of_forall₂, forall₂_of_lookup m.ordered n.ordered⟩

end Keyed

theorem isEqv_iff_forall₂ {α : Type u} (eqv : α → α → Bool) (l k : List α) :
    l.isEqv k eqv = true ↔ List.Forall₂ (fun a b => eqv a b = true) l k := by
  induction l generalizing k with
  | nil => cases k <;> simp [List.isEqv]
  | cons a l ih => cases k <;> simp [List.isEqv, ih]

theorem rel_iff {α : Type u} {β : Type v} {same : α → β → Prop} (x : Option α) (y : Option β) :
    Option.Rel same x y ↔
      x.isSome = y.isSome ∧ ∀ a b, x = some a → y = some b → same a b := by
  constructor
  · rintro (pair | _)
    · exact ⟨rfl, by rintro _ _ ⟨⟩ ⟨⟩; exact pair⟩
    · exact ⟨rfl, by simp⟩
  · rintro ⟨both, pairs⟩
    cases x with
    | none =>
      cases y with
      | none => exact .none
      | some b => cases both
    | some a =>
      cases y with
      | none => cases both
      | some b => exact .some (pairs a b rfl rfl)

namespace Params

/-- The bags have the same keys, and under each key values that agree. -/
structure Agree (p q : Params) : Prop where
  keys : ∀ key, p.contains key = q.contains key
  values : ∀ key v w, p.get? key = some v → q.get? key = some w → Attribute.Agree v w

variable {p q r : Params}

theorem equal_iff_agree (p q : Params) : p.equal q = true ↔ p.Agree q := by
  have matched : p.equal q = true ↔
      ∀ key, Option.Rel Attribute.Agree (p.get? key) (q.get? key) := by
    rw [← Keyed.forall₂_entries_iff, equal, isEqv_iff_forall₂]
    simp only [Bool.and_eq_true, beq_iff_eq, Attribute.equal_iff_agree]
  simp only [matched, rel_iff, forall_and]
  exact ⟨fun ⟨keys, values⟩ => ⟨keys, values⟩, fun agree => ⟨agree.keys, agree.values⟩⟩

theorem Agree.symm (agree : p.Agree q) : q.Agree p where
  keys key := (agree.keys key).symm
  values key v w here there := (agree.values key w v there here).symm

theorem Agree.trans (first : p.Agree q) (second : q.Agree r) : p.Agree r where
  keys key := (first.keys key).trans (second.keys key)
  values key v w here there := by
    have present : q.contains key = true := by
      rw [← first.keys, Keyed.contains, here, Option.isSome_some]
    obtain ⟨u, between⟩ := Option.isSome_iff_exists.1 present
    exact (first.values key v u here between).trans (second.values key u w between there)

theorem agree_self_iff (p : Params) :
    p.Agree p ↔ ∀ key v, p.get? key = some v → ¬ v.Numberless := by
  constructor
  · intro agree key v here
    exact (Attribute.agree_self_iff v).1 (agree.values key v v here here)
  · intro numbers
    refine ⟨fun _ => rfl, fun key v w here there => ?_⟩
    obtain rfl := Option.some.inj (here.symm.trans there)
    exact (Attribute.agree_self_iff v).2 (numbers key v here)

theorem Agree.insert (agree : p.Agree q) (key : String) {value : Attribute}
    (number : ¬ value.Numberless) : Agree (p.insert key value) (q.insert key value) where
  keys other := by
    have before := agree.keys other
    simp only [Keyed.contains, Keyed.get?_insert] at before ⊢
    split
    · rfl
    · exact before
  values other v w here there := by
    rw [Keyed.get?_insert] at here there
    by_cases same : other = key
    · rw [if_pos same] at here there
      obtain rfl := Option.some.inj here
      obtain rfl := Option.some.inj there
      exact (Attribute.agree_self_iff _).2 number
    · rw [if_neg same] at here there
      exact agree.values other v w here there

end Params

namespace Bags

theorem equal_after_iff (steps : List Step) (name other : String) :
    answer steps (.compare name other) = .equal true ↔
      ((after .empty steps).bag name).Agree ((after .empty steps).bag other) := by
  have compared : answer steps (.compare name other) =
      .equal (((after .empty steps).bag name).equal ((after .empty steps).bag other)) := rfl
  rw [compared, Answer.equal.injEq, Params.equal_iff_agree]

theorem bag_copy (steps : List Step) (name copy other : String) :
    (after .empty (steps ++ [.copy name copy])).bag other =
      if other = copy then (after .empty steps).bag name else (after .empty steps).bag other := by
  rw [after_snoc]
  exact bag_insert _ _ _ _

theorem answer_compare_copy (steps : List Step) (name copy : String) :
    answer (steps ++ [.copy name copy]) (.compare name copy) =
      answer steps (.compare name name) := by
  have original : (after .empty (steps ++ [.copy name copy])).bag name =
      (after .empty steps).bag name := by
    rw [bag_copy, ite_self]
  have copied : (after .empty (steps ++ [.copy name copy])).bag copy =
      (after .empty steps).bag name := by
    rw [bag_copy, if_pos rfl]
  simp only [answer, step, original, copied]

theorem bags_replace_both (steps : List Step) (name other key : String) (value : Attribute) :
    (after .empty (steps ++ [.replace name key value, .replace other key value])).bag name =
        ((after .empty steps).bag name).insert key value ∧
      (after .empty (steps ++ [.replace name key value, .replace other key value])).bag other =
        ((after .empty steps).bag other).insert key value := by
  rw [List.append_cons]
  simp only [bag_replace]
  by_cases same : name = other
  · subst same
    simp [Keyed.insert_insert]
  · simp [same, Ne.symm same]

/-- Under each key the same value was written last. -/
def SameWrites (history others : List (String × Attribute)) : Prop :=
  ∀ key value, LastWrite (fun e => e.1 = key) history (key, value) ↔
    LastWrite (fun e => e.1 = key) others (key, value)

theorem bag_after_congr {steps others : List Step} {name other : String}
    (same : SameWrites (history steps name) (history others other)) :
    (after .empty steps).bag name = (after .empty others).bag other := by
  rw [bag_after, bag_after, Keyed.ofList_congr same]

/-- How bags compare after any steps: by their keys and values, which are those of the last writes,
as a partial equivalence that fails to be reflexive exactly for the floats without a number. -/
structure ComparesContent : Prop where
  compared : ∀ steps name other, ∃ result, answer steps (.compare name other) = .equal result ∧
    (result = true ↔
      (∀ key, (stored steps name key).isSome = (stored steps other key).isSome) ∧
        ∀ key v w, stored steps name key = some v → stored steps other key = some w →
          Attribute.Agree v w)
  zeros : ∀ x y : Binary64, x.isZero = true → y.isZero = true →
    Attribute.Agree (.float x) (.float y)
  numberless : ∀ x : Binary64, x.isNaN = true →
    ∀ v, ¬ Attribute.Agree (.float x) v ∧ ¬ Attribute.Agree v (.float x)
  settled : ∀ steps others a b c d, SameWrites (history steps a) (history others c) →
    SameWrites (history steps b) (history others d) →
      answer steps (.compare a b) = answer others (.compare c d)
  symmetric : ∀ steps a b, answer steps (.compare a b) = answer steps (.compare b a)
  transitive : ∀ steps a b c, answer steps (.compare a b) = .equal true →
    answer steps (.compare b c) = .equal true → answer steps (.compare a c) = .equal true
  reflexive : ∀ steps name, answer steps (.compare name name) = .equal true ↔
    ∀ key v, stored steps name key = some v → ¬ v.Numberless
  copied : ∀ steps name copy, answer (steps ++ [.copy name copy]) (.compare name copy) =
    answer steps (.compare name name)
  extended : ∀ steps name other key value, answer steps (.compare name other) = .equal true →
    ¬ value.Numberless →
      answer (steps ++ [.replace name key value, .replace other key value])
        (.compare name other) = .equal true
  mended : ∀ steps name copy key value,
    answer (steps ++ [.replace name key value, .copy name copy]) (.compare name copy) =
        .equal true ↔
      ¬ value.Numberless ∧
        ∀ other v, other ≠ key → stored steps name other = some v → ¬ v.Numberless

theorem reflexive_iff (steps : List Step) (name : String) :
    answer steps (.compare name name) = .equal true ↔
      ∀ key v, stored steps name key = some v → ¬ v.Numberless :=
  (equal_after_iff steps name name).trans (Params.agree_self_iff _)

theorem mended_iff (steps : List Step) (name copy key : String) (value : Attribute) :
    answer (steps ++ [.replace name key value, .copy name copy]) (.compare name copy) =
        .equal true ↔
      ¬ value.Numberless ∧
        ∀ other v, other ≠ key → stored steps name other = some v → ¬ v.Numberless := by
  rw [List.append_cons, answer_compare_copy, reflexive_iff]
  simp only [stored_replace, true_and]
  constructor
  · intro numbers
    refine ⟨numbers key value (if_pos rfl), fun other v elsewhere found => numbers other v ?_⟩
    rw [if_neg elsewhere, found]
  · rintro ⟨number, numbers⟩ other v found
    by_cases here : other = key
    · rw [if_pos here] at found
      exact Option.some.inj found ▸ number
    · rw [if_neg here] at found
      exact numbers other v here found

theorem compares_content : ComparesContent where
  compared steps name other := by
    refine ⟨_, rfl, (Params.equal_iff_agree _ _).trans ?_⟩
    exact ⟨fun agree => ⟨agree.keys, agree.values⟩, fun ⟨keys, values⟩ => ⟨keys, values⟩⟩
  zeros x y zero zero' :=
    .float (Binary64.number?_of_isZero zero) (Binary64.number?_of_isZero zero')
  numberless x nan v := by
    have none := (Binary64.number?_eq_none_iff x).2 nan
    constructor
    · rintro (_ | _ | ⟨here, _⟩)
      rw [none] at here
      cases here
    · rintro (_ | _ | ⟨_, here⟩)
      rw [none] at here
      cases here
  settled steps others a b c d first second := by
    simp only [answer, step, bag_after_congr first, bag_after_congr second]
  symmetric steps a b := by
    have either : ((after .empty steps).bag a).equal ((after .empty steps).bag b) =
        ((after .empty steps).bag b).equal ((after .empty steps).bag a) := by
      rw [Bool.eq_iff_iff, Params.equal_iff_agree, Params.equal_iff_agree]
      exact ⟨.symm, .symm⟩
    exact congrArg Answer.equal either
  transitive steps a b c first second := by
    rw [equal_after_iff] at *
    exact first.trans second
  reflexive := reflexive_iff
  copied := answer_compare_copy
  extended steps name other key value equal number := by
    obtain ⟨here, there⟩ := bags_replace_both steps name other key value
    rw [equal_after_iff] at equal ⊢
    rw [here, there]
    exact equal.insert key number
  mended := mended_iff

end Bags

end GraphPlugin
