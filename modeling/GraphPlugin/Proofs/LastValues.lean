import GraphPlugin.Proofs.CanonicalListing
import GraphPlugin.Proofs.Values
import Mathlib.Data.List.Dedup

/-! What is in a bag of parameters. A key has the value that was written to it last, whatever the
kinds of the values before; it is found by the getter for its kind and by no other one. A write
gives back what it replaces and touches no other key, and there is one key more after it exactly
when the key was not there. Entries that are collected make the bag that they make one by one. -/
namespace GraphPlugin

universe u

namespace Keyed

variable {α : Type u}

theorem size_insert (m : Keyed α) (key : String) (value : α) :
    (m.insert key value).size = m.size + if (m.get? key).isSome then 0 else 1 := by
  have inserted : (m.insert key value).size = (m.erase key).size + 1 :=
    (entries_insert_perm m key value).length_eq
  cases found : m.get? key with
  | none => rw [inserted, erase_of_get?_none found, Option.isSome_none, if_neg Bool.false_ne_true]
  | some old =>
    have kept := (entries_insert_perm m key old).length_eq
    rw [insert_of_get? found] at kept
    rw [inserted, Option.isSome_some, if_pos rfl]
    exact kept.symm

theorem isEmpty_iff (m : Keyed α) : m.isEmpty = true ↔ m.size = 0 :=
  List.isEmpty_iff.trans List.length_eq_zero_iff.symm

theorem keys_nodup (m : Keyed α) : m.keys.Nodup := by
  rw [keys, List.Nodup, List.pairwise_map]
  exact m.ordered.imp Text.Precedes.ne

theorem mem_keys_iff (m : Keyed α) (key : String) :
    key ∈ m.keys ↔ ∃ value, m.get? key = some value := by
  simp only [keys, List.mem_map, get?_eq_some_iff]
  constructor
  · rintro ⟨⟨_, value⟩, listed, rfl⟩
    exact ⟨value, listed⟩
  · rintro ⟨value, listed⟩
    exact ⟨_, listed, rfl⟩

theorem exists_get?_ofList_iff (history : List (String × α)) (key : String) :
    (∃ value, (ofList history).get? key = some value) ↔ key ∈ history.map (·.1) := by
  simp only [get?_ofList_iff, List.mem_map]
  rw [← LastWrite.exists_iff]
  constructor
  · rintro ⟨value, last⟩
    exact ⟨_, last⟩
  · rintro ⟨⟨other, value⟩, last⟩
    obtain rfl : other = key := last.here
    exact ⟨value, last⟩

theorem size_ofList (history : List (String × α)) :
    (ofList history).size = (history.map (·.1)).dedup.length := by
  have same : (ofList history).keys.Perm (history.map (·.1)).dedup := by
    refine (List.perm_ext_iff_of_nodup (keys_nodup _) (List.nodup_dedup _)).2 fun key => ?_
    rw [mem_keys_iff, exists_get?_ofList_iff, List.mem_dedup]
  rw [size, ← same.length_eq, keys, List.length_map]

end Keyed

namespace Bags

namespace Look

def ofValue : Option Attribute → Look
  | none => ⟨none, false, none, none, none, none, none⟩
  | some (.text s) => ⟨some (.text s), true, some s, none, none, none, none⟩
  | some (.int i) => ⟨some (.int i), true, none, some i, none, none, none⟩
  | some (.float x) => ⟨some (.float x), true, none, none, some x, none, none⟩
  | some (.bool b) => ⟨some (.bool b), true, none, none, none, some b, none⟩
  | some (.bytes v) => ⟨some (.bytes v), true, none, none, none, none, some v⟩

def given (look : Look) : List Bool :=
  [look.text.isSome, look.int.isSome, look.float.isSome, look.bool.isSome, look.bytes.isSome]

theorem given_ofValue (value : Option Attribute) :
    (ofValue value).given.count true = if value.isSome then 1 else 0 := by
  rcases value with _ | (_ | _ | _ | _ | _) <;> rfl

theorem present_ofValue (value : Option Attribute) : (ofValue value).present = value.isSome := by
  rcases value with _ | (_ | _ | _ | _ | _) <;> rfl

end Look

/-- What a key of a bag has after some steps. -/
def stored (steps : List Step) (name key : String) : Option Attribute :=
  ((after .empty steps).bag name).get? key

theorem stored_eq_some_iff (steps : List Step) (name key : String) (value : Attribute) :
    stored steps name key = some value ↔
      LastWrite (fun e => e.1 = key) (history steps name) (key, value) := by
  rw [stored, bag_after, Keyed.get?_ofList_iff]

theorem stored_eq_none_iff (steps : List Step) (name key : String) :
    stored steps name key = none ↔ ∀ value, (key, value) ∉ history steps name := by
  rw [stored, bag_after, ← Option.not_isSome_iff_eq_none, Option.isSome_iff_exists,
    Keyed.exists_get?_ofList_iff]
  simp

theorem answer_look (steps : List Step) (name key : String) :
    answer steps (.look name key) = .look (.ofValue (stored steps name key)) := by
  simp only [answer, step, stored, Keyed.contains, Params.getText?, Params.getInt?,
    Params.getFloat?, Params.getBool?, Params.getBytes?]
  generalize ((after .empty steps).bag name).get? key = value
  rcases value with _ | (_ | _ | _ | _ | _) <;> rfl

theorem size_after (steps : List Step) (name : String) :
    ((after .empty steps).bag name).size = ((history steps name).map (·.1)).dedup.length := by
  rw [bag_after, Keyed.size_ofList]

theorem after_snoc (bags : Bags) (steps : List Step) (step : Step) :
    after bags (steps ++ [step]) = ((after bags steps).step step).1 := by
  rw [after, List.foldl_append]
  rfl

theorem bag_replace (steps : List Step) (name key : String) (value : Attribute) (other : String) :
    (after .empty (steps ++ [.replace name key value])).bag other =
      if other = name then ((after .empty steps).bag name).insert key value
      else (after .empty steps).bag other := by
  rw [after_snoc]
  exact bag_insert _ _ _ _

theorem stored_replace (steps : List Step) (name key : String) (value : Attribute)
    (other place : String) :
    stored (steps ++ [.replace name key value]) other place =
      if other = name ∧ place = key then some value else stored steps other place := by
  rw [stored, stored, bag_replace]
  by_cases here : other = name
  · subst here
    simp [Keyed.get?_insert]
  · simp [here]

theorem answer_replace (steps : List Step) (name key : String) (value : Attribute) :
    answer steps (.replace name key value) = .replaced (stored steps name key)
      (((history steps name).map (·.1)).dedup.length +
        if (stored steps name key).isSome then 0 else 1) := by
  rw [← size_after, stored, ← Keyed.size_insert _ _ value]
  rfl

theorem after_replaces (bags : Bags) (name : String) (p : Params)
    (entries : List (String × Attribute)) :
    after (bags.insert name p) (entries.map fun e => .replace name e.1 e.2) =
      bags.insert name (entries.foldl (fun m e => m.insert e.1 e.2) p) := by
  induction entries generalizing p with
  | nil => rfl
  | cons e rest ih =>
    have first : (Bags.step (bags.insert name p) (.replace name e.1 e.2)).1 =
        bags.insert name (p.insert e.1 e.2) := by
      simp only [step, Params.replace, bag_insert, if_true]
      exact Keyed.insert_insert bags name p _
    rw [List.map_cons, after, List.foldl_cons, first]
    exact ih (p.insert e.1 e.2)

theorem after_collect (bags : Bags) (steps : List Step) (name : String)
    (entries : List (String × Attribute)) :
    after bags (steps ++ [.collect name entries]) =
      after bags (steps ++ .clear name :: entries.map fun e => .replace name e.1 e.2) := by
  have one_by_one := after_replaces (after bags steps) name .empty entries
  rw [after_snoc, after, after, List.foldl_append, List.foldl_cons]
  exact one_by_one.symm

theorem entries_collect (steps : List Step) (name : String) (entries : List (String × Attribute)) :
    ((after .empty (steps ++ [.collect name entries])).bag name).entries =
      Keyed.sortAtOnce entries := by
  rw [bag_after, history_collect, Keyed.entries_ofList]

/-- A bag after any steps is the map of the last writes in its history: to look at, to write to and
to collect. What `stored` says is what a look shows. -/
structure KeepsLastValues : Prop where
  shown : ∀ steps name key,
    answer steps (.look name key) = .look (.ofValue (stored steps name key))
  last : ∀ steps name key value, stored steps name key = some value ↔
    LastWrite (fun e => e.1 = key) (history steps name) (key, value)
  unwritten : ∀ steps name key,
    stored steps name key = none ↔ ∀ value, (key, value) ∉ history steps name
  typed : ∀ steps name key look, answer steps (.look name key) = .look look →
    look.given.count true = if look.present then 1 else 0
  counted : ∀ steps name entries size isEmpty,
    answer steps (.list name) = .listing entries size isEmpty →
      size = ((history steps name).map (·.1)).dedup.length ∧ (isEmpty = true ↔ size = 0)
  replaced : ∀ steps name key value entries size isEmpty,
    answer steps (.list name) = .listing entries size isEmpty →
      answer steps (.replace name key value) = .replaced (stored steps name key)
        (size + if (stored steps name key).isSome then 0 else 1)
  changed : ∀ steps name key value other place,
    stored (steps ++ [.replace name key value]) other place =
      if other = name ∧ place = key then some value else stored steps other place
  added : ∀ steps name key value, after .empty (steps ++ [.add name key value]) =
    after .empty (steps ++ [.replace name key value])
  collected : ∀ steps name entries, after .empty (steps ++ [.collect name entries]) =
    after .empty (steps ++ .clear name :: entries.map fun e => .replace name e.1 e.2)
  bulk : ∀ steps name entries,
    ((after .empty (steps ++ [.collect name entries])).bag name).entries = Keyed.sortAtOnce entries

theorem keeps_last_values : KeepsLastValues where
  shown := answer_look
  last := stored_eq_some_iff
  unwritten := stored_eq_none_iff
  typed steps name key look shown := by
    rw [answer_look] at shown
    cases shown
    rw [Look.given_ofValue, Look.present_ofValue]
  counted steps name entries size isEmpty shown := by
    rw [answer_list] at shown
    cases shown
    exact ⟨Keyed.size_ofList _, Keyed.isEmpty_iff _⟩
  replaced steps name key value entries size isEmpty shown := by
    rw [answer_list] at shown
    cases shown
    rw [answer_replace, Keyed.size_ofList]
  changed := stored_replace
  added steps name key value := by
    rw [after_snoc, after_snoc]
    rfl
  collected := after_collect .empty
  bulk := entries_collect

end Bags

end GraphPlugin
