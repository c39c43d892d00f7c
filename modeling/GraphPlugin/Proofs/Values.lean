import GraphPlugin.Keyed
import Mathlib.Data.List.Nodup

/-! The values of a dictionary as a list, one for each key. Their order is that of the keys, so what
an insertion does to them is stated up to order. Then changes of the value under a key, and
dictionaries whose values are related key by key. -/
namespace GraphPlugin.Keyed

universe u

variable {α : Type u}

def values (m : Keyed α) : List α := m.entries.map (·.2)

theorem mem_values_iff (m : Keyed α) (value : α) :
    value ∈ m.values ↔ ∃ key, m.get? key = some value := by
  simp only [values, List.mem_map, get?_eq_some_iff]
  constructor
  · rintro ⟨e, he, rfl⟩
    exact ⟨e.1, he⟩
  · rintro ⟨key, h⟩
    exact ⟨(key, value), h, rfl⟩

theorem entries_nodup (m : Keyed α) : m.entries.Nodup :=
  m.ordered.imp fun h e => h.ne (congrArg Prod.fst e)

theorem entries_insert_perm (m : Keyed α) (key : String) (value : α) :
    (m.insert key value).entries.Perm ((key, value) :: (m.erase key).entries) := by
  have absent : (key, value) ∉ (m.erase key).entries := by
    rw [← get?_eq_some_iff, get?_erase]
    simp
  refine (List.perm_ext_iff_of_nodup (entries_nodup _)
    (List.nodup_cons.2 ⟨absent, entries_nodup _⟩)).2 fun e => ?_
  obtain ⟨k, v⟩ := e
  rw [List.mem_cons, ← get?_eq_some_iff, ← get?_eq_some_iff, get?_insert, get?_erase]
  by_cases h : k = key
  · simp [h, eq_comm]
  · simp [h]

theorem values_insert_perm (m : Keyed α) (key : String) (value : α) :
    (m.insert key value).values.Perm (value :: (m.erase key).values) :=
  (entries_insert_perm m key value).map _

theorem insert_of_get? {m : Keyed α} {key : String} {value : α} (h : m.get? key = some value) :
    m.insert key value = m := by
  apply ext_get?
  intro other
  rw [get?_insert]
  split
  · next e => rw [e, h]
  · rfl

theorem insert_insert (m : Keyed α) (key : String) (value new : α) :
    (m.insert key value).insert key new = m.insert key new := by
  apply ext_get?
  intro other
  simp only [get?_insert]
  split
  · rfl
  · rfl

theorem values_perm_of_get? {m : Keyed α} {key : String} {value : α}
    (h : m.get? key = some value) : m.values.Perm (value :: (m.erase key).values) := by
  have insertion := values_insert_perm m key value
  rwa [insert_of_get? h] at insertion

theorem erase_of_get?_none {m : Keyed α} {key : String} (h : m.get? key = none) :
    m.erase key = m := by
  apply ext_get?
  intro other
  rw [get?_erase]
  split
  · next e => rw [e, h]
  · rfl

def modify (m : Keyed α) (key : String) (change : α → α) : Keyed α :=
  match m.get? key with
  | some value => m.insert key (change value)
  | none => m

theorem get?_modify (m : Keyed α) (key other : String) (change : α → α) :
    (m.modify key change).get? other =
      (m.get? other).map fun value => if key = other then change value else value := by
  unfold modify
  by_cases here : key = other
  · subst here
    cases found : m.get? key <;> simp [found]
  · cases m.get? key <;> simp [here, get?_insert_of_ne _ _ (Ne.symm here)]

section Related

variable {β : Type u} {same : α → β → Prop} {m : Keyed α} {n : Keyed β}

theorem rel_insert (related : ∀ key, Option.Rel same (m.get? key) (n.get? key)) (key : String)
    {x : α} {y : β} (pair : same x y) (other : String) :
    Option.Rel same ((m.insert key x).get? other) ((n.insert key y).get? other) := by
  simp only [get?_insert]
  split
  · exact .some pair
  · exact related other

theorem rel_erase (related : ∀ key, Option.Rel same (m.get? key) (n.get? key))
    (key other : String) :
    Option.Rel same ((m.erase key).get? other) ((n.erase key).get? other) := by
  simp only [get?_erase]
  split
  · exact .none
  · exact related other

end Related

end GraphPlugin.Keyed
