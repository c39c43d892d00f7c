import GraphPlugin.Text.Utf8

/-! Dictionaries with text keys. The entries are a list in the strict byte order of the keys, so a
dictionary is determined by what it holds: the order in which it was filled leaves no trace
(`Keyed.ext_get?`). -/
namespace GraphPlugin

universe u

structure Keyed (α : Type u) where
  entries : List (String × α)
  ordered : entries.Pairwise fun a b => Text.Precedes a.1 b.1

namespace Keyed

variable {α : Type u}

def empty : Keyed α := ⟨[], .nil⟩

def get? (m : Keyed α) (key : String) : Option α := m.entries.lookup key

def contains (m : Keyed α) (key : String) : Bool := (m.get? key).isSome

def size (m : Keyed α) : Nat := m.entries.length

def isEmpty (m : Keyed α) : Bool := m.entries.isEmpty

def keys (m : Keyed α) : List String := m.entries.map (·.1)

def insert (m : Keyed α) (key : String) (value : α) : Keyed α where
  entries := m.entries.filter (fun e => decide (Text.Precedes e.1 key)) ++
    (key, value) :: m.entries.filter (fun e => decide (Text.Precedes key e.1))
  ordered := by
    refine List.pairwise_append.2 ⟨m.ordered.filter _, .cons ?_ (m.ordered.filter _), ?_⟩
    · intro e he
      exact of_decide_eq_true (List.mem_filter.1 he).2
    · intro a ha b hb
      have below : Text.Precedes a.1 key := of_decide_eq_true (List.mem_filter.1 ha).2
      rcases List.mem_cons.1 hb with rfl | hb
      · exact below
      · exact below.trans (of_decide_eq_true (List.mem_filter.1 hb).2)

def erase (m : Keyed α) (key : String) : Keyed α where
  entries := m.entries.filter (fun e => e.1 != key)
  ordered := m.ordered.filter _

def ofList (entries : List (String × α)) : Keyed α :=
  entries.foldl (fun m e => m.insert e.1 e.2) empty

theorem lookup_entry (e : String × α) (l : List (String × α)) (key : String) :
    (e :: l).lookup key = if key == e.1 then some e.2 else l.lookup key := by
  obtain ⟨k, value⟩ := e
  rw [List.lookup_cons]
  cases key == k <;> rfl

theorem lookup_filter_of_false (l : List (String × α)) (key : String) (p : String → Bool)
    (h : p key = false) : (l.filter fun e => p e.1).lookup key = none := by
  induction l with
  | nil => rfl
  | cons e l ih =>
    by_cases hp : p e.1 = true
    · have ne : (key == e.1) = false := by
        apply beq_false_of_ne
        rintro rfl
        simp [h] at hp
      simp [hp, lookup_entry, ne, ih]
    · simp [hp, ih]

theorem lookup_filter_of_true (l : List (String × α)) (key : String) (p : String → Bool)
    (h : p key = true) : (l.filter fun e => p e.1).lookup key = l.lookup key := by
  induction l with
  | nil => rfl
  | cons e l ih =>
    by_cases heq : key = e.1
    · subst heq
      simp [h, lookup_entry]
    · have ne : (key == e.1) = false := beq_false_of_ne heq
      by_cases hp : p e.1 = true <;> simp [hp, lookup_entry, ne, ih]

@[simp] theorem get?_empty (key : String) : (empty : Keyed α).get? key = none := rfl

@[simp] theorem get?_insert_self (m : Keyed α) (key : String) (value : α) :
    (m.insert key value).get? key = some value := by
  have none_below := lookup_filter_of_false m.entries key
    (fun k => decide (Text.Precedes k key)) (decide_eq_false (Text.precedes_irrefl key))
  simp [get?, insert, List.lookup_append, none_below]

theorem get?_insert_of_ne (m : Keyed α) {key other : String} (value : α) (ne : other ≠ key) :
    (m.insert key value).get? other = m.get? other := by
  have apart : (other == key) = false := beq_false_of_ne ne
  rcases Text.precedes_or_eq other key with below | rfl | above
  · have here := lookup_filter_of_true m.entries other
      (fun k => decide (Text.Precedes k key)) (decide_eq_true below)
    have not_there := lookup_filter_of_false m.entries other
      (fun k => decide (Text.Precedes key k)) (decide_eq_false below.asymm)
    simp [get?, insert, List.lookup_append, here, not_there, lookup_entry, apart]
  · exact absurd rfl ne
  · have here := lookup_filter_of_true m.entries other
      (fun k => decide (Text.Precedes key k)) (decide_eq_true above)
    have not_there := lookup_filter_of_false m.entries other
      (fun k => decide (Text.Precedes k key)) (decide_eq_false above.asymm)
    simp [get?, insert, List.lookup_append, here, not_there, lookup_entry, apart]

theorem get?_insert (m : Keyed α) (key other : String) (value : α) :
    (m.insert key value).get? other = if other = key then some value else m.get? other := by
  split
  · next h => subst h; exact get?_insert_self m other value
  · next h => exact get?_insert_of_ne m value h

theorem get?_erase (m : Keyed α) (key other : String) :
    (m.erase key).get? other = if other = key then none else m.get? other := by
  split
  · next h => exact lookup_filter_of_false m.entries other (· != key) (by simp [h])
  · next h => exact lookup_filter_of_true m.entries other (· != key) (by simp [h])

theorem get?_eq_some_iff (m : Keyed α) (key : String) (value : α) :
    m.get? key = some value ↔ (key, value) ∈ m.entries := by
  obtain ⟨l, ordered⟩ := m
  show l.lookup key = some value ↔ (key, value) ∈ l
  induction l with
  | nil => simp
  | cons e l ih =>
    have rest := ih ordered.of_cons
    by_cases heq : key = e.1
    · subst heq
      have absent : (e.1, value) ∉ l := fun h =>
        (List.rel_of_pairwise_cons ordered h).ne rfl
      simp only [lookup_entry, beq_self_eq_true, if_true, Option.some.injEq, List.mem_cons, absent,
        or_false]
      exact ⟨fun h => by rw [← h], fun h => by rw [← h]⟩
    · have apart : (key == e.1) = false := beq_false_of_ne heq
      have differs : (key, value) ≠ e := fun h => heq (by rw [← h])
      simp [lookup_entry, apart, differs, rest]

theorem eq_of_same_members {l k : List (String × α)}
    (hl : l.Pairwise fun a b => Text.Precedes a.1 b.1)
    (hk : k.Pairwise fun a b => Text.Precedes a.1 b.1) (same : ∀ e, e ∈ l ↔ e ∈ k) : l = k := by
  induction l generalizing k with
  | nil =>
    cases k with
    | nil => rfl
    | cons e k => exact absurd ((same e).2 List.mem_cons_self) (by simp)
  | cons a l ih =>
    cases k with
    | nil => exact absurd ((same a).1 List.mem_cons_self) (by simp)
    | cons b k =>
      have heads : a = b := by
        rcases List.mem_cons.1 ((same a).1 List.mem_cons_self) with h | h
        · exact h
        · rcases List.mem_cons.1 ((same b).2 List.mem_cons_self) with h' | h'
          · exact h'.symm
          · exact absurd (List.rel_of_pairwise_cons hl h') (List.rel_of_pairwise_cons hk h).asymm
      subst heads
      have tails : l = k := by
        refine ih hl.of_cons hk.of_cons fun e => ⟨fun h => ?_, fun h => ?_⟩
        · rcases List.mem_cons.1 ((same e).1 (List.mem_cons_of_mem _ h)) with rfl | h'
          · exact absurd (List.rel_of_pairwise_cons hl h) (Text.precedes_irrefl _)
          · exact h'
        · rcases List.mem_cons.1 ((same e).2 (List.mem_cons_of_mem _ h)) with rfl | h'
          · exact absurd (List.rel_of_pairwise_cons hk h) (Text.precedes_irrefl _)
          · exact h'
      rw [tails]

theorem ext_get? {m n : Keyed α} (same : ∀ key, m.get? key = n.get? key) : m = n := by
  have entries : m.entries = n.entries := by
    refine eq_of_same_members m.ordered n.ordered fun e => ?_
    rw [← get?_eq_some_iff m e.1 e.2, ← get?_eq_some_iff n e.1 e.2, same]
  cases m
  cases n
  simp_all

end Keyed

end GraphPlugin
