import Mathlib.Data.List.Induction

/-! Histories of writes. Of all writes to a place the last one counts: what a store has there in the
end is what that one says, and it has nothing there if there was none. -/
namespace GraphPlugin

universe u v w

variable {α : Type u} {β : Type v} {σ : Type w}

theorem snoc_split {xs front back : List α} {e last : α}
    (split : xs ++ [last] = front ++ e :: back) :
    (xs = front ∧ last = e ∧ back = []) ∨
      ∃ more, xs = front ++ e :: more ∧ back = more ++ [last] := by
  rcases List.eq_nil_or_concat back with rfl | ⟨more, final, rfl⟩
  · obtain ⟨same, ends⟩ := List.append_inj' split rfl
    cases ends
    exact .inl ⟨same, rfl, rfl⟩
  · rw [List.concat_eq_append, ← List.cons_append, ← List.append_assoc] at split
    obtain ⟨same, ends⟩ := List.append_inj' split rfl
    cases ends
    exact .inr ⟨more, same, List.concat_eq_append⟩

/-- The write is the last one of the history among those to the place. -/
def LastWrite (place : α → Prop) (history : List α) (write : α) : Prop :=
  ∃ before after, history = before ++ write :: after ∧ place write ∧ ∀ later ∈ after, ¬ place later

namespace LastWrite

variable {place : α → Prop} {history : List α} {write : α}

theorem here (last : LastWrite place history write) : place write := by
  obtain ⟨_, _, _, here, _⟩ := last
  exact here

theorem mem (last : LastWrite place history write) : write ∈ history := by
  obtain ⟨before, after, rfl, _⟩ := last
  simp

theorem not_nil : ¬ LastWrite place [] write := by
  intro last
  exact List.not_mem_nil last.mem

theorem snoc_iff {last : α} : LastWrite place (history ++ [last]) write ↔
    place last ∧ write = last ∨ ¬ place last ∧ LastWrite place history write := by
  constructor
  · rintro ⟨before, after, split, here, unwritten⟩
    rcases snoc_split split with ⟨_, rfl, _⟩ | ⟨more, rfl, rfl⟩
    · exact .inl ⟨here, rfl⟩
    · simp only [List.forall_mem_append, List.forall_mem_singleton] at unwritten
      exact .inr ⟨unwritten.2, before, more, rfl, here, unwritten.1⟩
  · rintro (⟨here, rfl⟩ | ⟨elsewhere, before, after, rfl, here, unwritten⟩)
    · exact ⟨history, [], rfl, here, by simp⟩
    · refine ⟨before, after ++ [last], by simp, here, ?_⟩
      simpa [or_imp, forall_and] using ⟨unwritten, elsewhere⟩

theorem exists_iff : (∃ write, LastWrite place history write) ↔ ∃ write ∈ history, place write := by
  constructor
  · rintro ⟨write, last⟩
    exact ⟨write, last.mem, last.here⟩
  · rintro ⟨write, written, here⟩
    induction history using List.reverseRecOn with
    | nil => simp at written
    | append_singleton history last ih =>
      by_cases final : place last
      · exact ⟨last, snoc_iff.2 (.inl ⟨final, rfl⟩)⟩
      · have earlier : write ∈ history := by
          rcases List.mem_append.1 written with earlier | same
          · exact earlier
          · rw [List.mem_singleton.1 same] at here
            contradiction
        obtain ⟨found, last_one⟩ := ih earlier
        exact ⟨found, snoc_iff.2 (.inr ⟨final, last_one⟩)⟩

end LastWrite

theorem read_foldl_iff (read : σ → Option β) {place : α → Prop} {apply : σ → α → σ}
    {content : α → Option β} {start : σ} (empty : read start = none)
    (here : ∀ s write, place write → read (apply s write) = content write)
    (elsewhere : ∀ s write, ¬ place write → read (apply s write) = read s)
    (history : List α) (value : β) :
    read (history.foldl apply start) = some value ↔
      ∃ write, LastWrite place history write ∧ content write = some value := by
  induction history using List.reverseRecOn with
  | nil =>
    rw [List.foldl_nil, empty]
    simp [LastWrite.not_nil]
  | append_singleton history last ih =>
    rw [List.foldl_append, List.foldl_cons, List.foldl_nil]
    by_cases final : place last
    · rw [here _ _ final]
      constructor
      · intro said
        exact ⟨last, LastWrite.snoc_iff.2 (.inl ⟨final, rfl⟩), said⟩
      · rintro ⟨write, written, said⟩
        rcases LastWrite.snoc_iff.1 written with ⟨_, rfl⟩ | ⟨never, _⟩
        · exact said
        · contradiction
    · rw [elsewhere _ _ final, ih]
      simp only [LastWrite.snoc_iff, final, false_and, not_false_eq_true, true_and, false_or]

end GraphPlugin
