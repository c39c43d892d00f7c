/-! Identities. Libraries and fragments are numbered as they appear, in two rows: what a host can
watch, and what the system's own loader brings in. -/
namespace GraphPlugin

/-- Where code comes from: tables inside the process, whose use leaves a trace, or shared objects
that the system loads, whose use leaves none. -/
inductive Origin
  | inProcess
  | system
deriving DecidableEq

structure Tag where
  origin : Origin
  number : Nat
deriving DecidableEq

structure Tally where
  inProcess : Nat := 0
  system : Nat := 0
deriving DecidableEq

namespace Tally

def count (t : Tally) : Origin → Nat
  | .inProcess => t.inProcess
  | .system => t.system

def next (t : Tally) (origin : Origin) : Tag := ⟨origin, t.count origin + 1⟩

def advance (t : Tally) : Origin → Tally
  | .inProcess => { t with inProcess := t.inProcess + 1 }
  | .system => { t with system := t.system + 1 }

def Issued (t : Tally) (tag : Tag) : Prop := 1 ≤ tag.number ∧ tag.number ≤ t.count tag.origin

instance (t : Tally) (tag : Tag) : Decidable (t.Issued tag) :=
  inferInstanceAs (Decidable (_ ∧ _))

theorem not_issued_empty (tag : Tag) : ¬ ({} : Tally).Issued tag := by
  rintro ⟨low, high⟩
  cases origin : tag.origin <;> simp [count, origin] at high <;> omega

theorem not_issued_next (t : Tally) (origin : Origin) : ¬ t.Issued (t.next origin) := by
  simp [Issued, next]

theorem issued_advance_iff (t : Tally) (origin : Origin) (tag : Tag) :
    (t.advance origin).Issued tag ↔ tag = t.next origin ∨ t.Issued tag := by
  obtain ⟨row, number⟩ := tag
  cases origin <;> cases row <;> simp [Issued, next, advance, count] <;> omega

end Tally

end GraphPlugin
