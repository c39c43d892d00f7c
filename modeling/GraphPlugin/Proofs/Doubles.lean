import GraphPlugin.Attribute

/-! The numbers that doubles stand for. All finite ones are multiples of the smallest positive
double, so they can be compared as integers. Two doubles are equal to a caller exactly when they
stand for the same number: a number other than zero has one double, zero has two, and what is not a
number stands for none. -/
namespace GraphPlugin.Binary64

/-- A multiple of the smallest positive double, or what is beyond all doubles on one side. -/
inductive Number
  | finite (multiple : Int)
  | infinite (negative : Bool)
deriving DecidableEq

def negative (x : Binary64) : Bool := decide (Nat.pow 2 63 ≤ x.bits.toNat)

/-- Under the lowest exponent the fraction counts by itself. Under the others it stands behind a
leading one, and each step of the exponent doubles it. -/
def multiple (x : Binary64) : Nat :=
  if x.exponent = 0 then x.fraction
  else (Nat.pow 2 52 + x.fraction) * Nat.pow 2 (x.exponent - 1)

def signed (x : Binary64) : Int := if x.negative then -x.multiple else x.multiple

def number? (x : Binary64) : Option Number :=
  if x.isNaN then none
  else if x.exponent = 2047 then some (.infinite x.negative)
  else some (.finite x.signed)

variable {x y : Binary64}

theorem fraction_lt (x : Binary64) : x.fraction < Nat.pow 2 52 := Nat.mod_lt _ (by decide)

theorem bits_eq_of_fields (sign : x.negative = y.negative) (exponent : x.exponent = y.exponent)
    (fraction : x.fraction = y.fraction) : x.bits = y.bits := by
  have below := x.bits.toNat_lt
  have below' := y.bits.toNat_lt
  simp only [negative, Binary64.exponent, Binary64.fraction, Nat.pow_eq, decide_eq_decide] at *
  apply UInt64.toNat_inj.1
  omega

theorem isNaN_iff (x : Binary64) : x.isNaN = true ↔ x.exponent = 2047 ∧ x.fraction ≠ 0 := by
  simp [isNaN]

theorem isZero_iff (x : Binary64) : x.isZero = true ↔ x.exponent = 0 ∧ x.fraction = 0 := by
  simp [isZero]

theorem mul_pow_succ (n e : Nat) : n * Nat.pow 2 (e + 1) = (n + n) * Nat.pow 2 e := by
  calc n * (Nat.pow 2 e * 2) = n * Nat.pow 2 e * 2 := (Nat.mul_assoc _ _ _).symm
    _ = n * Nat.pow 2 e + n * Nat.pow 2 e := Nat.mul_two _
    _ = (n + n) * Nat.pow 2 e := (Nat.add_mul _ _ _).symm

theorem multiple_lt (x : Binary64) : x.multiple < Nat.pow 2 52 * Nat.pow 2 x.exponent := by
  have below := x.fraction_lt
  unfold multiple
  split
  · next lowest => simpa [lowest] using below
  · next above =>
    obtain ⟨e, he⟩ := Nat.exists_eq_succ_of_ne_zero above
    rw [he, Nat.succ_eq_add_one, mul_pow_succ, Nat.add_sub_cancel]
    exact Nat.mul_lt_mul_of_pos_right (Nat.add_lt_add_left below _) (Nat.pow_pos (by decide))

theorem le_multiple (above : x.exponent ≠ 0) :
    Nat.pow 2 52 * Nat.pow 2 (x.exponent - 1) ≤ x.multiple := by
  rw [multiple, if_neg above]
  exact Nat.mul_le_mul_right _ (Nat.le_add_right _ _)

theorem multiple_lt_of_exponent_lt (less : x.exponent < y.exponent) : x.multiple < y.multiple := by
  have step : x.exponent ≤ y.exponent - 1 := by omega
  calc x.multiple < Nat.pow 2 52 * Nat.pow 2 x.exponent := x.multiple_lt
    _ ≤ Nat.pow 2 52 * Nat.pow 2 (y.exponent - 1) :=
      Nat.mul_le_mul_left _ (Nat.pow_le_pow_right (by decide) step)
    _ ≤ y.multiple := le_multiple (by omega)

theorem fields_eq_of_multiple_eq (same : x.multiple = y.multiple) :
    x.exponent = y.exponent ∧ x.fraction = y.fraction := by
  have exponent : x.exponent = y.exponent := by
    rcases Nat.lt_trichotomy x.exponent y.exponent with less | equal | more
    · exact absurd same (Nat.ne_of_lt (multiple_lt_of_exponent_lt less))
    · exact equal
    · exact absurd same.symm (Nat.ne_of_lt (multiple_lt_of_exponent_lt more))
  refine ⟨exponent, ?_⟩
  unfold multiple at same
  rw [exponent] at same
  split at same
  · exact same
  · have leading := Nat.eq_of_mul_eq_mul_right (Nat.pow_pos (by decide)) same
    exact Nat.add_left_cancel leading

theorem multiple_eq_zero_iff (x : Binary64) : x.multiple = 0 ↔ x.isZero = true := by
  rw [isZero_iff]
  constructor
  · intro zero
    by_cases lowest : x.exponent = 0
    · rw [multiple, if_pos lowest] at zero
      exact ⟨lowest, zero⟩
    · have positive : 0 < Nat.pow 2 52 * Nat.pow 2 (x.exponent - 1) :=
        Nat.mul_pos (by decide) (Nat.pow_pos (by decide))
      have least := le_multiple lowest
      omega
  · rintro ⟨lowest, zero⟩
    rw [multiple, if_pos lowest, zero]

theorem signed_eq_iff : x.signed = y.signed ↔
    x.multiple = y.multiple ∧ (x.multiple = 0 ∨ x.negative = y.negative) := by
  unfold signed
  cases x.negative <;> cases y.negative <;> simp <;> omega

theorem number?_eq_none_iff (x : Binary64) : x.number? = none ↔ x.isNaN = true := by
  unfold number?
  split
  · next nan => simp [nan]
  · next number => split <;> simp [number]

theorem number?_of_isZero (zero : x.isZero = true) : x.number? = some (.finite 0) := by
  have fields := (isZero_iff x).1 zero
  have number : ¬ x.isNaN = true := by simp [isNaN_iff, fields]
  have nothing : x.signed = 0 := by
    have none := (multiple_eq_zero_iff x).2 zero
    simp [signed, none]
  rw [number?, if_neg number, if_neg (by simp [fields]), nothing]

theorem bits_eq_of_number?_eq (number : x.isNaN = false) (same : x.number? = y.number?) :
    x.bits = y.bits ∨ x.isZero = true ∧ y.isZero = true := by
  have number' : y.isNaN = false := by
    rwa [← Bool.not_eq_true, ← number?_eq_none_iff, ← same, number?_eq_none_iff,
      Bool.not_eq_true]
  simp only [number?, number, number', Bool.false_eq_true, if_false] at same
  by_cases infinite : x.exponent = 2047
  · by_cases infinite' : y.exponent = 2047
    · have sign : x.negative = y.negative := by simpa [infinite, infinite'] using same
      have fraction : x.fraction = 0 := by simpa [isNaN, infinite] using number
      have fraction' : y.fraction = 0 := by simpa [isNaN, infinite'] using number'
      exact .inl (bits_eq_of_fields sign (infinite.trans infinite'.symm)
        (fraction.trans fraction'.symm))
    · simp [infinite, infinite'] at same
  · by_cases infinite' : y.exponent = 2047
    · simp [infinite, infinite'] at same
    · have numbers : x.signed = y.signed := by simpa [infinite, infinite'] using same
      obtain ⟨multiples, sign⟩ := signed_eq_iff.1 numbers
      rcases sign with zero | sign
      · exact .inr ⟨(multiple_eq_zero_iff x).1 zero, (multiple_eq_zero_iff y).1 (multiples ▸ zero)⟩
      · obtain ⟨exponent, fraction⟩ := fields_eq_of_multiple_eq multiples
        exact .inl (bits_eq_of_fields sign exponent fraction)

theorem equal_iff_number? (x y : Binary64) :
    x.equal y = true ↔ ∃ number, x.number? = some number ∧ y.number? = some number := by
  constructor
  · intro equal
    obtain ⟨⟨number, _⟩, same⟩ : (x.isNaN = false ∧ y.isNaN = false) ∧
        (x.bits = y.bits ∨ x.isZero = true ∧ y.isZero = true) := by
      simpa [Binary64.equal] using equal
    rcases same with bits | ⟨zero, zero'⟩
    · obtain rfl : x = y := by
        cases x
        cases y
        exact congrArg _ bits
      obtain ⟨n, found⟩ : ∃ n, x.number? = some n := by
        rw [← Option.ne_none_iff_exists', ne_eq, number?_eq_none_iff, number]
        exact Bool.false_ne_true
      exact ⟨n, found, found⟩
    · exact ⟨_, number?_of_isZero zero, number?_of_isZero zero'⟩
  · rintro ⟨n, found, found'⟩
    have numbers : ∀ {z : Binary64}, z.number? = some n → z.isNaN = false := by
      intro z here
      rw [← Bool.not_eq_true, ← number?_eq_none_iff, here]
      simp
    have same := bits_eq_of_number?_eq (numbers found) (found.trans found'.symm)
    simpa [Binary64.equal, numbers found, numbers found'] using same

end GraphPlugin.Binary64
