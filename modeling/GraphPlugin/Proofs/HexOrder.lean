import GraphPlugin.ObjectId
import GraphPlugin.Text.Utf8
import Mathlib.Algebra.Group.Nat.Defs
import Mathlib.Data.List.Induction

/-! The texts of identifiers in order. A number can be read back from its sixteen hexadecimal
digits, and the bytes of the digits compare as the numbers do: where there is one more digit at the
end, numbers and bytes alike are told apart by what stands before it, and only then by the digit. So
the texts of identifiers sort as the identifiers. -/
namespace GraphPlugin

namespace Text

def sort (texts : List String) : List String :=
  texts.mergeSort fun s t => !decide (Precedes t s)

theorem eq_sort_iff {texts sorted : List String} :
    sorted = sort texts ↔ sorted.Perm texts ∧ sorted.Pairwise fun s t => ¬ Precedes t s := by
  have ascending : (sort texts).Pairwise fun s t => ¬ Precedes t s := by
    have trans : ∀ s t u : String, (!decide (Precedes t s)) = true →
        (!decide (Precedes u t)) = true → (!decide (Precedes u s)) = true := by
      simpa using fun s t u => not_precedes_trans
    have total : ∀ s t : String, (!decide (Precedes t s) || !decide (Precedes s t)) = true := by
      simpa using not_precedes_total
    simpa [sort] using List.pairwise_mergeSort trans total texts
  constructor
  · rintro rfl
    exact ⟨List.mergeSort_perm _ _, ascending⟩
  · rintro ⟨perm, pairwise⟩
    refine List.Perm.eq_of_pairwise ?_ pairwise ascending
      (perm.trans (List.mergeSort_perm _ _).symm)
    intro s t _ _ h k
    exact eq_of_not_precedes h k

theorem snoc_lt_snoc_iff {a b : List UInt8} {x y : UInt8} (same : a.length = b.length) :
    a ++ [x] < b ++ [y] ↔ a < b ∨ a = b ∧ x < y := by
  induction a generalizing b with
  | nil =>
    obtain rfl := List.length_eq_zero_iff.1 same.symm
    simp [List.cons_lt_cons_iff]
  | cons c a ih =>
    cases b with
    | nil => simp at same
    | cons d b =>
      have shorter : a.length = b.length := by simpa using same
      simp only [List.cons_append, List.cons_lt_cons_iff, ih shorter, List.cons.injEq, and_or_left,
        or_assoc, and_assoc]

end Text

namespace ObjectId

def hexAlphabet : List Char :=
  ['0', '1', '2', '3', '4', '5', '6', '7', '8', '9', 'a', 'b', 'c', 'd', 'e', 'f']

def readHex (digits : List Char) : Nat :=
  digits.foldl (fun n c => 16 * n + hexAlphabet.idxOf c) 0

variable {n width : Nat} {c : Char} {digits : List Char}

theorem mem_hexAlphabet_iff : c ∈ hexAlphabet ↔ ∃ n < 16, Nat.digitChar n = c := by
  have written : hexAlphabet = (List.range 16).map Nat.digitChar := by decide
  simp only [written, List.mem_map, List.mem_range]

theorem idxOf_digitChar : ∀ n < 16, hexAlphabet.idxOf (Nat.digitChar n) = n := by decide

theorem length_hexDigits (n width : Nat) : (hexDigits n width).length = width := by
  induction width generalizing n with
  | zero => rfl
  | succ width ih => simp [hexDigits, ih]

theorem mem_hexAlphabet (there : c ∈ hexDigits n width) : c ∈ hexAlphabet := by
  induction width generalizing n with
  | zero => simp [hexDigits] at there
  | succ width ih =>
    rcases List.mem_append.1 there with there | there
    · exact ih there
    · exact mem_hexAlphabet_iff.2 ⟨_, Nat.mod_lt _ (by decide), (List.mem_singleton.1 there).symm⟩

theorem readHex_snoc (digits : List Char) (c : Char) :
    readHex (digits ++ [c]) = 16 * readHex digits + hexAlphabet.idxOf c := by
  simp [readHex]

theorem readHex_hexDigits (n width : Nat) : readHex (hexDigits n width) = n % 16 ^ width := by
  induction width generalizing n with
  | zero => simp [hexDigits, readHex, Nat.mod_one]
  | succ width ih =>
    have digit := idxOf_digitChar (n % 16) (Nat.mod_lt _ (by decide))
    rw [hexDigits, readHex_snoc, ih, digit, Nat.pow_succ, Nat.mul_comm (16 ^ width),
      Nat.mod_mul]
    omega

theorem hexDigits_readHex (hex : ∀ c ∈ digits, c ∈ hexAlphabet) :
    hexDigits (readHex digits) digits.length = digits := by
  -- from the end, because `hexDigits` splits off the last digit
  induction digits using List.reverseRecOn with
  | nil => rfl
  | append_singleton digits c ih =>
    have before := ih fun d there => hex d (List.mem_append_left _ there)
    obtain ⟨d, small, rfl⟩ := mem_hexAlphabet_iff.1 (hex c List.mem_concat_self)
    have front : (16 * readHex digits + d) / 16 = readHex digits := by omega
    have last : (16 * readHex digits + d) % 16 = d := by omega
    rw [List.length_append, List.length_singleton, hexDigits, readHex_snoc, idxOf_digitChar d small,
      front, last, before]

def hexBytes (n width : Nat) : List UInt8 := (hexDigits n width).flatMap String.utf8EncodeChar

def digitByte (n : Nat) : UInt8 := UInt8.ofNat (Nat.digitChar n).toNat

theorem encode_digitChar : ∀ n < 16, String.utf8EncodeChar (Nat.digitChar n) = [digitByte n] := by
  decide

theorem digitByte_lt_iff : ∀ m < 16, ∀ n < 16, digitByte m < digitByte n ↔ m < n := by decide

theorem hexBytes_succ (n width : Nat) :
    hexBytes n (width + 1) = hexBytes (n / 16) width ++ [digitByte (n % 16)] := by
  have last := encode_digitChar (n % 16) (Nat.mod_lt _ (by decide))
  simp [hexBytes, hexDigits, last]

theorem length_hexBytes (n width : Nat) : (hexBytes n width).length = width := by
  induction width generalizing n with
  | zero => rfl
  | succ width ih => simp [hexBytes_succ, ih]

theorem hexBytes_lt_iff {m : Nat} (hm : m < 16 ^ width) (hn : n < 16 ^ width) :
    hexBytes m width < hexBytes n width ↔ m < n := by
  induction width generalizing m n with
  | zero =>
    have none : hexBytes m 0 = hexBytes n 0 := rfl
    simp only [none, List.lt_irrefl, false_iff]
    omega
  | succ width ih =>
    rw [Nat.pow_succ] at hm hn
    have first : m / 16 < 16 ^ width := by omega
    have second : n / 16 < 16 ^ width := by omega
    have same : hexBytes (m / 16) width = hexBytes (n / 16) width ↔ m / 16 = n / 16 := by
      -- of two numbers with the same bytes neither is the smaller one
      constructor
      · intro same
        have below := ih first second
        have above := ih second first
        simp only [same, List.lt_irrefl, false_iff] at below above
        omega
      · intro same
        rw [same]
    have lengths : (hexBytes (m / 16) width).length = (hexBytes (n / 16) width).length := by
      rw [length_hexBytes, length_hexBytes]
    have last := digitByte_lt_iff (m % 16) (Nat.mod_lt _ (by decide)) (n % 16)
      (Nat.mod_lt _ (by decide))
    rw [hexBytes_succ, hexBytes_succ, Text.snoc_lt_snoc_iff lengths, ih first second, same, last]
    omega

variable {a b id : ObjectId}

theorem value_lt (id : ObjectId) : id.value.toNat < 16 ^ 16 := id.value.toNat_lt

theorem eq_text_iff {s : String} : s = id.text ↔ ∃ digits : List Char,
    s = String.ofList ('o' :: digits) ∧ digits.length = 16 ∧ (∀ c ∈ digits, c ∈ hexAlphabet) ∧
      readHex digits = id.value.toNat := by
  constructor
  · rintro rfl
    refine ⟨hexDigits id.value.toNat 16, rfl, length_hexDigits _ _, fun c => mem_hexAlphabet, ?_⟩
    rw [readHex_hexDigits, Nat.mod_eq_of_lt id.value_lt]
  · rintro ⟨digits, rfl, length, hex, number⟩
    have back := hexDigits_readHex hex
    rw [length, number] at back
    rw [text, back]

example : (mk 42).text = "o000000000000002a" ∧
    (mk 0xFFFFFFFFFFFFFFFF).text = "offffffffffffffff" := by decide

theorem utf8_text (id : ObjectId) : Text.utf8 id.text = 111 :: hexBytes id.value.toNat 16 := by
  have letter : String.utf8EncodeChar 'o' = [111] := by decide
  rw [text, Text.utf8_ofList, List.flatMap_cons, letter, List.singleton_append, hexBytes]

theorem precedes_iff : Text.Precedes a.text b.text ↔ a < b := by
  rw [Text.Precedes, utf8_text, utf8_text, List.cons_lt_cons_self,
    hexBytes_lt_iff a.value_lt b.value_lt, lt_iff, UInt64.lt_iff_toNat_lt]

theorem text_injective (same : a.text = b.text) : a = b := by
  have below : ¬ a < b := by
    rw [← precedes_iff, same]
    exact Text.precedes_irrefl _
  have above : ¬ b < a := by
    rw [← precedes_iff, same]
    exact Text.precedes_irrefl _
  obtain ⟨m⟩ := a
  obtain ⟨n⟩ := b
  exact congrArg mk (UInt64.le_antisymm (UInt64.not_lt.1 above) (UInt64.not_lt.1 below))

theorem map_text_sort (ids : List ObjectId) : (sort ids).map text = Text.sort (ids.map text) := by
  apply List.map_mergeSort
  intro a _ b _
  rw [Bool.eq_iff_iff]
  simp only [Bool.not_eq_true', decide_eq_true_eq, decide_eq_false_iff_not, precedes_iff, lt_iff,
    UInt64.not_lt]

/-- What the texts of identifiers are and how they are ordered. The bytes of sorted identifiers'
texts ascend, and no other arrangement of the texts does. -/
structure TextsFollowOrder : Prop where
  written : ∀ (id : ObjectId) (s : String), s = id.text ↔ ∃ digits : List Char,
    s = String.ofList ('o' :: digits) ∧ digits.length = 16 ∧ (∀ c ∈ digits, c ∈ hexAlphabet) ∧
      readHex digits = id.value.toNat
  ordered : ∀ a b : ObjectId, a < b ↔ Text.Precedes a.text b.text
  distinct : ∀ a b : ObjectId, a.text = b.text ↔ a = b
  sorted : ∀ ids : List ObjectId, (sort ids).map text = Text.sort (ids.map text)
  arranged : ∀ (ids : List ObjectId) (texts : List String), texts = (sort ids).map text ↔
    texts.Perm (ids.map text) ∧ texts.Pairwise fun s t => ¬ Text.Precedes t s
  restored : ∀ number : UInt64, (ObjectId.mk number).value = number

theorem texts_follow_order : TextsFollowOrder where
  written _ _ := eq_text_iff
  ordered _ _ := precedes_iff.symm
  distinct _ _ := ⟨text_injective, congrArg text⟩
  sorted := map_text_sort
  arranged ids texts := by
    rw [map_text_sort]
    exact Text.eq_sort_iff
  restored _ := rfl

end ObjectId

end GraphPlugin
