import GraphPlugin.Failure

/-! Texts that are put together from pieces with delimiters between them. A piece can be read off
again at the start of a text when the character behind it is not in it, and at the end of a text
when the character before it is not. What stands on the other side of the delimiter may be any text
at all. Numbers in decimal are such pieces beside anything that is no digit. -/
namespace GraphPlugin

namespace Text

variable {s t u v : String} {d : String} {c : Char}

theorem list_before_delimiter {a b x y : List Char} (ha : c ∉ a) (hb : c ∉ b)
    (same : a ++ c :: x = b ++ c :: y) : a = b ∧ x = y := by
  rcases List.append_eq_append_iff.1 same with ⟨more, longer, rest⟩ | ⟨more, longer, rest⟩
  · cases more with
    | nil => simp_all
    | cons e more =>
      obtain ⟨rfl, _⟩ := List.cons.inj rest
      exact absurd (longer ▸ List.mem_append_right a List.mem_cons_self) hb
  · cases more with
    | nil => simp_all
    | cons e more =>
      obtain ⟨rfl, _⟩ := List.cons.inj rest
      exact absurd (longer ▸ List.mem_append_right b List.mem_cons_self) ha

theorem list_after_delimiter {a b x y : List Char} (hx : c ∉ x) (hy : c ∉ y)
    (same : a ++ c :: x = b ++ c :: y) : a = b ∧ x = y := by
  have backwards := congrArg List.reverse same
  simp only [List.reverse_append, List.reverse_cons, List.append_assoc, List.singleton_append]
    at backwards
  obtain ⟨last, first⟩ := list_before_delimiter (mt List.mem_reverse.1 hx)
    (mt List.mem_reverse.1 hy) backwards
  exact ⟨List.reverse_inj.1 first, List.reverse_inj.1 last⟩

theorem before_delimiter (begins : d.toList.head? = some c) (hs : c ∉ s.toList) (ht : c ∉ t.toList)
    (same : s ++ d ++ u = t ++ d ++ v) : s = t ∧ u = v := by
  obtain ⟨more, delimiter⟩ := List.head?_eq_some_iff.1 begins
  have lists := congrArg String.toList same
  simp only [String.toList_append, delimiter, List.append_assoc, List.cons_append] at lists
  obtain ⟨first, rest⟩ := list_before_delimiter hs ht lists
  exact ⟨String.toList_inj.1 first, String.toList_inj.1 (List.append_cancel_left rest)⟩

theorem after_delimiter (ends : d.toList.getLast? = some c) (hu : c ∉ u.toList) (hv : c ∉ v.toList)
    (same : s ++ d ++ u = t ++ d ++ v) : s = t ∧ u = v := by
  obtain ⟨more, delimiter⟩ := List.getLast?_eq_some_iff.1 ends
  have lists := congrArg String.toList same
  simp only [String.toList_append, delimiter, List.append_assoc, List.singleton_append] at lists
  rw [← List.append_assoc, ← List.append_assoc] at lists
  obtain ⟨first, rest⟩ := list_after_delimiter hu hv lists
  exact ⟨String.toList_inj.1 (List.append_cancel_right first), String.toList_inj.1 rest⟩

theorem behind_lead {lead : String} (begins : d.toList.head? = some c) (hs : c ∉ s.toList)
    (ht : c ∉ t.toList) (same : lead ++ s ++ d ++ u = lead ++ t ++ d ++ v) : s = t ∧ u = v := by
  refine before_delimiter begins hs ht ((String.append_right_inj lead).1 ?_)
  simpa only [String.append_assoc] using same

theorem last_two {lead p q p' q' d d' : String} (ends : d.toList.getLast? = some c)
    (ends' : d'.toList.getLast? = some c) (hp : c ∉ p.toList) (hp' : c ∉ p'.toList)
    (hq : c ∉ q.toList) (hq' : c ∉ q'.toList)
    (same : lead ++ s ++ d ++ p ++ d' ++ q = lead ++ t ++ d ++ p' ++ d' ++ q') :
    s = t ∧ p = p' ∧ q = q' := by
  obtain ⟨front, last⟩ := after_delimiter ends' hq hq' same
  obtain ⟨front, first⟩ := after_delimiter ends hp hp' front
  exact ⟨(String.append_right_inj lead).1 front, first, last⟩

theorem not_mem_decimal (digit : c.isDigit = false) (n : Nat) : c ∉ (toString n).toList := by
  rw [Nat.toString_eq_repr, Nat.toList_repr]
  intro there
  rw [Nat.isDigit_of_mem_toDigits (by decide) (by decide) there] at digit
  cases digit

theorem decimal_injective {m n : Nat} (same : toString m = toString n) : m = n := by
  have digits := congrArg String.toList same
  rw [Nat.toString_eq_repr, Nat.toString_eq_repr, Nat.toList_repr, Nat.toList_repr] at digits
  simpa using congrArg (fun digits => Nat.ofDigitChars 10 digits 0) digits

end Text

/-- The code ends at the first closing bracket, whatever the message holds. -/
theorem BackendError.text_injective {e f : BackendError} (same : e.text = f.text) : e = f := by
  have unbracketed (n : Nat) : ']' ∉ (toString n).toList := Text.not_mem_decimal rfl n
  obtain ⟨codes, messages⟩ := Text.behind_lead (c := ']') rfl (unbracketed _) (unbracketed _) same
  obtain ⟨code, message⟩ := e
  obtain ⟨code', message'⟩ := f
  obtain rfl : code = code' := UInt32.toNat_inj.1 (Text.decimal_injective codes)
  obtain rfl : message = message' := messages
  rfl

end GraphPlugin
