import GraphPlugin.Proofs.Delimiters
import GraphPlugin.Proofs.HexOrder
import GraphPlugin.Text.Quoted

/-! Quoted texts can be read off again. No escape is the beginning of another one and none begins
with a quote, so a quoted text ends at the first quote that is not in an escape, whatever stands
behind it; and a listing of quoted texts tells what is listed. -/
namespace GraphPlugin

namespace Text

theorem mem_hexAlphabet_of_mem_toDigits {c : Char} {n : Nat} (there : c ∈ Nat.toDigits 16 n) :
    c ∈ ObjectId.hexAlphabet := by
  induction n using Nat.strongRecOn with
  | ind n ih =>
    rw [Nat.toDigits_eq_if (by decide)] at there
    split at there
    · next small =>
      exact ObjectId.mem_hexAlphabet_iff.2 ⟨n, small, (List.mem_singleton.1 there).symm⟩
    · next large =>
      rcases List.mem_append.1 there with front | last
      · exact ih (n / 16) (by omega) front
      · exact ObjectId.mem_hexAlphabet_iff.2
          ⟨n % 16, Nat.mod_lt _ (by decide), (List.mem_singleton.1 last).symm⟩

theorem readHex_toDigits (n : Nat) : ObjectId.readHex (Nat.toDigits 16 n) = n := by
  induction n using Nat.strongRecOn with
  | ind n ih =>
    rw [Nat.toDigits_eq_if (by decide)]
    split
    · next small => simp [ObjectId.readHex, ObjectId.idxOf_digitChar n small]
    · next large =>
      rw [ObjectId.readHex_snoc, ih (n / 16) (by omega),
        ObjectId.idxOf_digitChar _ (Nat.mod_lt _ (by decide))]
      omega

/-- The characters with an escape of their own, and the letters that stand for them. -/
def letters : List (Char × Char) :=
  [('"', '"'), ('\\', '\\'), ('\n', 'n'), ('\t', 't'), ('\r', 'r'), (Char.ofNat 0, '0')]

theorem letters_injective : ∀ p ∈ letters, ∀ q ∈ letters, p.2 = q.2 → p.1 = q.1 := by decide

theorem letter_ne_u : ∀ p ∈ letters, p.2 ≠ 'u' := by decide

inductive Escaped (c : Char) : List Char → Prop
  | plain : c ≠ '"' → c ≠ '\\' → Escaped c [c]
  | letter {e : Char} : (c, e) ∈ letters → Escaped c ['\\', e]
  | code : Escaped c ('\\' :: 'u' :: Char.ofNat 0x7B ::
      (Nat.toDigits 16 c.toNat ++ [Char.ofNat 0x7D]))

theorem escaped_escape (c : Char) : Escaped c (escape c) := by
  unfold escape
  by_cases quote : c = '"'
  · rw [if_pos quote]
    exact .letter (by simp [letters, quote])
  by_cases backslash : c = '\\'
  · rw [if_neg quote, if_pos backslash]
    exact .letter (by simp [letters, backslash])
  rw [if_neg quote, if_neg backslash]
  split_ifs with newline tab carriage zero
  · exact .letter (by simp [letters, newline])
  · exact .letter (by simp [letters, tab])
  · exact .letter (by simp [letters, carriage])
  · have same : c = Char.ofNat 0 := Char.toNat_inj.1 zero
    exact .letter (by simp [letters, same])
  · exact .plain quote backslash
  · exact .code
  · exact .plain quote backslash

theorem Escaped.head_ne {c : Char} {text : List Char} (escaped : Escaped c text) :
    ∃ e rest, text = e :: rest ∧ e ≠ '"' := by
  cases escaped with
  | plain quote _ => exact ⟨c, [], rfl, quote⟩
  | letter _ => exact ⟨_, _, rfl, by decide⟩
  | code => exact ⟨_, _, rfl, by decide⟩

theorem Escaped.append_inj {c d : Char} {text other x y : List Char} (escaped : Escaped c text)
    (again : Escaped d other) (same : text ++ x = other ++ y) : c = d ∧ x = y := by
  have closing (n : Nat) : Char.ofNat 0x7D ∉ Nat.toDigits 16 n := fun there =>
    absurd (mem_hexAlphabet_of_mem_toDigits there) (by decide)
  cases escaped with
  | plain _ backslash =>
    cases again with
    | plain _ _ => exact List.cons.inj same
    | letter _ => exact absurd (List.cons.inj same).1 backslash
    | code => exact absurd (List.cons.inj same).1 backslash
  | letter here =>
    cases again with
    | plain _ backslash => exact absurd (List.cons.inj same).1.symm backslash
    | letter there =>
      obtain ⟨rfl, rest⟩ := List.cons.inj (List.cons.inj same).2
      exact ⟨letters_injective _ here _ there rfl, rest⟩
    | code => exact absurd (List.cons.inj (List.cons.inj same).2).1 (letter_ne_u _ here)
  | code =>
    cases again with
    | plain _ backslash => exact absurd (List.cons.inj same).1.symm backslash
    | letter there =>
      exact absurd (List.cons.inj (List.cons.inj same).2).1.symm (letter_ne_u _ there)
    | code =>
      have digits : Nat.toDigits 16 c.toNat ++ Char.ofNat 0x7D :: x =
          Nat.toDigits 16 d.toNat ++ Char.ofNat 0x7D :: y := by simpa using same
      obtain ⟨codes, rest⟩ := list_before_delimiter (closing _) (closing _) digits
      have points := congrArg ObjectId.readHex codes
      rw [readHex_toDigits, readHex_toDigits] at points
      exact ⟨Char.toNat_inj.1 points, rest⟩

theorem escapes_append_inj {cs ds x y : List Char}
    (same : cs.flatMap escape ++ '"' :: x = ds.flatMap escape ++ '"' :: y) : cs = ds ∧ x = y := by
  induction cs generalizing ds with
  | nil =>
    cases ds with
    | nil => exact ⟨rfl, (List.cons.inj same).2⟩
    | cons d ds =>
      obtain ⟨e, rest, begins, quote⟩ := (escaped_escape d).head_ne
      rw [List.flatMap_cons, begins] at same
      exact absurd (List.cons.inj same).1.symm quote
  | cons c cs ih =>
    cases ds with
    | nil =>
      obtain ⟨e, rest, begins, quote⟩ := (escaped_escape c).head_ne
      rw [List.flatMap_cons, begins] at same
      exact absurd (List.cons.inj same).1 quote
    | cons d ds =>
      rw [List.flatMap_cons, List.flatMap_cons, List.append_assoc, List.append_assoc] at same
      obtain ⟨rfl, rest⟩ := (escaped_escape c).append_inj (escaped_escape d) same
      obtain ⟨rfl, left⟩ := ih rest
      exact ⟨rfl, left⟩

/-- A quoted text at the start of a text, with anything at all behind it. -/
theorem quoted_append_inj {s t u v : String} (same : quoted s ++ u = quoted t ++ v) :
    s = t ∧ u = v := by
  have lists := congrArg String.toList same
  simp only [quoted, String.toList_append, String.toList_ofList, List.cons_append,
    List.append_assoc, List.cons.injEq, true_and] at lists
  obtain ⟨texts, rest⟩ := escapes_append_inj lists
  exact ⟨String.toList_inj.1 texts, String.toList_inj.1 rest⟩

def listed : List String → String
  | [] => ""
  | t :: rest => ", " ++ (quoted t ++ listed rest)

theorem intercalate_quoted (t : String) (rest : List String) :
    String.intercalate ", " ((t :: rest).map quoted) = quoted t ++ listed rest := by
  induction rest generalizing t with
  | nil => rw [List.map_singleton, String.intercalate_singleton, listed, String.append_empty]
  | cons next rest ih =>
    have behind := ih next
    simp only [List.map_cons] at behind ⊢
    rw [String.intercalate_cons_cons, behind, listed, String.append_assoc]

theorem listed_ne_empty (t : String) (rest : List String) : quoted t ++ listed rest ≠ "" := by
  intro empty
  have lists := congrArg String.toList empty
  simp [quoted] at lists

theorem listed_injective {texts others : List String} (same : listed texts = listed others) :
    texts = others := by
  induction texts generalizing others with
  | nil =>
    cases others with
    | nil => rfl
    | cons t rest =>
      have lists := congrArg String.toList same
      simp [listed] at lists
  | cons s texts ih =>
    cases others with
    | nil =>
      have lists := congrArg String.toList same
      simp [listed] at lists
    | cons t rest =>
      obtain ⟨rfl, left⟩ := quoted_append_inj ((String.append_right_inj ", ").1 same)
      rw [ih left]

theorem listing_injective {texts others : List String}
    (same : String.intercalate ", " (texts.map quoted) =
      String.intercalate ", " (others.map quoted)) : texts = others := by
  cases texts with
  | nil =>
    cases others with
    | nil => rfl
    | cons t rest =>
      rw [intercalate_quoted] at same
      exact absurd same.symm (listed_ne_empty t rest)
  | cons s texts =>
    cases others with
    | nil =>
      rw [intercalate_quoted] at same
      exact absurd same (listed_ne_empty s texts)
    | cons t rest =>
      rw [intercalate_quoted, intercalate_quoted] at same
      obtain ⟨rfl, left⟩ := quoted_append_inj same
      rw [listed_injective left]

end Text

end GraphPlugin
