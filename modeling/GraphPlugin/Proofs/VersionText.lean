import GraphPlugin.Proofs.Delimiters

/-! Versions in text. The three parts of a version are its word cut after eight and after sixteen
bits, and nothing is lost in the cutting. The decimals of the parts end at the dots, so no two
versions have the same text. -/
namespace GraphPlugin.Version

variable {v w : Version}

theorem toNat_major (v : Version) : v.major.toNat = v.word.toNat / Nat.pow 2 24 := by
  rw [major, UInt32.toNat_shiftRight]
  exact Nat.shiftRight_eq_div_pow _ 24

theorem toNat_minor (v : Version) :
    v.minor.toNat = v.word.toNat / Nat.pow 2 16 % Nat.pow 2 8 := by
  have shifted : (v.word >>> 16).toNat = v.word.toNat / Nat.pow 2 16 := by
    rw [UInt32.toNat_shiftRight]
    exact Nat.shiftRight_eq_div_pow _ 16
  rw [minor, UInt32.toNat_and, shifted]
  exact Nat.and_two_pow_sub_one_eq_mod _ 8

theorem toNat_patch (v : Version) : v.patch.toNat = v.word.toNat % Nat.pow 2 16 := by
  rw [patch, UInt32.toNat_and]
  exact Nat.and_two_pow_sub_one_eq_mod _ 16

theorem eq_of_parts (majors : v.major.toNat = w.major.toNat)
    (minors : v.minor.toNat = w.minor.toNat) (patches : v.patch.toNat = w.patch.toNat) : v = w := by
  obtain ⟨word⟩ := v
  obtain ⟨word'⟩ := w
  have below := word.toNat_lt
  have below' := word'.toNat_lt
  simp only [toNat_major, toNat_minor, toNat_patch, Nat.pow_eq] at majors minors patches
  obtain rfl : word = word' := UInt32.toNat_inj.1 (by omega)
  rfl

theorem text_injective (same : v.text = w.text) : v = w := by
  have undotted (n : Nat) : '.' ∉ (toString n).toList := Text.not_mem_decimal rfl n
  obtain ⟨front, patches⟩ := Text.after_delimiter (c := '.') rfl (undotted _) (undotted _) same
  obtain ⟨majors, minors⟩ := Text.after_delimiter (c := '.') rfl (undotted _) (undotted _) front
  exact eq_of_parts (Text.decimal_injective majors) (Text.decimal_injective minors)
    (Text.decimal_injective patches)

theorem not_mem_text {c : Char} (digit : c.isDigit = false) (dot : c ≠ '.') (v : Version) :
    c ∉ v.text.toList := by
  have decimals (n : Nat) : c ∉ (toString n).toList := Text.not_mem_decimal digit n
  have dots : c ∉ ".".toList := by simpa using dot
  simp only [text, String.toList_append, List.mem_append, not_or]
  exact ⟨⟨⟨⟨decimals _, dots⟩, decimals _⟩, dots⟩, decimals _⟩

end GraphPlugin.Version
