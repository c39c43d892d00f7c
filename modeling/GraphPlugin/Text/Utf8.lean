/-! Texts in the order of their UTF-8 bytes, the order in which keys and symbols are listed. -/
namespace GraphPlugin.Text

def utf8 (s : String) : List UInt8 := s.toByteArray.data.toList

/-- Bytes compare as numbers from left to right, and a text comes before its extensions. -/
def Precedes (s t : String) : Prop := utf8 s < utf8 t

instance (s t : String) : Decidable (Precedes s t) :=
  inferInstanceAs (Decidable (utf8 s < utf8 t))

theorem utf8_injective {s t : String} (h : utf8 s = utf8 t) : s = t :=
  String.toByteArray_inj.1 (ByteArray.ext (Array.toList_inj.1 h))

theorem utf8_ofList (cs : List Char) : utf8 (String.ofList cs) =
    cs.flatMap String.utf8EncodeChar := by
  rw [utf8, String.toByteArray_ofList]
  exact List.toList_data_toByteArray

theorem precedes_irrefl (s : String) : ¬ Precedes s s := List.lt_irrefl _

theorem Precedes.trans {s t u : String} (h : Precedes s t) (k : Precedes t u) : Precedes s u :=
  List.lt_trans h k

theorem Precedes.asymm {s t : String} (h : Precedes s t) : ¬ Precedes t s :=
  fun k => precedes_irrefl s (h.trans k)

theorem Precedes.ne {s t : String} (h : Precedes s t) : s ≠ t :=
  fun e => precedes_irrefl t (e ▸ h)

theorem precedes_or_eq (s t : String) : Precedes s t ∨ s = t ∨ Precedes t s := by
  by_cases h : Precedes s t
  · exact .inl h
  · by_cases k : Precedes t s
    · exact .inr (.inr k)
    · exact .inr (.inl (utf8_injective (List.le_antisymm (List.not_lt.1 k) (List.not_lt.1 h))))

theorem not_precedes_trans {s t u : String} (h : ¬ Precedes t s) (k : ¬ Precedes u t) :
    ¬ Precedes u s := by
  intro above
  rcases precedes_or_eq t s with below | same | below
  · exact h below
  · exact k (same ▸ above)
  · exact k (above.trans below)

theorem not_precedes_total (s t : String) : ¬ Precedes t s ∨ ¬ Precedes s t := by
  by_cases above : Precedes t s
  · exact .inr above.asymm
  · exact .inl above

theorem eq_of_not_precedes {s t : String} (h : ¬ Precedes t s) (k : ¬ Precedes s t) : s = t :=
  ((precedes_or_eq s t).resolve_left k).resolve_right h

end GraphPlugin.Text
