import GraphPlugin.Proofs.Messages
import Mathlib.Algebra.Group.Nat.Defs

/-! Version words. A word falls into its three parts without loss, and any three parts of the right
widths can be put together and taken apart again. Versions go together when their words lie in one
block of `2^24`, and that is when the same number stands before the first dot of their texts. So a
failure of the version check always shows two different numbers there. -/
namespace GraphPlugin

namespace Version

variable {v host backend : Version} {major minor patch : UInt32} {block : Nat}

theorem parts_lt (v : Version) :
    v.major.toNat < 2 ^ 8 ∧ v.minor.toNat < 2 ^ 8 ∧ v.patch.toNat < 2 ^ 16 := by
  have below := v.word.toNat_lt
  simp only [toNat_major, toNat_minor, toNat_patch, Nat.pow_eq]
  omega

theorem toNat_shiftLeft_of_fits {part places : UInt32} (hplaces : places.toNat < 32)
    (fits : part.toNat * 2 ^ places.toNat < 2 ^ 32) :
    (part <<< places).toNat = part.toNat <<< places.toNat := by
  rw [UInt32.toNat_shiftLeft, Nat.mod_eq_of_lt hplaces]
  apply Nat.mod_eq_of_lt
  rwa [Nat.shiftLeft_eq]

theorem toNat_pack (hmajor : major.toNat < 2 ^ 8) (hminor : minor.toNat < 2 ^ 8)
    (hpatch : patch.toNat < 2 ^ 16) : (pack major minor patch).word.toNat =
      major.toNat * 2 ^ 24 + minor.toNat * 2 ^ 16 + patch.toNat := by
  have first : (major <<< 24).toNat = major.toNat <<< 24 := by
    apply toNat_shiftLeft_of_fits (by decide)
    change major.toNat * 2 ^ 24 < 2 ^ 32
    omega
  have second : (minor <<< 16).toNat = minor.toNat <<< 16 := by
    apply toNat_shiftLeft_of_fits (by decide)
    change minor.toNat * 2 ^ 16 < 2 ^ 32
    omega
  calc (pack major minor patch).word.toNat
      = major.toNat <<< 8 <<< 16 ||| minor.toNat <<< 16 ||| patch.toNat := by
        rw [pack, UInt32.toNat_or, UInt32.toNat_or, first, second, Nat.shiftLeft_add _ 8 16]
    _ = (major.toNat <<< 8 + minor.toNat) <<< 16 + patch.toNat := by
        rw [← Nat.shiftLeft_or_distrib, ← Nat.shiftLeft_add_eq_or_of_lt hminor,
          ← Nat.shiftLeft_add_eq_or_of_lt hpatch]
    _ = major.toNat * 2 ^ 24 + minor.toNat * 2 ^ 16 + patch.toNat := by
        rw [Nat.shiftLeft_eq, Nat.shiftLeft_eq]
        omega

theorem parts_pack (hmajor : major.toNat < 2 ^ 8) (hminor : minor.toNat < 2 ^ 8)
    (hpatch : patch.toNat < 2 ^ 16) : (pack major minor patch).major = major ∧
      (pack major minor patch).minor = minor ∧ (pack major minor patch).patch = patch := by
  have sum := toNat_pack hmajor hminor hpatch
  simp only [← UInt32.toNat_inj, toNat_major, toNat_minor, toNat_patch, Nat.pow_eq]
  omega

example : pack 1 2 3 = ⟨0x01020003⟩ := by decide

theorem pack_parts (v : Version) : pack v.major v.minor v.patch = v := by
  obtain ⟨hmajor, hminor, hpatch⟩ := v.parts_lt
  obtain ⟨majors, minors, patches⟩ := parts_pack hmajor hminor hpatch
  apply eq_of_parts
  · rw [majors]
  · rw [minors]
  · rw [patches]

/-- The words of a block are `2^24` consecutive ones, beginning at a multiple of that number. -/
def InBlock (v : Version) (block : Nat) : Prop :=
  block * 2 ^ 24 ≤ v.word.toNat ∧ v.word.toNat < (block + 1) * 2 ^ 24

theorem inBlock_iff : v.InBlock block ↔ v.major.toNat = block := by
  rw [InBlock, toNat_major, Nat.pow_eq]
  omega

theorem compatible_iff_inBlock : host.compatible backend = true ↔
    ∃ block, host.InBlock block ∧ backend.InBlock block := by
  simp only [compatible_iff, inBlock_iff]
  constructor
  · intro same
    exact ⟨backend.major.toNat, congrArg UInt32.toNat same, rfl⟩
  · rintro ⟨block, first, second⟩
    exact UInt32.toNat_inj.1 (first.trans second.symm)

theorem compatible_equivalence :
    Equivalence fun host backend : Version => host.compatible backend = true := by
  simp only [compatible_iff]
  exact ⟨fun _ => rfl, Eq.symm, Eq.trans⟩

def beforeDot (text : String) : String := String.ofList (text.toList.takeWhile fun c => c ≠ '.')

theorem beforeDot_text (v : Version) : beforeDot v.text = toString v.major.toNat := by
  have digits : ∀ c ∈ (toString v.major.toNat).toList, decide (c ≠ '.') = true := by
    intro c there
    apply decide_eq_true
    rintro rfl
    exact Text.not_mem_decimal rfl _ there
  have dot : ".".toList = ['.'] := rfl
  simp only [beforeDot, text, String.toList_append, dot, List.append_assoc, List.cons_append]
  rw [List.takeWhile_append_of_pos digits, List.takeWhile_cons_of_neg (by simp), List.append_nil,
    String.ofList_toList]

theorem compatible_iff_beforeDot :
    host.compatible backend = true ↔ beforeDot host.text = beforeDot backend.text := by
  rw [compatible_iff, beforeDot_text, beforeDot_text]
  constructor
  · intro same
    rw [same]
  · intro same
    exact UInt32.toNat_inj.1 (Text.decimal_injective same)

end Version

theorem Invoker.not_compatible_of_init {b : Build} {p : Invoker b} {s : Holdings} {path : String}
    {expected found : Version}
    (answer : (p.init s).answer = .error (.incompatible path expected found)) :
    ¬ expected.compatible found = true := by
  by_cases unready : p.status = .unready
  · have initialises := initialises_init unready s
    generalize p.init s = result at initialises answer
    cases initialises with
    | unopened _ => cases answer
    | incompatible _ _ disagrees =>
      cases answer
      rw [Version.compatible_iff]
      exact Ne.symm disagrees
    | missing _ _ _ _ _ => cases answer
    | served _ _ _ => cases answer
  · rw [init_again unready] at answer
    cases answer

namespace Version

/-- What is kept of a version in its word and in its text, and what two versions that go together
have in common. A failure of the version check shows two texts that differ before the dot. -/
structure Lossless : Prop where
  bounded : ∀ v : Version,
    v.major.toNat < 2 ^ 8 ∧ v.minor.toNat < 2 ^ 8 ∧ v.patch.toNat < 2 ^ 16
  packed : ∀ v : Version, pack v.major v.minor v.patch = v
  unpacked : ∀ major minor patch : UInt32, major.toNat < 2 ^ 8 → minor.toNat < 2 ^ 8 →
    patch.toNat < 2 ^ 16 → (pack major minor patch).major = major ∧
      (pack major minor patch).minor = minor ∧ (pack major minor patch).patch = patch
  printed : ∀ v w : Version, v.text = w.text ↔ v = w
  blocks : ∀ host backend : Version, host.compatible backend = true ↔
    ∃ block, host.InBlock block ∧ backend.InBlock block
  equivalence : Equivalence fun host backend : Version => host.compatible backend = true
  front : ∀ v : Version, beforeDot v.text = toString v.major.toNat
  fronts : ∀ host backend : Version,
    host.compatible backend = true ↔ beforeDot host.text = beforeDot backend.text
  shown : ∀ (b : Build) (p : Invoker b) (s : Holdings) (path : String) (expected found : Version),
    (p.init s).answer = .error (.incompatible path expected found) →
      (InvokerError.incompatible path expected found).message = "Incompatible ABI version in " ++
          path ++ ": expected " ++ expected.text ++ ", found " ++ found.text ∧
        beforeDot expected.text ≠ beforeDot found.text

theorem decodes_losslessly : Lossless where
  bounded := parts_lt
  packed := pack_parts
  unpacked _ _ _ := parts_pack
  printed _ _ := ⟨text_injective, congrArg text⟩
  blocks _ _ := compatible_iff_inBlock
  equivalence := compatible_equivalence
  front := beforeDot_text
  fronts _ _ := compatible_iff_beforeDot
  shown _ _ _ path expected found answer := by
    have other := Invoker.not_compatible_of_init answer
    rw [compatible_iff_beforeDot] at other
    exact ⟨InvokerError.message_incompatible path expected found, other⟩

def misfit : Invoker .standard :=
  .ofTable (Scripted.Script.table { version := pack 2 3 4 } 0)

theorem decodes_losslessly_of_misfit :
    (misfit.init {}).answer = .error (.incompatible "/lib" current (pack 2 3 4)) ∧
      (InvokerError.incompatible "/lib" current (pack 2 3 4)).message =
        "Incompatible ABI version in " ++ "/lib" ++ ": expected " ++ current.text ++ ", found " ++
          (pack 2 3 4).text ∧
      beforeDot current.text ≠ beforeDot (pack 2 3 4).text :=
  ⟨rfl, decodes_losslessly.shown .standard misfit {} _ _ _ rfl⟩

end Version

end GraphPlugin
