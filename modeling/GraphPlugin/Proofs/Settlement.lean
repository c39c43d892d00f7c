import GraphPlugin.Proofs.Ledger

/-! When libraries are released. A library is gone when it has been opened, nobody has a share of it
and it is not to stay. Every change of balanced books settles with the trace: it shows one release
of each library that goes in it, and no other. -/
namespace GraphPlugin

namespace Event

def isRelease (library : Tag) : Event → Bool
  | released l => l == library
  | _ => false

def Quiet : Event → Prop
  | released _ => False
  | dropped _ => False
  | _ => True

theorem Quiet.not_release {e : Event} (quiet : e.Quiet) (library : Tag) :
    e.isRelease library = false := by
  cases e <;> simp_all [Quiet, isRelease]

end Event

def releases (events : List Event) (library : Tag) : Nat := events.countP (Event.isRelease library)

@[simp] theorem releases_nil (library : Tag) : releases [] library = 0 := rfl

@[simp] theorem releases_append (events more : List Event) (library : Tag) :
    releases (events ++ more) library = releases events library + releases more library :=
  List.countP_append

theorem releases_quiet {events : List Event} (quiet : ∀ e ∈ events, e.Quiet) (library : Tag) :
    releases events library = 0 := by
  rw [releases, List.countP_eq_zero]
  intro e he
  simp [(quiet e he).not_release]

@[simp] theorem releases_released (library other : Tag) :
    releases [.released library] other = if library = other then 1 else 0 := by
  simp [releases, Event.isRelease, List.countP_cons]

@[simp] theorem releases_dropped_cons (fragment : Tag) (events : List Event) (library : Tag) :
    releases (.dropped fragment :: events) library = releases events library := by
  simp [releases, Event.isRelease]

theorem releases_pos_iff (events : List Event) (library : Tag) :
    0 < releases events library ↔ Event.released library ∈ events := by
  rw [releases, List.countP_pos_iff]
  constructor
  · rintro ⟨e, he, release⟩
    cases e <;> simp_all [Event.isRelease]
  · intro he
    exact ⟨_, he, by simp [Event.isRelease]⟩

namespace Holdings

/-- A library that has been opened, that nobody has a share of and that is not to stay. -/
def Gone (s : Holdings) (library : Tag) : Prop :=
  s.libraries.Issued library ∧ library ∉ s.shares ∧ library ∉ s.kept

instance (s : Holdings) (library : Tag) : Decidable (s.Gone library) :=
  inferInstanceAs (Decidable (_ ∧ _ ∧ _))

def gone (s : Holdings) (library : Tag) : Nat := if s.Gone library then 1 else 0

theorem gone_le_one (s : Holdings) (library : Tag) : s.gone library ≤ 1 := by
  unfold gone
  split <;> omega

theorem gone_congr {s t : Holdings} {n : Tag} (same : t.Gone n ↔ s.Gone n) :
    t.gone n = s.gone n := by
  simp only [gone, same]

theorem gone_eq_one_iff (s : Holdings) (library : Tag) : s.gone library = 1 ↔ s.Gone library := by
  unfold gone
  split <;> simp_all

theorem gone_eq_zero_iff (s : Holdings) (library : Tag) :
    s.gone library = 0 ↔ ¬ s.Gone library := by
  unfold gone
  split <;> simp_all

end Holdings

/-- What happens between two states of the holdings accounts for the libraries that go, and what has
been settled about a library stays so. -/
structure Settles (s : Holdings) (events : List Event) (t : Holdings) : Prop where
  releases : ∀ n, releases events n + s.gone n = t.gone n
  issued : ∀ n, s.libraries.Issued n → t.libraries.Issued n
  kept : ∀ n, s.libraries.Issued n → (n ∈ t.kept ↔ n ∈ s.kept)

namespace Settles

variable {s t u : Holdings} {events more : List Event}

theorem trans (first : Settles s events t) (second : Settles t more u) :
    Settles s (events ++ more) u where
  releases n := by
    have before := first.releases n
    have after := second.releases n
    rw [releases_append]
    omega
  issued n h := second.issued n (first.issued n h)
  kept n h := (second.kept n (first.issued n h)).trans (first.kept n h)

theorem of_same (none : ∀ n, GraphPlugin.releases events n = 0)
    (libraries : t.libraries = s.libraries)
    (kept : t.kept = s.kept) (shares : ∀ n, n ∈ t.shares ↔ n ∈ s.shares) :
    Settles s events t where
  releases n := by
    have same : t.Gone n ↔ s.Gone n := by simp only [Holdings.Gone, libraries, kept, shares]
    rw [none, Holdings.gone_congr same, Nat.zero_add]
  issued n h := libraries ▸ h
  kept n _ := by rw [kept]

theorem refl (s : Holdings) : Settles s [] s :=
  of_same (fun _ => rfl) rfl rfl fun _ => Iff.rfl

theorem quiet (s : Holdings) (quiet : ∀ e ∈ events, e.Quiet) : Settles s events s :=
  of_same (releases_quiet quiet) rfl rfl fun _ => Iff.rfl

theorem gone_stays (h : Settles s events t) {n : Tag} (gone : s.Gone n) :
    t.Gone n ∧ GraphPlugin.releases events n = 0 := by
  have sum := h.releases n
  have before := (s.gone_eq_one_iff n).2 gone
  have most := t.gone_le_one n
  exact ⟨(t.gone_eq_one_iff n).1 (by omega), by omega⟩

theorem released_iff (h : Settles s events t) (n : Tag) :
    Event.released n ∈ events ↔ t.Gone n ∧ ¬ s.Gone n := by
  have sum := h.releases n
  rw [← releases_pos_iff, ← Holdings.gone_eq_one_iff, ← Holdings.gone_eq_zero_iff]
  have most := t.gone_le_one n
  omega

end Settles

namespace Ledger

variable {s : Holdings} {roots : List Handle} {owners : List Tag} {h : Handle}

theorem settles_giveUp {library : Tag} (shared : library ∈ s.shares)
    (opened : s.libraries.Issued library) :
    Settles s (s.giveUp library).2 (s.giveUp library).1 := by
  have others : ∀ n, n ≠ library → (n ∈ s.shares.erase library ↔ n ∈ s.shares) :=
    fun n ne => List.mem_erase_of_ne ne
  by_cases stays : library ∈ s.shares.erase library ∨ library ∈ s.kept
  · rw [Holdings.giveUp_of_shared stays]
    refine ⟨fun n => ?_, fun n h => h, fun n _ => Iff.rfl⟩
    have same : Holdings.Gone { s with shares := s.shares.erase library } n ↔ s.Gone n := by
      by_cases e : n = library
      · subst e
        rcases stays with shares | kept
        · simp [Holdings.Gone, shares, shared]
        · simp [Holdings.Gone, kept]
      · simp only [Holdings.Gone, others n e]
    rw [releases_nil, Holdings.gone_congr same, Nat.zero_add]
  · rw [Holdings.giveUp_of_last stays]
    refine ⟨fun n => ?_, fun n h => h, fun n _ => Iff.rfl⟩
    rw [not_or] at stays
    by_cases e : n = library
    · subst e
      simp [Holdings.gone, Holdings.Gone, shared, stays, opened]
    · have same : Holdings.Gone { s with shares := s.shares.erase library } n ↔ s.Gone n := by
        simp only [Holdings.Gone, others n e]
      have other : ¬ library = n := fun h => e h.symm
      rw [releases_released, if_neg other, Holdings.gone_congr same, Nat.zero_add]

theorem Balanced.settles_dropAll {held : List Handle} (bal : Balanced ⟨s, held ++ roots, owners⟩) :
    Settles s (s.dropAll held).2 (s.dropAll held).1 := by
  have forgets : ∀ (s : Holdings) (x : Node) (events : List Event),
      (∀ n, releases events n = 0) → Settles s events (s.forget x) :=
    fun s x events none => .of_same none rfl rfl fun _ => Iff.rfl
  induction s, held using Holdings.dropAll_induction generalizing roots owners with
  | nil s => exact .refl s
  | counted s h rest counted same ih =>
    rw [same]
    have stays := bal.letGo (bal.mem_refs_erase_iff.1 counted)
    exact (forgets s _ [] fun _ => rfl).trans (ih stays)
  | fragment s tag content held shown rest last same ih =>
    rw [same]
    have left := bal.leave (mt bal.mem_refs_erase_iff.2 last)
    have others := ih (left.reorder (.of_eq (List.append_assoc _ _ _).symm) (.refl _))
    exact (forgets s _ [.dropped tag] fun _ => by simp).trans others
  | bound s t number library inner rest last inside same ih others =>
    rw [same]
    have left := bal.leave (mt bal.mem_refs_erase_iff.2 last)
    -- The share that the binding had is held for the binding until its handle is dropped.
    have after : Balanced ⟨t, rest ++ roots, library :: owners⟩ := inside ▸ left.dropAll
    have shared := (after.mem_shares_iff library).2 (.inl List.mem_cons_self)
    have given := settles_giveUp shared (after.opened library (.inl shared))
    have handle := (forgets s _ [] fun _ => rfl).trans (ih left)
    rw [← inside] at handle
    exact (handle.trans given).trans (others after.giveUp)

theorem Balanced.settles_drop (bal : Balanced ⟨s, h :: roots, owners⟩) :
    Settles s (s.drop h).2 (s.drop h).1 := by
  have one : Balanced ⟨s, [h] ++ roots, owners⟩ := bal
  rw [← Holdings.dropAll_singleton]
  exact one.settles_dropAll

theorem Balanced.settles_discard (bal : Balanced ⟨s, roots, owners⟩) (origin : Origin) :
    Settles s [.released (s.libraries.next origin)] (s.addLibrary origin).2 := by
  have new := s.libraries.not_issued_next origin
  refine ⟨fun n => ?_, fun n h => ?_, fun n _ => Iff.rfl⟩
  · by_cases e : n = s.libraries.next origin
    · have before : ¬ s.Gone n := fun h => new (e ▸ h.1)
      have after : (s.addLibrary origin).2.Gone n :=
        ⟨(s.libraries.issued_advance_iff origin n).2 (.inl e),
          fun h => new (e ▸ bal.opened n (.inl h)), fun h => new (e ▸ bal.opened n (.inr h))⟩
      rw [releases_released, if_pos e.symm, (Holdings.gone_eq_zero_iff _ _).2 before,
        (Holdings.gone_eq_one_iff _ _).2 after]
    · have same : (s.addLibrary origin).2.Gone n ↔ s.Gone n := by
        simp [Holdings.Gone, Holdings.addLibrary, Tally.issued_advance_iff, e]
      rw [releases_released, if_neg (Ne.symm e), Holdings.gone_congr same, Nat.zero_add]
  · exact (s.libraries.issued_advance_iff origin n).2 (.inr h)

theorem settles_serve (s : Holdings) (origin : Origin) (unload : Bool) :
    Settles s [] ((s.addLibrary origin).2.share (s.libraries.next origin) unload) := by
  have new := s.libraries.not_issued_next origin
  have apart : ∀ n, s.libraries.Issued n → n ≠ s.libraries.next origin := fun n h e => new (e ▸ h)
  refine ⟨fun n => ?_, fun n h => ?_, fun n h => ?_⟩
  · have same : ((s.addLibrary origin).2.share (s.libraries.next origin) unload).Gone n ↔
        s.Gone n := by
      by_cases e : n = s.libraries.next origin
      · subst e
        simp [Holdings.Gone, Holdings.share, new]
      · cases unload <;>
          simp [Holdings.Gone, Holdings.addLibrary, Holdings.share, Tally.issued_advance_iff, e]
    rw [releases_nil, Holdings.gone_congr same, Nat.zero_add]
  · exact (s.libraries.issued_advance_iff origin n).2 (.inr h)
  · cases unload <;> simp [Holdings.addLibrary, Holdings.share, apart n h]

end Ledger

end GraphPlugin
