import GraphPlugin.Proofs.Openings

/-! When a library is released: inside the initialisation that opened it, when that fails; with its
last share, when the initialisation went well and the policy of that moment is to unload; and never
under the other policy. -/
namespace GraphPlugin.Host

variable {b : Build}

theorem split_cases {before rest sofar later : List Action} {step action : Action}
    (same : before ++ step :: rest = sofar ++ action :: later) :
    (∃ more, before = sofar ++ action :: more) ∨ (sofar = before ∧ action = step) ∨
      ∃ more, sofar = before ++ step :: more := by
  rcases append_split same with ⟨more, split⟩ | ⟨more, rfl, tail⟩
  · exact .inl ⟨more, split⟩
  · cases more with
    | nil =>
      cases tail
      exact .inr (.inl ⟨List.append_nil _, rfl⟩)
    | cons x more =>
      cases tail
      exact .inr (.inr ⟨more, rfl⟩)

theorem released_iff_unshared {p : Invoker b} {n : Tag} {before rest : List Action} {init : Action}
    (opens : Opens p n ((start b).after before) init)
    (serves : Serves ((start b).after before) init) (unload : p.unloadOnDrop = true)
    {sofar later : List Action} {action : Action}
    (split : before ++ init :: rest = sofar ++ action :: later) :
    Event.released n ∈ (((start b).after sofar).step action).events ↔
      (start b).Shared sofar n ∧ ¬ (start b).Shared (sofar ++ [action]) n := by
  rw [(step_settles b sofar action).released_iff n]
  rcases split_cases split with ⟨more, rfl⟩ | ⟨rfl, rfl⟩ | ⟨more, rfl⟩
  · -- Before it is opened the library has neither shares nor a release.
    have new := not_issued_before opens
    have unissued : ¬ ((start b).after (sofar ++ [action])).holdings.libraries.Issued n := by
      have stays := (more_settles b (sofar ++ [action]) more).issued n
      rw [List.append_assoc, List.singleton_append] at stays
      exact mt stays new
    have earlier : ¬ ((start b).after sofar).holdings.libraries.Issued n :=
      mt ((step_settles b sofar action).issued n) unissued
    constructor
    · rintro ⟨gone, _⟩
      exact absurd gone.1 unissued
    · rintro ⟨shared, _⟩
      exact absurd shared (not_shared_of_not_issued earlier)
  · have shared := shared_of_serves opens serves
    constructor
    · rintro ⟨gone, _⟩
      exact absurd ((mem_shares_iff_shared b _ n).2 shared) gone.2.1
    · rintro ⟨_, unshared⟩
      contradiction
  · -- From then on it is gone exactly when it is not shared.
    have gone_iff : ∀ later, ((start b).after (before ++ init :: later)).holdings.Gone n ↔
        ¬ (start b).Shared (before ++ init :: later) n := by
      intro later
      have issued := issued_later opens later
      have kept := kept_later opens serves later
      rw [unload] at kept
      rw [Holdings.Gone, mem_shares_iff_shared]
      simp [issued, kept]
    have last := gone_iff (more ++ [action])
    rw [← List.cons_append, ← List.append_assoc] at last
    rw [last, gone_iff more, Classical.not_not]
    exact and_comm

/-- The law of release for one library: `p` is the invoker as the step `init` finds it after
`before`, and `rest` is whatever happens afterwards. -/
structure ReleasedExactly (p : Invoker b) (n : Tag) (before : List Action) (init : Action)
    (rest : List Action) : Prop where
  decided : Fails ((start b).after before) init ∨ Serves ((start b).after before) init
  failed : Fails ((start b).after before) init →
    releases (((start b).after before).step init).events n = 1 ∧
      releases ((start b).trace (before ++ init :: rest)) n = 1
  unloaded : Serves ((start b).after before) init → p.unloadOnDrop = true →
    releases ((start b).trace (before ++ init :: rest)) n ≤ 1 ∧
      ∀ sofar action later, before ++ init :: rest = sofar ++ action :: later →
        (Event.released n ∈ (((start b).after sofar).step action).events ↔
          (start b).Shared sofar n ∧ ¬ (start b).Shared (sofar ++ [action]) n)
  stays : Serves ((start b).after before) init → p.unloadOnDrop = false →
    releases ((start b).trace (before ++ init :: rest)) n = 0

theorem released_exactly {p : Invoker b} {n : Tag} {before rest : List Action} {init : Action}
    (opens : Opens p n ((start b).after before) init) :
    ReleasedExactly p n before init rest where
  decided := by
    rcases opens_cases opens with ⟨fails, _⟩ | ⟨serves, _⟩
    · exact .inl fails
    · exact .inr serves
  failed fails := by
    have gone := gone_of_fails opens fails
    have before_gone : ((start b).after before).holdings.gone n = 0 :=
      (Holdings.gone_eq_zero_iff _ _).2 fun h => not_issued_before opens h.1
    have after_gone := (Holdings.gone_eq_one_iff _ _).2 gone
    have step := (step_settles b before init).releases n
    have stays := ((more_settles b (before ++ [init]) rest).gone_stays gone).1
    rw [List.append_assoc, List.singleton_append] at stays
    rw [releases_trace, (Holdings.gone_eq_one_iff _ _).2 stays]
    exact ⟨by omega, rfl⟩
  unloaded serves unload := by
    rw [releases_trace]
    exact ⟨Holdings.gone_le_one _ _, fun _ _ _ split =>
      released_iff_unshared opens serves unload split⟩
  stays serves stay := by
    rw [releases_trace, Holdings.gone_eq_zero_iff]
    rintro ⟨_, _, unkept⟩
    exact unkept ((kept_later opens serves rest).2 stay)

theorem released_exactly_behind_holder :
    Serves ((start .standard).after
        [.create "p" "plugin" "/lib" (.serving (Scripted.Script.table {} 0)) none]) (.init "p") ∧
      ReleasedExactly (.ofTable (b := .standard) (Scripted.Script.table {} 0)) ⟨.inProcess, 1⟩
        [.create "p" "plugin" "/lib" (.serving (Scripted.Script.table {} 0)) none] (.init "p")
        [.invoke "p" (.loadGraph .single ⟨"/store", 1⟩ "g" .empty) "h", .clone "h" "k",
          .make ⟨⟨1⟩, "pair", .arrow⟩ ["h", "k"] none "pair", .close "p", .drop "h", .drop "k",
          .drop "pair"] :=
  ⟨rfl, released_exactly ⟨"p", _, rfl, rfl, rfl, rfl, rfl⟩⟩

end GraphPlugin.Host
