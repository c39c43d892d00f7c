import GraphPlugin.Proofs.Outcomes
import GraphPlugin.Proofs.Settlement
import GraphPlugin.Proofs.Values
import Mathlib.Data.List.Perm.Basic

/-! What a step of a host can do to the books. There are eleven moves, and every step of a host is a
short sequence of them. What each move keeps is kept by all steps and so by all runs. -/
namespace GraphPlugin

open Handle (alive root_alive part_alive inner_alive)

variable {b : Build}

namespace Holdings

theorem stash_drop (s : Holdings) (h : Handle) : (s.drop h).1.stash = s.stash := by
  obtain ⟨refs, shares, same⟩ := s.drop_fst h
  rw [same]

theorem stash_giveUp (s : Holdings) (library : Tag) : (s.giveUp library).1.stash = s.stash := by
  rw [s.giveUp_fst]

variable {known : List Handle}

mutual

theorem build_snd (origin : Origin) : ∀ (product : Product known) (s : Holdings),
    ∃ refs fragments, (s.build origin product).2 = { s with refs := refs, fragments := fragments }
  | .known h _, s => ⟨h.node :: s.refs, s.fragments, rfl⟩
  | .fragment content held shown, s => by
    obtain ⟨refs, fragments, inside⟩ := buildAll_snd origin held s
    refine ⟨.fragment (fragments.next origin) :: refs, fragments.advance origin, ?_⟩
    show ((s.buildAll origin held).2.addFragment origin content _ shown).2 = _
    rw [inside]
    rfl

theorem buildAll_snd (origin : Origin) : ∀ (products : List (Product known)) (s : Holdings),
    ∃ refs fragments, (s.buildAll origin products).2 =
      { s with refs := refs, fragments := fragments }
  | [], s => ⟨s.refs, s.fragments, rfl⟩
  | product :: rest, s => by
    obtain ⟨refs, fragments, first⟩ := build_snd origin product s
    obtain ⟨refs, fragments, others⟩ := buildAll_snd origin rest (s.build origin product).2
    exact ⟨refs, fragments, by rw [buildAll, others, first]⟩

end

theorem accept_snd (s : Holdings) (origin : Origin) (response : Response known) :
    ∃ refs fragments, (s.accept origin response).2 =
      { s with
        refs := refs
        fragments := fragments
        stash := (if response.stashesBack then [(s.accept origin response).1] else []) ++
          ((s.build origin response.back).2.buildAll origin response.stashed).1 ++ s.stash } := by
  obtain ⟨_, _, first⟩ := s.build_snd origin response.back
  obtain ⟨refs, fragments, others⟩ :=
    (s.build origin response.back).2.buildAll_snd origin response.stashed
  rw [first] at others
  let again := if response.stashesBack then [(s.accept origin response).1] else []
  have kept : (s.accept origin response).2 =
      { ((s.build origin response.back).2.buildAll origin response.stashed).2 with
        refs := (((s.build origin response.back).2.buildAll origin response.stashed).2.retainAll
          again).refs
        stash := again ++ ((s.build origin response.back).2.buildAll origin response.stashed).1 ++
          ((s.build origin response.back).2.buildAll origin response.stashed).2.stash } := rfl
  exact ⟨again.map Handle.node ++ refs, fragments, by rw [kept, first, others]; rfl⟩

theorem stash_accept (s : Holdings) (origin : Origin) (response : Response known) :
    (s.accept origin response).2.stash =
      (if response.stashesBack then [(s.accept origin response).1] else []) ++
        ((s.build origin response.back).2.buildAll origin response.stashed).1 ++ s.stash := by
  obtain ⟨refs, fragments, accepted⟩ := s.accept_snd origin response
  exact congrArg Holdings.stash accepted

theorem libraries_adopt (s : Holdings) (library : Tag) (response : Response known) :
    (s.adopt library response).2.libraries = s.libraries := by
  obtain ⟨refs, fragments, accepted⟩ := s.accept_snd library.origin response
  show (s.accept library.origin response).2.libraries = s.libraries
  rw [accepted]

end Holdings

inductive Move : Ledger → List Event → Ledger → Prop
  | reorder {s roots more owners others} : List.Perm roots more → List.Perm owners others →
      Move ⟨s, roots, owners⟩ [] ⟨s, more, others⟩
  | note {l events} : (∀ e ∈ events, e.Quiet) → Move l events l
  | call {s roots owners} : Move ⟨s, roots, owners⟩ [] ⟨s.called, roots, owners⟩
  | stash {s roots owners} (stash : List Handle) :
      Move ⟨s, roots, owners⟩ [] ⟨{ s with stash }, roots, owners⟩
  | retain {s roots owners held} : (∀ h ∈ held, h ∈ alive roots) →
      Move ⟨s, roots, owners⟩ [] ⟨s.retainAll held, held ++ roots, owners⟩
  | addFragment {s held roots owners} (origin : Origin) (content : Fragment) (shown : Option Nat) :
      Move ⟨s, held ++ roots, owners⟩ []
        ⟨(s.addFragment origin content held shown).2,
          (s.addFragment origin content held shown).1 :: roots, owners⟩
  | bind {s h roots owners library} : library ∈ owners →
      Move ⟨s, h :: roots, owners⟩ []
        ⟨(s.bind library h).2, (s.bind library h).1 :: roots, owners⟩
  | drop {s h roots owners} :
      Move ⟨s, h :: roots, owners⟩ (s.drop h).2 ⟨(s.drop h).1, roots, owners⟩
  | giveUp {s roots owners library} :
      Move ⟨s, roots, library :: owners⟩ (s.giveUp library).2 ⟨(s.giveUp library).1, roots, owners⟩
  | serve {s roots owners} (origin : Origin) (unload : Bool) :
      Move ⟨s, roots, owners⟩ []
        ⟨(s.addLibrary origin).2.share (s.libraries.next origin) unload, roots,
          s.libraries.next origin :: owners⟩
  | discard {s roots owners} (origin : Origin) :
      Move ⟨s, roots, owners⟩ [.released (s.libraries.next origin)]
        ⟨(s.addLibrary origin).2, roots, owners⟩

namespace Move

variable {l m : Ledger} {events : List Event}

theorem balanced (move : Move l events m) (bal : l.Balanced) : m.Balanced := by
  cases move with
  | reorder hr ho => exact bal.reorder hr ho
  | note _ => exact bal
  | call => exact { bal with }
  | stash stash => exact { bal with }
  | retain ha => exact bal.retainAll ha
  | addFragment origin content shown => exact bal.addFragment origin content shown
  | bind owned =>
    exact bal.bind (bal.opened _ (.inl ((bal.mem_shares_iff _).2 (.inl owned))))
  | drop => exact bal.drop
  | giveUp => exact bal.giveUp
  | serve origin unload =>
    exact (bal.addLibrary origin).firstShare unload ((Tally.issued_advance_iff _ _ _).2 (.inl rfl))
  | discard origin => exact bal.addLibrary origin

theorem settles (move : Move l events m) (bal : l.Balanced) :
    Settles l.holdings events m.holdings := by
  cases move with
  | reorder _ _ => exact .refl _
  | note quiet => exact .quiet _ quiet
  | call => exact .of_same (fun _ => rfl) rfl rfl fun _ => Iff.rfl
  | stash _ => exact .of_same (fun _ => rfl) rfl rfl fun _ => Iff.rfl
  | retain _ => exact .of_same (fun _ => rfl) rfl rfl fun _ => Iff.rfl
  | addFragment _ _ _ => exact .of_same (fun _ => rfl) rfl rfl fun _ => Iff.rfl
  | @bind s h roots owners library owned =>
    have shared := (bal.mem_shares_iff library).2 (.inl owned)
    refine .of_same (fun _ => rfl) rfl rfl fun n => ⟨fun h => ?_, List.mem_cons_of_mem _⟩
    rcases List.mem_cons.1 h with rfl | h
    · exact shared
    · exact h
  | drop => exact bal.settles_drop
  | giveUp =>
    have shared := (bal.mem_shares_iff _).2 (.inl List.mem_cons_self)
    exact Ledger.settles_giveUp shared (bal.opened _ (.inl shared))
  | serve origin unload => exact Ledger.settles_serve _ origin unload
  | discard origin => exact bal.settles_discard origin

end Move

inductive Moves : Ledger → List Event → Ledger → Prop
  | done (l : Ledger) : Moves l [] l
  | next {l m n : Ledger} {events more : List Event} :
      Move l events m → Moves m more n → Moves l (events ++ more) n

namespace Moves

variable {l m n : Ledger} {events more : List Event}

theorem trans (first : Moves l events m) (second : Moves m more n) :
    Moves l (events ++ more) n := by
  induction first with
  | done l => exact second
  | next move _ ih =>
    rw [List.append_assoc]
    exact .next move (ih second)

theorem single (move : Move l events m) : Moves l events m := by
  have once := Moves.next move (.done m)
  rwa [List.append_nil] at once

theorem log (l : Ledger) (entry : Log) : Moves l [.log entry] l :=
  single (.note (by simp [Event.Quiet]))

theorem of_eq (moves : Moves l events m) (same : events = more) : Moves l more m := same ▸ moves

theorem balanced (moves : Moves l events m) (bal : l.Balanced) : m.Balanced := by
  induction moves with
  | done l => exact bal
  | next move _ ih => exact ih (move.balanced bal)

theorem settles (moves : Moves l events m) (bal : l.Balanced) :
    Settles l.holdings events m.holdings := by
  induction moves with
  | done l => exact .refl _
  | next move _ ih => exact (move.settles bal).trans (ih (move.balanced bal))

end Moves

namespace Host

/-- The handles that callers keep, and those that backends keep. -/
def roots (host : Host b) : List Handle := host.handles.values ++ host.holdings.stash

def owners (host : Host b) : List Tag := host.invokers.values.filterMap Invoker.library?

def ledger (host : Host b) : Ledger := ⟨host.holdings, host.roots, host.owners⟩

theorem root_of_find {host : Host b} {name : String} {h : Handle}
    (found : host.handles.get? name = some h) : h ∈ host.roots :=
  List.mem_append_left _ ((Keyed.mem_values_iff _ _).2 ⟨name, found⟩)

theorem mem_roots_iff (host : Host b) (h : Handle) :
    h ∈ host.roots ↔ (∃ name, host.handles.get? name = some h) ∨ h ∈ host.holdings.stash := by
  rw [roots, List.mem_append, Keyed.mem_values_iff]

theorem root_of_findAll {host : Host b} {names : List String} {held : List Handle}
    (found : host.findAll names = .ok held) : ∀ h ∈ held, h ∈ host.roots := by
  intro h hh
  obtain ⟨name, here⟩ := named_of_findAll found hh
  exact root_of_find here

theorem mem_owners_iff (host : Host b) (library : Tag) :
    library ∈ host.owners ↔
      ∃ name p, host.invokers.get? name = some p ∧ p.library? = some library := by
  simp only [owners, List.mem_filterMap, Keyed.mem_values_iff]
  constructor
  · rintro ⟨p, ⟨name, found⟩, holds⟩
    exact ⟨name, p, found, holds⟩
  · rintro ⟨name, p, found, holds⟩
    exact ⟨p, ⟨name, found⟩, holds⟩

/-- How a step ends: it drops nothing, or the last thing that it does is to drop one handle. -/
inductive Turns (host : Host b) (outcome : Outcome (Host b) (Reply b)) : Prop
  | keeps : Moves host.ledger outcome.events outcome.state.ledger →
      (∀ fragment, Event.dropped fragment ∉ outcome.events) → Turns host outcome
  | discards {events : List Event} {s : Holdings} {old : Handle} : old ∈ host.roots →
      (∀ e ∈ events, e.Quiet) →
      Moves host.ledger events ⟨s, old :: outcome.state.roots, outcome.state.owners⟩ →
      outcome.events = events ++ (s.drop old).2 → outcome.state.holdings = (s.drop old).1 →
      Turns host outcome

theorem Turns.moves {host : Host b} {outcome : Outcome (Host b) (Reply b)}
    (turns : Turns host outcome) : Moves host.ledger outcome.events outcome.state.ledger := by
  cases turns with
  | keeps moves _ => exact moves
  | discards _ _ moves events holdings =>
    rw [events, ledger, ledger, holdings]
    exact moves.trans (.single .drop)

theorem not_dropped_of_quiet {events : List Event} (quiet : ∀ e ∈ events, e.Quiet)
    (fragment : Tag) : Event.dropped fragment ∉ events := fun dropped => quiet _ dropped

theorem answerHandle_turns {host : Host b} {s : Holdings} {h : Handle} {events : List Event}
    (quiet : ∀ e ∈ events, e.Quiet)
    (moves : Moves host.ledger events ⟨s, h :: (host.handles.values ++ s.stash), host.owners⟩)
    (result : String) : Turns host (host.answerHandle result h s events) := by
  have inserted := (host.handles.values_insert_perm result h).append_right s.stash
  unfold answerHandle keepHandle
  cases found : host.handles.get? result with
  | none =>
    rw [Keyed.erase_of_get?_none found] at inserted
    have named := moves.trans (.single (.reorder inserted.symm (.refl _)))
    exact .keeps named fun fragment => by simpa using not_dropped_of_quiet quiet fragment
  | some old =>
    have before := (Keyed.values_perm_of_get? found).append_right s.stash
    have swapped : (h :: (host.handles.values ++ s.stash)).Perm
        (old :: ((host.handles.insert result h).values ++ s.stash)) :=
      ((before.cons h).trans (.swap _ _ _)).trans (inserted.symm.cons old)
    have named := (moves.trans (.single (.reorder swapped (.refl _)))).of_eq (List.append_nil _)
    rw [← Holdings.stash_drop s old] at named
    exact .discards (root_of_find found) quiet named rfl rfl

def otherOwners (host : Host b) (name : String) : List Tag :=
  (host.invokers.erase name).values.filterMap Invoker.library?

theorem filterMap_cons_toList (p : Invoker b) (rest : List (Invoker b)) :
    (p :: rest).filterMap Invoker.library? =
      p.library?.toList ++ rest.filterMap Invoker.library? := by
  cases h : p.library? <;> simp [h]

theorem owners_insert_perm (host : Host b) (name : String) (p : Invoker b) :
    ((host.invokers.insert name p).values.filterMap Invoker.library?).Perm
      (p.library?.toList ++ host.otherOwners name) := by
  have inserted := (host.invokers.values_insert_perm name p).filterMap Invoker.library?
  rwa [filterMap_cons_toList] at inserted

theorem owners_perm {host : Host b} {name : String} {p : Invoker b}
    (found : host.invokers.get? name = some p) :
    host.owners.Perm (p.library?.toList ++ host.otherOwners name) := by
  have split := (Keyed.values_perm_of_get? found).filterMap Invoker.library?
  rwa [filterMap_cons_toList] at split

theorem stash_close (p : Invoker b) (s : Holdings) : (p.close s).1.stash = s.stash := by
  unfold Invoker.close
  cases p.library? with
  | none => rfl
  | some library => exact s.stash_giveUp library

theorem close_moves {host : Host b} {name : String} {p : Invoker b}
    (found : host.invokers.get? name = some p) :
    Moves host.ledger (p.close host.holdings).2
      ⟨(p.close host.holdings).1, host.handles.values ++ (p.close host.holdings).1.stash,
        host.otherOwners name⟩ := by
  have owners := owners_perm found
  rw [stash_close]
  unfold Invoker.close
  cases holds : p.library? with
  | none =>
    rw [holds] at owners
    exact .single (.reorder (.refl _) owners)
  | some library =>
    rw [holds] at owners
    exact Moves.trans (.single (.reorder (.refl _) owners)) (.single .giveUp)

theorem keepInvoker_moves (host : Host b) (name : String) (p : Invoker b)
    (unshared : p.library? = none) :
    Moves host.ledger (host.keepInvoker name p).2 (host.keepInvoker name p).1.ledger := by
  have inserted := host.owners_insert_perm name p
  rw [unshared] at inserted
  unfold keepInvoker
  cases found : host.invokers.get? name with
  | none =>
    rw [otherOwners, Keyed.erase_of_get?_none found] at inserted
    exact .single (.reorder (.refl _) inserted.symm)
  | some old =>
    have closed := (close_moves found).trans (.single (.reorder (.refl _) inserted.symm))
    exact closed.of_eq (List.append_nil _)

theorem replace_moves {host : Host b} {name : String} {p q : Invoker b}
    (found : host.invokers.get? name = some p) (same : q.library? = p.library?) (s : Holdings) :
    Moves ⟨s, host.handles.values ++ s.stash, host.owners⟩ []
      (Host.ledger { host with invokers := host.invokers.insert name q, holdings := s }) := by
  have inserted := host.owners_insert_perm name q
  rw [same] at inserted
  exact .single (.reorder (.refl _) ((owners_perm found).trans inserted.symm))

theorem promote_moves {host : Host b} {name : String} {p q : Invoker b} {library : Tag}
    (found : host.invokers.get? name = some p) (unshared : p.library? = none)
    (holds : q.library? = some library) (s : Holdings) :
    Moves ⟨s, host.handles.values ++ s.stash, library :: host.owners⟩ []
      (Host.ledger { host with invokers := host.invokers.insert name q, holdings := s }) := by
  have before := owners_perm found
  have inserted := host.owners_insert_perm name q
  rw [unshared] at before
  rw [holds] at inserted
  exact .single (.reorder (.refl _) ((before.cons library).trans inserted.symm))

theorem bindAll_quiet (l : Library) (tag : Tag) (path : String) (ops : List Operation) :
    ∀ e ∈ (l.bindAll tag path ops).1, e.Quiet := by
  induction ops with
  | nil => simp [Library.bindAll]
  | cons o rest ih =>
    cases found : l.resolve o.entryPoint with
    | error cause =>
      rw [Library.bindAll_cons_error tag path rest found]
      simp [Event.Quiet]
    | ok entry =>
      rw [Library.bindAll_cons_ok tag path rest found]
      simpa [Event.Quiet] using ih

theorem checkVersion_quiet (l : Library) (tag : Tag) (path : String) :
    ∀ e ∈ (l.checkVersion tag path).1, e.Quiet := by
  cases found : l.resolve .version with
  | ok report =>
    rw [Library.checkVersion_ok tag path found]
    simp [Event.Quiet]
  | error cause =>
    rw [Library.checkVersion_error tag path found]
    simp [Event.Quiet]

theorem bind_quiet (l : Library) (tag : Tag) (path : String) (ops : List Operation) :
    ∀ e ∈ (l.bind tag path ops).1, e.Quiet := by
  have checked := checkVersion_quiet l tag path
  cases verdict : l.checkVersion tag path with
  | mk events result =>
    rw [verdict] at checked
    cases result with
    | error error => rwa [Library.bind_of_rejected ops verdict]
    | ok passed =>
      rw [Library.bind_of_passed ops verdict]
      intro e he
      rcases List.mem_append.1 he with he | he
      · exact checked e he
      · exact bindAll_quiet l tag path ops e he

theorem attempt_quiet (p : Invoker b) : ∀ e ∈ p.attempt, e.Quiet := by
  simp [Invoker.attempt, Event.Quiet]

theorem library?_of_unready {p : Invoker b} (unready : p.status = .unready) :
    p.library? = none := by
  simp [Invoker.library?, unready]

theorem stepInit_moves {host : Host b} {name : String} {p : Invoker b}
    (found : host.invokers.get? name = some p) :
    Moves host.ledger (host.stepInit name p).events (host.stepInit name p).state.ledger := by
  have outcome := p.init_cases host.holdings
  have first := attempt_quiet p
  unfold stepInit
  generalize p.init host.holdings = result at outcome ⊢
  cases outcome with
  | again started => exact replace_moves found rfl _
  | @unopened cause unready _ =>
    have noted := (Moves.single (.note first)).trans
      (.log host.ledger (.notLoaded p.id (.cannotOpen p.path cause)))
    have replaced := replace_moves (q := { p with status := .failed }) found
      (library?_of_unready unready).symm host.holdings
    exact (noted.trans replaced).of_eq (List.append_nil _)
  | @unbound l events error unready opened bound =>
    have second : ∀ e ∈ events, e.Quiet := by
      simpa [bound] using bind_quiet l (p.nextTag host.holdings) p.path b.operations
    have noted : Moves host.ledger (p.attempt ++ events) host.ledger :=
      Moves.trans (.single (.note first)) (.single (.note second))
    have gone := noted.trans (.single (.discard p.loader.origin))
    have told := gone.trans (.log _ (.notLoaded p.id error))
    have replaced := replace_moves (q := { p with status := .failed }) found
      (library?_of_unready unready).symm (host.holdings.addLibrary p.loader.origin).2
    exact (told.trans replaced).of_eq (by simp [Invoker.nextTag])
  | @served l events bindings unready opened bound =>
    have second : ∀ e ∈ events, e.Quiet := by
      simpa [bound] using bind_quiet l (p.nextTag host.holdings) p.path b.operations
    have noted : Moves host.ledger (p.attempt ++ events) host.ledger :=
      Moves.trans (.single (.note first)) (.single (.note second))
    have serves := noted.trans (.single (.serve p.loader.origin p.unloadOnDrop))
    have told := serves.trans (.log _ (.loaded p.id p.path))
    have promoted := promote_moves
      (q := { p with status := .ready bindings (p.nextTag host.holdings) })
      found (library?_of_unready unready) rfl
      ((host.holdings.addLibrary p.loader.origin).2.share (p.nextTag host.holdings) p.unloadOnDrop)
    exact (told.trans promoted).of_eq (by simp)

section Products

variable {known : List Handle} {owners : List Tag}

mutual

theorem build_moves (origin : Origin) : ∀ (product : Product known) (s : Holdings)
    (roots : List Handle), (∀ h ∈ known, h ∈ alive roots) →
      Moves ⟨s, roots, owners⟩ []
        ⟨(s.build origin product).2, (s.build origin product).1 :: roots, owners⟩
  | .known h given, _, _, ka => .single (.retain (List.forall_mem_singleton.2 (ka h given)))
  | .fragment content held shown, s, roots, ka =>
    (buildAll_moves origin held s roots ka).trans (.single (.addFragment origin content shown))

theorem buildAll_moves (origin : Origin) : ∀ (products : List (Product known)) (s : Holdings)
    (roots : List Handle), (∀ h ∈ known, h ∈ alive roots) →
      Moves ⟨s, roots, owners⟩ []
        ⟨(s.buildAll origin products).2, (s.buildAll origin products).1 ++ roots, owners⟩
  | [], _, _, _ => .done _
  | product :: rest, s, roots, ka => by
    have first := build_moves origin product s roots ka
    have others := buildAll_moves origin rest (s.build origin product).2
      ((s.build origin product).1 :: roots)
      fun h given => Handle.alive_cons _ (ka h given)
    have turned : ((s.buildAll origin (product :: rest)).1 ++ roots).Perm
        (((s.build origin product).2.buildAll origin rest).1 ++
          (s.build origin product).1 :: roots) := List.perm_middle.symm
    exact (first.trans others).trans (.single (.reorder turned.symm (.refl _)))

end

variable {s : Holdings} {named : List Handle} {library : Tag}

theorem accept_moves (origin : Origin) (response : Response known)
    (ka : ∀ h ∈ known, h ∈ alive (named ++ s.stash)) :
    Moves ⟨s, named ++ s.stash, owners⟩ []
      ⟨(s.accept origin response).2,
        (s.accept origin response).1 :: (named ++ (s.accept origin response).2.stash), owners⟩ := by
  let h := (s.accept origin response).1
  have built : Moves ⟨s, named ++ s.stash, owners⟩ [] _ :=
    build_moves origin response.back s _ ka
  have all := built.trans (buildAll_moves origin response.stashed _ _
    fun k given => Handle.alive_cons _ (ka k given))
  have there : h ∈ alive (((s.build origin response.back).2.buildAll origin response.stashed).1 ++
      h :: (named ++ s.stash)) := root_alive (List.mem_append_right _ List.mem_cons_self)
  let again := if response.stashesBack then [h] else []
  have same : ∀ k ∈ again, k = h := by
    cases stashes : response.stashesBack <;> simp [again, stashes]
  have sure : ∀ k ∈ again, k ∈ alive
      (((s.build origin response.back).2.buildAll origin response.stashed).1 ++
        h :: (named ++ s.stash)) := fun k hk => by rwa [same k hk]
  have kept := all.trans (.single (.retain sure))
  rw [Holdings.stash_accept]
  refine (kept.trans (.single (.stash _))).trans (.single (.reorder ?_ (.refl _)))
  rw [← List.append_assoc]
  exact List.perm_middle.trans ((List.perm_append_comm_assoc _ _ _).cons h)

theorem adopt_moves (response : Response known) (owned : library ∈ owners)
    (ka : ∀ h ∈ known, h ∈ alive (named ++ s.stash)) :
    Moves ⟨s, named ++ s.stash, owners⟩ []
      ⟨(s.adopt library response).2,
        (s.adopt library response).1 :: (named ++ (s.adopt library response).2.stash), owners⟩ :=
  (accept_moves library.origin response ka).trans (.single (.bind owned))

end Products

theorem forwarding_quiet (p : Invoker b) (library : Tag) {o : Operation} (entry : Entry o.shape)
    (args : Arguments o.shape) : ∀ e ∈ p.forwarding library entry args, e.Quiet := by
  simp [Invoker.forwarding, Event.Quiet]

theorem library?_of_ready {p : Invoker b} {bindings : Bindings b.operations} {library : Tag}
    (ready : p.status = .ready bindings library) : p.library? = some library := by
  simp [Invoker.library?, ready]

theorem known_alive {host : Host b} {shape : Shape} {args : Arguments shape}
    (named : ∀ h, args.source? = some h → h ∈ host.roots) {h : Handle}
    (known : h ∈ args.unwrapped.known host.holdings.stash) : h ∈ alive host.roots := by
  obtain ⟨k, hk, within⟩ := List.mem_flatMap.1 known
  refine part_alive ?_ within
  rcases List.mem_append.1 hk with given | kept
  · rw [Option.mem_toList, Arguments.source?_unwrapped, Option.map_eq_some_iff] at given
    obtain ⟨source, given, rfl⟩ := given
    exact part_alive (root_alive (named source given)) source.unwrapped_mem_parts
  · exact root_alive (List.mem_append_right _ kept)

theorem arguments_source {host : Host b} {request : Request} {o : Operation}
    {args : Arguments o.shape} (asked : host.arguments request = .ok ⟨o, args⟩) (h : Handle)
    (given : args.source? = some h) : h ∈ host.roots := by
  obtain ⟨name, found⟩ := (arguments_eq_ok_iff.1 asked).source_named given
  exact root_of_find found

theorem stepInvoke_turns {host : Host b} {name : String} {p : Invoker b}
    (found : host.invokers.get? name = some p) (o : Operation) (args : Arguments o.shape)
    (named : ∀ h, args.source? = some h → h ∈ host.roots) (result : String) :
    Turns host (host.stepInvoke p o args result) := by
  have outcome := p.invoke_cases host.holdings o args
  have ka : ∀ h ∈ args.unwrapped.known host.holdings.stash, h ∈ alive host.roots :=
    fun h => known_alive named
  unfold stepInvoke
  generalize p.invoke host.holdings o args = result at outcome ⊢
  cases outcome with
  | leftOut _ => exact .keeps (.log _ _) (by simp)
  | notReady _ _ => exact .keeps (.done _) (by simp)
  | unnamed _ _ _ => exact .keeps (.done _) (by simp)
  | @refused bindings library _ offered _ _ _ =>
    have quiet := forwarding_quiet p library (bindings o offered) args
    exact .keeps (Moves.trans (.single (.note quiet)) (.single .call)) (not_dropped_of_quiet quiet)
  | @done bindings library response offered ready _ _ =>
    have owned : library ∈ host.owners :=
      (mem_owners_iff host library).2 ⟨name, p, found, library?_of_ready ready⟩
    have called : Moves host.ledger (p.forwarding library (bindings o offered) args)
        ⟨host.holdings.called, host.roots, host.owners⟩ :=
      (Moves.trans (.single (.note (forwarding_quiet p _ _ args))) (.single .call)).of_eq
        (List.append_nil _)
    have adopted := (called.trans (adopt_moves response owned ka)).of_eq (List.append_nil _)
    exact answerHandle_turns (forwarding_quiet p _ _ args) adopted _

theorem drop_turns {host : Host b} {name : String} {h : Handle} {reply : Reply b}
    (found : host.handles.get? name = some h) :
    Turns host ⟨{ host with
        handles := host.handles.erase name, holdings := (host.holdings.drop h).1 },
      (host.holdings.drop h).2, reply⟩ := by
  have split := (Keyed.values_perm_of_get? found).append_right host.holdings.stash
  have sorted : Moves host.ledger [] ⟨host.holdings,
      h :: ((host.handles.erase name).values ++ host.holdings.stash), host.owners⟩ :=
    .single (.reorder split (.refl _))
  rw [← Holdings.stash_drop host.holdings h] at sorted
  exact .discards (root_of_find found) (List.forall_mem_nil _) sorted rfl rfl

theorem unstash_turns {host : Host b} {place : Nat} {h : Handle} {reply : Reply b}
    (kept : host.holdings.stash[place]? = some h) :
    Turns host ⟨{ host with holdings := ((host.holdings.unstash place).drop h).1 },
      ((host.holdings.unstash place).drop h).2, reply⟩ := by
  obtain ⟨inside, there⟩ := List.getElem?_eq_some_iff.1 kept
  have front := (List.getElem_cons_eraseIdx_perm inside).symm
  rw [there] at front
  have split := (front.append_left host.handles.values).trans List.perm_middle
  have taken : Moves host.ledger [] ⟨host.holdings.unstash place,
      h :: (host.handles.values ++ (host.holdings.unstash place).stash), host.owners⟩ :=
    .next (.stash _) (.single (.reorder split (.refl _)))
  rw [← Holdings.stash_drop _ h] at taken
  exact .discards (List.mem_append_right _ (List.mem_of_getElem? kept)) (List.forall_mem_nil _)
    taken rfl rfl

theorem close_not_dropped (p : Invoker b) (s : Holdings) (fragment : Tag) :
    Event.dropped fragment ∉ (p.close s).2 := by
  unfold Invoker.close
  cases p.library? with
  | none => simp
  | some library =>
    intro dropped
    cases s.giveUp_released library _ dropped

theorem keepInvoker_not_dropped (host : Host b) (name : String) (p : Invoker b) (fragment : Tag) :
    Event.dropped fragment ∉ (host.keepInvoker name p).2 := by
  unfold keepInvoker
  cases host.invokers.get? name with
  | none => simp
  | some old => exact close_not_dropped old host.holdings fragment

theorem init_not_dropped (p : Invoker b) (s : Holdings) (fragment : Tag) :
    Event.dropped fragment ∉ (p.init s).events := by
  have first := not_dropped_of_quiet (attempt_quiet p) fragment
  have second := fun l : Library =>
    not_dropped_of_quiet (bind_quiet l (p.nextTag s) p.path b.operations) fragment
  have outcome := p.init_cases s
  generalize p.init s = result at outcome ⊢
  cases outcome with
  | again _ => simp
  | unopened _ _ => simpa using first
  | @unbound l _ _ _ _ bound =>
    have there := second l
    rw [bound] at there
    simpa using ⟨first, there⟩
  | @served l _ _ _ _ bound =>
    have there := second l
    rw [bound] at there
    simpa using ⟨first, there⟩

theorem step_turns (host : Host b) (action : Action) : Turns host (host.step action) := by
  have outcome := host.step_cases action
  have quiet : ∀ e ∈ ([] : List Event), e.Quiet := List.forall_mem_nil _
  have idle : ∀ reply, Turns host ⟨host, [], reply⟩ := fun _ => .keeps (.done _) (by simp)
  generalize host.step action = result at outcome ⊢
  cases outcome with
  | refused => exact idle _
  | @created name _ _ _ _ p fresh =>
    exact .keeps (host.keepInvoker_moves name p (fresh ▸ rfl)) (host.keepInvoker_not_dropped name p)
  | @policySet _ unload p found =>
    exact .keeps (replace_moves (q := p.setUnloadOnDrop unload) found rfl _) (by simp)
  | @initialised _ p found => exact .keeps (stepInit_moves found) (init_not_dropped p _)
  | inspected => exact idle _
  | @closed _ p found => exact .keeps (close_moves found) (close_not_dropped p _)
  | invoked found asked => exact stepInvoke_turns found _ _ (arguments_source asked) _
  | made found =>
    have held := fun k hk => root_alive (root_of_findAll found k hk)
    exact answerHandle_turns quiet (.next (.retain held) (.single (.addFragment _ _ _))) _
  | described => exact idle _
  | cloned found =>
    have held := root_alive (root_of_find found)
    exact answerHandle_turns quiet (.single (.retain (List.forall_mem_singleton.2 held))) _
  | hollow => exact idle _
  | taken found inside =>
    have held := inner_alive (root_alive (root_of_find found)) (Handle.mem_inners_of_inner? inside)
    exact answerHandle_turns quiet (.single (.retain (List.forall_mem_singleton.2 held))) _
  | dropped found => exact drop_turns found
  | absent => exact idle _
  | unstashed kept => exact unstash_turns kept

theorem step_moves (host : Host b) (action : Action) :
    Moves host.ledger (host.step action).events (host.step action).state.ledger :=
  (host.step_turns action).moves

end Host

end GraphPlugin
