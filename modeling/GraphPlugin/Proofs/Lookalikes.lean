import GraphPlugin.Proofs.SameExports

/-! Loaders of different kinds. Libraries of the system and tables of the process number what they
make in rows of their own, so runs with one and with the other cannot be the same to the last
identity. They are the same in all else: each step has the same answer and shows the same, but for
the identities of fragments and libraries and for what is dropped and released. -/
namespace GraphPlugin

variable {b : Build}

/-- The same event, but for identities. -/
inductive Event.Renamed : Event → Event → Prop
  | log (entry : Log) : Renamed (.log entry) (.log entry)
  | opening {origin other : Origin} (path : String) :
      Renamed (.opening origin path) (.opening other path)
  | resolving {library other : Tag} (symbol : String) :
      Renamed (.resolving library symbol) (.resolving other symbol)
  | version {library other : Tag} (label : Label) :
      Renamed (.calling (some library) label .version) (.calling (some other) label .version)
  | operation {library other : Tag} {label : Label} {s : Shape} {args again : Arguments s} :
      args.Same .renamed again → Renamed (.calling (some library) label (.operation s args))
        (.calling (some other) label (.operation s again))

def Event.isQuiet : Event → Bool
  | released _ => false
  | dropped _ => false
  | _ => true

theorem Event.Renamed.isQuiet {e f : Event} (renamed : e.Renamed f) :
    e.isQuiet = true ∧ f.isQuiet = true := by
  cases renamed <;> exact ⟨rfl, rfl⟩

/-- Drops and releases apart, the same events but for identities. -/
def ShowAlike (events more : List Event) : Prop :=
  List.Forall₂ Event.Renamed (events.filter Event.isQuiet) (more.filter Event.isQuiet)

namespace ShowAlike

variable {events more back rest : List Event}

theorem of_renamed (same : List.Forall₂ Event.Renamed events more) : ShowAlike events more := by
  unfold ShowAlike
  induction same with
  | nil => exact .nil
  | cons first _ ih =>
    rw [List.filter_cons_of_pos first.isQuiet.1, List.filter_cons_of_pos first.isQuiet.2]
    exact .cons first ih

theorem append (front : ShowAlike events more) (behind : ShowAlike back rest) :
    ShowAlike (events ++ back) (more ++ rest) := by
  unfold ShowAlike at *
  rw [List.filter_append, List.filter_append]
  exact List.rel_append front behind

theorem of_loud (first : ∀ e ∈ events, ¬ e.Quiet) (second : ∀ e ∈ more, ¬ e.Quiet) :
    ShowAlike events more := by
  have silent : ∀ {events : List Event}, (∀ e ∈ events, ¬ e.Quiet) →
      events.filter Event.isQuiet = [] := by
    intro events loud
    apply List.filter_eq_nil_iff.2
    intro e shown
    have here := loud e shown
    cases e <;> simp_all [Event.Quiet, Event.isQuiet]
  unfold ShowAlike
  rw [silent first, silent second]
  exact .nil

end ShowAlike

def Bindings.Same (r : Sameness) {ops : List Operation} (first second : Bindings ops) : Prop :=
  ∀ o offered, (first o offered).Same r (second o offered)

theorem Bindings.Same.cons {r : Sameness} {o : Operation} {ops : List Operation}
    {entry again : Entry o.shape} {first second : Bindings ops} (entries : entry.Same r again)
    (others : first.Same r second) :
    (Bindings.cons entry first).Same r (Bindings.cons again second) := by
  intro p offered
  by_cases here : o = p
  · subst here
    simpa using entries
  · have behind := (List.mem_cons.1 offered).resolve_left (Ne.symm here)
    rw [cons_of_ne _ _ offered here behind, cons_of_ne _ _ offered here behind]
    exact others p behind

namespace Library

variable {r : Sameness} {l k : Library}

theorem checkVersion_same (version : k.resolve .version = l.resolve .version) (tag other : Tag)
    (path : String) :
    List.Forall₂ Event.Renamed (l.checkVersion tag path).1 (k.checkVersion other path).1 ∧
      (k.checkVersion other path).2 = (l.checkVersion tag path).2 := by
  cases found : l.resolve .version with
  | error cause =>
    rw [checkVersion_error tag path found, checkVersion_error other path (version.trans found)]
    exact ⟨.cons (.resolving _) (.cons (.log _) .nil), rfl⟩
  | ok report =>
    rw [checkVersion_ok tag path found, checkVersion_ok other path (version.trans found)]
    exact ⟨.cons (.resolving _) (.cons (.version _) .nil), rfl⟩

theorem bindAll_same {ops : List Operation} (tag other : Tag) (path : String)
    (same : ∀ o ∈ ops, Agree (Entry.Same r (s := o.shape)) (l.resolve o.entryPoint)
      (k.resolve o.entryPoint)) :
    List.Forall₂ Event.Renamed (l.bindAll tag path ops).1 (k.bindAll other path ops).1 ∧
      Agree (Bindings.Same r) (l.bindAll tag path ops).2 (k.bindAll other path ops).2 := by
  induction ops with
  | nil => exact ⟨.nil, .ok fun _ offered => absurd offered List.not_mem_nil⟩
  | cons o rest ih =>
    obtain ⟨agree, later⟩ := List.forall_mem_cons.1 same
    obtain ⟨events, bindings⟩ := ih later
    cases found : l.resolve o.entryPoint with
    | error cause =>
      rw [bindAll_cons_error tag path rest found,
        bindAll_cons_error other path rest (agree.of_error found)]
      exact ⟨.cons (.resolving _) .nil, .error _⟩
    | ok entry =>
      obtain ⟨again, there, entries⟩ := agree.of_ok found
      rw [bindAll_cons_ok tag path rest found, bindAll_cons_ok other path rest there]
      refine ⟨.cons (.resolving _) events, ?_⟩
      generalize (l.bindAll tag path rest).2 = first, (k.bindAll other path rest).2 = second
        at bindings
      cases bindings with
      | error error => exact .error error
      | ok others => exact .ok (.cons entries others)

theorem Same.bind (same : l.Same r b k) (tag other : Tag) (path : String) :
    List.Forall₂ Event.Renamed (l.bind tag path b.operations).1 (k.bind other path b.operations).1 ∧
      Agree (Bindings.Same r) (l.bind tag path b.operations).2
        (k.bind other path b.operations).2 := by
  obtain ⟨checks, verdicts⟩ := checkVersion_same same.version tag other path
  obtain ⟨lookups, bindings⟩ := bindAll_same tag other path same.operations
  generalize first : l.checkVersion tag path = checked, second : k.checkVersion other path = again
    at checks verdicts
  obtain ⟨events, verdict⟩ := checked
  obtain ⟨more, verdict'⟩ := again
  obtain rfl : verdict' = verdict := verdicts
  cases verdict' with
  | error error =>
    rw [bind_of_rejected _ first, bind_of_rejected _ second]
    exact ⟨checks, .error error⟩
  | ok =>
    rw [bind_of_passed _ first, bind_of_passed _ second]
    exact ⟨List.rel_append checks lookups, bindings⟩

end Library

/-- As many calls so far, and the same kept by backends, but for identities. -/
structure Holdings.Lookalike (s t : Holdings) : Prop where
  calls : t.calls = s.calls
  stash : List.Forall₂ Handle.Renamed s.stash t.stash

namespace Holdings

variable {s t : Holdings}

theorem Lookalike.of_same {u v : Holdings} (alike : s.Lookalike t)
    (first : u.calls = s.calls ∧ u.stash = s.stash)
    (second : v.calls = t.calls ∧ v.stash = t.stash) :
    u.Lookalike v where
  calls := by rw [first.1, second.1, alike.calls]
  stash := by
    rw [first.2, second.2]
    exact alike.stash

theorem Lookalike.called (alike : s.Lookalike t) : s.called.Lookalike t.called :=
  ⟨congrArg (· + 1) alike.calls, alike.stash⟩

theorem Lookalike.retain (alike : s.Lookalike t) (h k : Handle) :
    (s.retain h).Lookalike (t.retain k) := alike.of_same ⟨rfl, rfl⟩ ⟨rfl, rfl⟩

theorem Lookalike.retainAll (alike : s.Lookalike t) (hs ks : List Handle) :
    (s.retainAll hs).Lookalike (t.retainAll ks) := alike.of_same ⟨rfl, rfl⟩ ⟨rfl, rfl⟩

theorem Lookalike.addFragment (alike : s.Lookalike t) (origin : Origin) (content : Fragment)
    (held others : List Handle) (shown : Option Nat) :
    (s.addFragment origin content held shown).2.Lookalike
      (t.addFragment origin content others shown).2 := alike.of_same ⟨rfl, rfl⟩ ⟨rfl, rfl⟩

end Holdings

mutual

theorem Handle.renamed_of_like {new : Tag → Tag → Prop} : ∀ {h k : Handle},
    h.Like .renamed new k → h.Renamed k
  | _, _, .known related => related
  | _, _, .fragment _ inside => .fragment (all_renamed_of_like inside)

theorem Handle.all_renamed_of_like {new : Tag → Tag → Prop} : ∀ {hs ks : List Handle},
    List.Forall₂ (Handle.Like .renamed new) hs ks → List.Forall₂ Handle.Renamed hs ks
  | _, _, .nil => .nil
  | _, _, .cons first others => .cons (renamed_of_like first) (all_renamed_of_like others)

end

theorem Holdings.Lookalike.adopt {s t : Holdings} {known others : List Handle}
    {first : Response known} {second : Response others} (alike : s.Lookalike t)
    (library other : Tag) (same : first.Same .renamed second) :
    (s.adopt library first).1.Renamed (t.adopt other second).1 ∧
      (s.adopt library first).2.Lookalike (t.adopt other second).2 := by
  obtain ⟨back, stashed, stashed', first_stash, second_stash, likes⟩ :=
    like_accept s t library.origin other.origin same
  refine ⟨.bound (Handle.renamed_of_like back), ?_, ?_⟩
  · obtain ⟨_, _, here⟩ := s.accept_snd library.origin first
    obtain ⟨_, _, there⟩ := t.accept_snd other.origin second
    show (t.accept other.origin second).2.calls = (s.accept library.origin first).2.calls
    rw [here, there]
    exact alike.calls
  · show List.Forall₂ Handle.Renamed (s.accept library.origin first).2.stash
      (t.accept other.origin second).2.stash
    rw [first_stash, second_stash]
    exact List.rel_append (Handle.all_renamed_of_like likes) alike.stash

inductive Status.Lookalike : Status b → Status b → Prop
  | unready : Lookalike .unready .unready
  | ready {bindings others : Bindings b.operations} {library other : Tag} :
      bindings.Same .renamed others → Lookalike (.ready bindings library) (.ready others other)
  | failed : Lookalike .failed .failed

structure Invoker.Lookalike (p q : Invoker b) : Prop where
  id : q.id = p.id
  path : q.path = p.path
  loader : Loader.Same .renamed b p.path p.loader q.loader
  policy : q.unloadOnDrop = p.unloadOnDrop
  status : p.status.Lookalike q.status

namespace Invoker

variable {p q : Invoker b} {s t : Holdings} {o : Operation} {args again : Arguments o.shape}

theorem Lookalike.state (alike : p.Lookalike q) : q.state = p.state := by
  have same := alike.status
  unfold Invoker.state
  generalize p.status = status, q.status = other at same ⊢
  cases same <;> rfl

theorem Lookalike.debug (alike : p.Lookalike q) : q.debug = p.debug := by
  unfold Invoker.debug
  rw [alike.id, alike.path, alike.policy, alike.state]

theorem Lookalike.wrongState (alike : p.Lookalike q) (expected : Lifecycle) :
    q.wrongState expected = p.wrongState expected := by
  unfold Invoker.wrongState
  rw [alike.id, alike.state]

theorem Lookalike.unready (alike : p.Lookalike q) (unready : p.status = .unready) :
    q.status = .unready := by
  have same := alike.status
  rw [unready] at same
  generalize q.status = other at same ⊢
  cases same
  rfl

theorem Lookalike.started (alike : p.Lookalike q) (started : p.status ≠ .unready) :
    q.status ≠ .unready := by
  have same := alike.status
  generalize p.status = status, q.status = other at same started ⊢
  cases same <;> simp_all

theorem Lookalike.idle (alike : p.Lookalike q) (idle : p.library? = none) : q.library? = none := by
  have same := alike.status
  unfold Invoker.library? at *
  generalize p.status = status, q.status = other at same idle ⊢
  cases same <;> simp_all

theorem Lookalike.ready {bindings : Bindings b.operations} {library : Tag} (alike : p.Lookalike q)
    (ready : p.status = .ready bindings library) :
    ∃ others other, q.status = .ready others other ∧ bindings.Same .renamed others := by
  have same := alike.status
  rw [ready] at same
  generalize q.status = status at same ⊢
  cases same with
  | ready functions => exact ⟨_, _, rfl, functions⟩

theorem Lookalike.attempt (alike : p.Lookalike q) :
    List.Forall₂ Event.Renamed p.attempt q.attempt := by
  unfold Invoker.attempt
  rw [alike.id, alike.path]
  exact .cons (.log _) (.cons (.opening _) .nil)

structure InitAlike (first second : Outcome (Invoker b × Holdings) (Except InvokerError Unit)) :
    Prop where
  invokers : first.state.1.Lookalike second.state.1
  holdings : first.state.2.Lookalike second.state.2
  events : ShowAlike first.events second.events
  answer : second.answer = first.answer

theorem Lookalike.init (alike : p.Lookalike q) (holdings : s.Lookalike t) :
    InitAlike (p.init s) (q.init t) := by
  obtain ⟨id, path, loader, unload, status⟩ := q
  obtain ⟨rfl, rfl, same, rfl, stands⟩ := alike
  let q : Invoker b := ⟨p.id, p.path, loader, p.unloadOnDrop, status⟩
  have settled : ∀ {status other : Status b}, status.Lookalike other →
      Lookalike { p with status } { q with status := other } :=
    fun stand => ⟨rfl, rfl, same, rfl, stand⟩
  have alike : p.Lookalike q := settled stands
  have outcome := p.init_cases s
  show InitAlike (p.init s) (q.init t)
  generalize p.init s = result at outcome ⊢
  cases outcome with
  | again started =>
    rw [init_again (alike.started started), alike.wrongState]
    exact ⟨alike, holdings, .of_renamed .nil, rfl⟩
  | unopened new unopened =>
    have missed : q.loader.openAt q.path = _ := same.of_error unopened
    rw [init_unopened (alike.unready new) missed]
    exact ⟨settled .failed, holdings,
      .of_renamed (List.rel_append alike.attempt (.cons (.log _) .nil)), rfl⟩
  | @unbound l shown error new opened bound =>
    obtain ⟨k, there, libraries⟩ := same.of_ok opened
    obtain ⟨events, answers⟩ := libraries.bind (p.nextTag s) (q.nextTag t) p.path
    generalize again : k.bind (q.nextTag t) p.path b.operations = second at events answers
    obtain ⟨more, answer⟩ := second
    rw [bound] at events answers
    obtain rfl := answers.of_error rfl
    rw [init_unbound (alike.unready new) there again]
    have last : ShowAlike [.released (p.nextTag s), .log (.notLoaded p.id error)]
        [.released (q.nextTag t), .log (.notLoaded p.id error)] := .cons (.log _) .nil
    exact ⟨settled .failed, holdings.of_same ⟨rfl, rfl⟩ ⟨rfl, rfl⟩,
      (ShowAlike.of_renamed (List.rel_append alike.attempt events)).append last, rfl⟩
  | served new opened bound =>
    obtain ⟨k, there, libraries⟩ := same.of_ok opened
    obtain ⟨events, answers⟩ := libraries.bind (p.nextTag s) (q.nextTag t) p.path
    generalize again : k.bind (q.nextTag t) p.path b.operations = second at events answers
    obtain ⟨more, answer⟩ := second
    rw [bound] at events answers
    obtain ⟨others, rfl, functions⟩ := answers.of_ok rfl
    rw [init_bound (alike.unready new) there again]
    have shown := List.rel_append (List.rel_append alike.attempt events)
      (.cons (.log (.loaded p.id p.path)) .nil)
    exact ⟨settled (.ready functions), holdings.of_same ⟨rfl, rfl⟩ ⟨rfl, rfl⟩,
      .of_renamed shown, rfl⟩

structure InvokeAlike (first second : Outcome Holdings (Except InvokerError Handle)) : Prop where
  holdings : first.state.Lookalike second.state
  events : ShowAlike first.events second.events
  answer : Agree Handle.Renamed first.answer second.answer

theorem Lookalike.invoke (alike : p.Lookalike q) (holdings : s.Lookalike t)
    (same : args.Same .renamed again) : InvokeAlike (p.invoke s o args) (q.invoke t o again) := by
  have outcome := p.invoke_cases s o args
  have forwards : ∀ {library other} {first second : Entry o.shape}, first.Same .renamed second →
      ShowAlike (p.forwarding library first args) (q.forwarding other second again) := by
    intro library other first second entries
    apply ShowAlike.of_renamed
    unfold forwarding
    rw [alike.id, same.name, entries.label]
    exact .cons (.log _) (.cons (.operation same.unwrapped) .nil)
  have runs : ∀ {first second : Entry o.shape}, first.Same .renamed second →
      SameAnswer .renamed (first.run s.calls s.stash args.unwrapped)
        (second.run t.calls t.stash again.unwrapped) := by
    intro first second entries
    rw [holdings.calls]
    exact entries.run s.calls _ _ _ _ holdings.stash same.unwrapped
  generalize p.invoke s o args = result at outcome ⊢
  cases outcome with
  | leftOut out =>
    rw [invoke_leftOut out, alike.id]
    exact ⟨holdings, .of_renamed (.cons (.log _) .nil), .error _⟩
  | notReady offered idle =>
    rw [invoke_notReady offered (alike.idle idle), alike.wrongState]
    exact ⟨holdings, .of_renamed .nil, .error _⟩
  | unnamed offered ready unnamed =>
    obtain ⟨_, _, ready, _⟩ := alike.ready ready
    rw [invoke_unnamed ready offered (mt same.named_iff.1 unnamed)]
    exact ⟨holdings, .of_renamed .nil, .error _⟩
  | refused offered ready named refused =>
    obtain ⟨others, _, ready, functions⟩ := alike.ready ready
    have answers := runs (functions o offered)
    rw [refused] at answers
    generalize ran : (others o offered).run t.calls t.stash again.unwrapped = answer at answers
    cases answers
    rw [invoke_refused ready offered (same.named_iff.2 named) ran]
    exact ⟨holdings.called, forwards (functions o offered), .error _⟩
  | @done _ library _ offered ready named done =>
    obtain ⟨others, other, ready, functions⟩ := alike.ready ready
    have answers := runs (functions o offered)
    rw [done] at answers
    generalize ran : (others o offered).run t.calls t.stash again.unwrapped = answer at answers
    cases answers with
    | done responses =>
      rw [invoke_done ready offered (same.named_iff.2 named) ran]
      obtain ⟨handles, adopted⟩ := holdings.called.adopt library other responses
      exact ⟨adopted, forwards (functions o offered), .ok handles⟩

end Invoker

end GraphPlugin
