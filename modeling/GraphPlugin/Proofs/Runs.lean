import GraphPlugin.Proofs.LastWrite
import GraphPlugin.Proofs.Moves

/-! Runs of a host. A run is a sequence of moves like each of its steps, so its books are balanced
at every point, and its trace settles with the libraries that are gone in the end. -/
namespace GraphPlugin

theorem append_split {α : Type} {xs ys front back : List α} {e : α}
    (split : xs ++ ys = front ++ e :: back) :
    (∃ more, xs = front ++ e :: more) ∨ ∃ more, front = xs ++ more ∧ ys = more ++ e :: back := by
  rcases List.append_eq_append_iff.1 split with ⟨more, same, rest⟩ | ⟨more, same, rest⟩
  · exact .inr ⟨more, same, rest⟩
  · cases more with
    | nil => exact .inr ⟨[], by simpa using same.symm, rest.symm⟩
    | cons x more =>
      cases rest
      exact .inl ⟨more, same⟩

namespace Host

variable {b : Build}

def start (b : Build) : Host b := {}

def after (host : Host b) (actions : List Action) : Host b := (host.run actions).1

def trace (host : Host b) (actions : List Action) : List Event :=
  (host.run actions).2.flatMap (·.1)

@[simp] theorem after_nil (host : Host b) : host.after [] = host := rfl

@[simp] theorem after_cons (host : Host b) (action : Action) (rest : List Action) :
    host.after (action :: rest) = (host.step action).state.after rest := rfl

@[simp] theorem trace_nil (host : Host b) : host.trace [] = [] := rfl

@[simp] theorem trace_cons (host : Host b) (action : Action) (rest : List Action) :
    host.trace (action :: rest) =
      (host.step action).events ++ (host.step action).state.trace rest := by
  unfold trace
  rw [run]
  exact List.flatMap_cons

theorem after_append (host : Host b) (actions more : List Action) :
    host.after (actions ++ more) = (host.after actions).after more := by
  induction actions generalizing host with
  | nil => rfl
  | cons action rest ih => exact ih (host.step action).state

theorem trace_append (host : Host b) (actions more : List Action) :
    host.trace (actions ++ more) = host.trace actions ++ (host.after actions).trace more := by
  induction actions generalizing host with
  | nil => rfl
  | cons action rest ih =>
    rw [List.cons_append, trace_cons, trace_cons, ih, List.append_assoc]
    rfl

theorem after_snoc (host : Host b) (actions : List Action) (action : Action) :
    host.after (actions ++ [action]) = ((host.after actions).step action).state :=
  after_append host actions [action]

theorem trace_snoc (host : Host b) (actions : List Action) (action : Action) :
    host.trace (actions ++ [action]) =
      host.trace actions ++ ((host.after actions).step action).events := by
  rw [trace_append, trace_cons, trace_nil, List.append_nil]

theorem trace_split {host : Host b} {actions : List Action} {e : Event} {front back : List Event}
    (shown : host.trace actions = front ++ e :: back) :
    ∃ sofar action later first last, actions = sofar ++ action :: later ∧
      ((host.after sofar).step action).events = first ++ e :: last ∧
      front = host.trace sofar ++ first := by
  induction actions generalizing host front with
  | nil => simp at shown
  | cons action rest ih =>
    rw [trace_cons] at shown
    rcases append_split shown with ⟨more, here⟩ | ⟨more, rfl, tail⟩
    · exact ⟨[], action, rest, front, more, rfl, here, rfl⟩
    · obtain ⟨sofar, other, later, first, last, rfl, step, rfl⟩ := ih tail
      exact ⟨action :: sofar, other, later, first, last, rfl, step, by simp⟩

theorem shown_split {host : Host b} {actions : List Action} {e : Event}
    (shown : e ∈ host.trace actions) :
    ∃ sofar action later, actions = sofar ++ action :: later ∧
      e ∈ ((host.after sofar).step action).events := by
  obtain ⟨front, back, split⟩ := List.append_of_mem shown
  obtain ⟨sofar, action, later, first, last, same, events, _⟩ := trace_split split
  exact ⟨sofar, action, later, same, by simp [events]⟩

theorem run_moves (host : Host b) (actions : List Action) :
    Moves host.ledger (host.trace actions) (host.after actions).ledger := by
  induction actions generalizing host with
  | nil => exact .done _
  | cons action rest ih =>
    rw [trace_cons]
    exact (host.step_moves action).trans (ih (host.step action).state)

theorem start_balanced (b : Build) : (start b).ledger.Balanced where
  refs := .refl _
  shares := .refl _
  apart h ha := absurd ha List.not_mem_nil
  issued h ha := absurd ha List.not_mem_nil
  opened n hn := by simp [ledger, start] at hn

theorem after_balanced (b : Build) (actions : List Action) :
    ((start b).after actions).ledger.Balanced :=
  ((start b).run_moves actions).balanced (start_balanced b)

theorem more_settles (b : Build) (actions more : List Action) :
    Settles ((start b).after actions).holdings (((start b).after actions).trace more)
      ((start b).after (actions ++ more)).holdings := by
  rw [after_append]
  exact (run_moves _ more).settles (after_balanced b actions)

theorem step_settles (b : Build) (actions : List Action) (action : Action) :
    Settles ((start b).after actions).holdings (((start b).after actions).step action).events
      ((start b).after (actions ++ [action])).holdings := by
  rw [after_snoc]
  exact (step_moves _ action).settles (after_balanced b actions)

theorem releases_trace (b : Build) (actions : List Action) (n : Tag) :
    releases ((start b).trace actions) n = ((start b).after actions).holdings.gone n := by
  have sum := (more_settles b [] actions).releases n
  have none : (start b).holdings.gone n = 0 := by
    rw [Holdings.gone_eq_zero_iff]
    exact fun gone => Tally.not_issued_empty n gone.1
  rw [after_nil, none] at sum
  exact sum

/-- Some step of the run does what is asked for, in the state that it finds. -/
def Sometime (host : Host b) (actions : List Action) (does : Host b → Action → Prop) : Prop :=
  ∃ before action rest, actions = before ++ action :: rest ∧ does (host.after before) action

/-- Every step of the run does what is asked for, in the state that it finds. -/
def Always (host : Host b) (actions : List Action) (does : Host b → Action → Prop) : Prop :=
  ∀ before action rest, actions = before ++ action :: rest → does (host.after before) action

variable {host : Host b} {actions : List Action} {does : Host b → Action → Prop}

theorem not_sometime_nil : ¬ Sometime host [] does := by
  rintro ⟨before, action, rest, split, _⟩
  simp at split

theorem Sometime.more (some : Sometime host actions does) (more : List Action) :
    Sometime host (actions ++ more) does := by
  obtain ⟨before, action, rest, rfl, done⟩ := some
  exact ⟨before, action, rest ++ more, by simp, done⟩

theorem sometime_snoc_iff {action : Action} :
    Sometime host (actions ++ [action]) does ↔
      Sometime host actions does ∨ does (host.after actions) action := by
  constructor
  · rintro ⟨before, other, rest, split, done⟩
    rcases snoc_split split with ⟨rfl, rfl, _⟩ | ⟨more, rfl, _⟩
    · exact .inr done
    · exact .inl ⟨before, other, more, rfl, done⟩
  · rintro (some | done)
    · exact some.more [action]
    · exact ⟨actions, action, [], rfl, done⟩

end Host

end GraphPlugin
