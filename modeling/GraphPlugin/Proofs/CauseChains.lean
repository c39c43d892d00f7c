import GraphPlugin.Failure
import Mathlib.Data.List.Chain
import Mathlib.Logic.Relation

/-! Failures inside failures. What a failure comes from is followed from cause to cause until there
is none; on the way all failures inside it are met, from the outside in. Each message ends with the
message of the cause, so the first one ends with all of them. How a failure is classified does not
depend on what is inside. -/
namespace GraphPlugin

/-- The second text ends the first one, which says something before it. -/
def EndsWith (text ending : String) : Prop := ∃ front, front ≠ "" ∧ text = front ++ ending

theorem EndsWith.trans {s t u : String} (first : EndsWith s t) (second : EndsWith t u) :
    EndsWith s u := by
  obtain ⟨front, said, rfl⟩ := first
  obtain ⟨more, _, rfl⟩ := second
  refine ⟨front ++ more, fun nothing => said ?_, String.append_assoc.symm⟩
  exact (String.append_eq_empty_iff.1 nothing).1

namespace Cause

def cause? : Cause → Option Cause
  | invoker error => error.cause?
  | _ => none

def follow (c : Cause) : Nat → Option Cause
  | 0 => some c
  | n + 1 => (c.follow n).bind cause?

/-- The second one is part of the first one. -/
inductive Carries : Cause → Cause → Prop
  | opening (path : String) (cause : Cause) : Carries (invoker (.cannotOpen path cause)) cause
  | lookup (symbol path : String) (cause : Cause) :
    Carries (invoker (.missingSymbol symbol path cause)) cause
  | call (symbol : String) (error : BackendError) :
    Carries (invoker (.backend symbol error)) (entryPoint error)

variable {c d : Cause} {ds : List Cause}

theorem carries_iff : Carries c d ↔ c.cause? = some d := by
  constructor
  · rintro (_ | _ | _) <;> rfl
  · intro inside
    cases c with
    | invoker error =>
      cases error with
      | cannotOpen path cause =>
        cases inside
        exact .opening path _
      | missingSymbol symbol path cause =>
        cases inside
        exact .lookup symbol path _
      | backend symbol error =>
        cases inside
        exact .call symbol error
      | _ => cases inside
    | _ => cases inside

theorem chain_eq (c : Cause) : c.chain = match c.cause? with
    | none => []
    | some d => d :: d.chain := by
  cases c with
  | invoker error =>
    rw [Cause.chain, InvokerError.chain_eq]
    rfl
  | _ => simp [Cause.chain, cause?]

theorem chain_eq_nil_iff : c.chain = [] ↔ c.cause? = none := by
  rw [chain_eq]
  cases c.cause? <;> simp

theorem chain_eq_cons_iff : c.chain = d :: ds ↔ c.cause? = some d ∧ d.chain = ds := by
  rw [chain_eq]
  cases c.cause? with
  | none => simp
  | some e =>
    simp only [List.cons.injEq, Option.some.injEq]
    constructor
    · rintro ⟨rfl, rest⟩
      exact ⟨rfl, rest⟩
    · rintro ⟨rfl, rest⟩
      exact ⟨rfl, rest⟩

theorem follow_succ (n : Nat) : c.follow (n + 1) = c.cause?.bind fun d => d.follow n := by
  induction n with
  | zero => cases found : c.cause? <;> simp [follow, found]
  | succ n ih =>
    rw [follow, ih, Option.bind_assoc]
    rfl

theorem getElem?_chain (c : Cause) (n : Nat) : c.chain[n]? = c.follow (n + 1) := by
  induction chain : c.chain generalizing c n with
  | nil => simp [follow_succ, chain_eq_nil_iff.1 chain]
  | cons d ds ih =>
    obtain ⟨inside, rest⟩ := chain_eq_cons_iff.1 chain
    rw [follow_succ, inside]
    cases n with
    | zero => rfl
    | succ n => exact ih d n rest

theorem mem_chain_iff : d ∈ c.chain ↔ Relation.TransGen Carries c d := by
  induction chain : c.chain generalizing c with
  | nil =>
    refine iff_of_false List.not_mem_nil fun inside => ?_
    obtain ⟨b, first, _⟩ := Relation.TransGen.head'_iff.1 inside
    rw [carries_iff, chain_eq_nil_iff.1 chain] at first
    cases first
  | cons b ds ih =>
    obtain ⟨inside, rest⟩ := chain_eq_cons_iff.1 chain
    rw [List.mem_cons, ih rest, Relation.TransGen.head'_iff (a := c)]
    constructor
    · rintro (rfl | deeper)
      · exact ⟨_, carries_iff.2 inside, .refl⟩
      · exact ⟨_, carries_iff.2 inside, deeper.to_reflTransGen⟩
    · rintro ⟨a, first, deeper⟩
      rw [carries_iff, inside] at first
      cases first
      exact Relation.reflTransGen_iff_eq_or_transGen.1 deeper

theorem chain_inward (c : Cause) :
    c.chain.Pairwise fun outer inner => Relation.TransGen Carries outer inner := by
  induction chain : c.chain generalizing c with
  | nil => exact .nil
  | cons d ds ih =>
    obtain ⟨_, rest⟩ := chain_eq_cons_iff.1 chain
    refine .cons (fun inner there => mem_chain_iff.1 ?_) (ih d rest)
    rwa [rest]

theorem message_of_carries (carries : Carries c d) : EndsWith c.message d.message := by
  cases carries with
  | opening path cause =>
    refine ⟨"Failed to open library " ++ path ++ ": ", ?_, rfl⟩
    simp
  | lookup symbol path cause =>
    refine ⟨"Missing symbol " ++ symbol ++ " in " ++ path ++ ": ", ?_, rfl⟩
    simp
  | call symbol error =>
    refine ⟨symbol ++ " failed: ", ?_, rfl⟩
    simp

theorem message_of_nested (nested : Relation.TransGen Carries c d) :
    EndsWith c.message d.message := by
  induction nested with
  | single carries => exact message_of_carries carries
  | tail _ carries ih => exact ih.trans (message_of_carries carries)

theorem isChain_carries (c : Cause) : (c :: c.chain).IsChain Carries := by
  induction chain : c.chain generalizing c with
  | nil => exact .singleton c
  | cons d ds ih =>
    obtain ⟨inside, rest⟩ := chain_eq_cons_iff.1 chain
    exact .cons_cons (carries_iff.2 inside) (ih d rest)

end Cause

namespace InvokerError

def withCause : InvokerError → Cause → InvokerError
  | cannotOpen path _, cause => cannotOpen path cause
  | missingSymbol symbol path _, cause => missingSymbol symbol path cause
  | error, _ => error

/-- What a failure tells of what it comes from: the chain has all that is nested in the failure, met
one by one from the outside in, each message ends with the next one, and the failure is classified
by its outermost part alone. -/
structure TellsCauses (e : InvokerError) : Prop where
  followed : ∀ n, e.chain[n]? = (Cause.invoker e).follow (n + 1)
  nested : ∀ cause, cause ∈ e.chain ↔ Relation.TransGen Cause.Carries (.invoker e) cause
  inward : e.chain.Pairwise fun outer inner => Relation.TransGen Cause.Carries outer inner
  next : (Cause.invoker e :: e.chain).IsChain fun outer inner =>
    EndsWith outer.message inner.message
  all : ∀ cause ∈ e.chain, EndsWith e.message cause.message
  none : e.chain = [] ↔
    e.kind ∈ [Kind.incompatible, Kind.unsupported, Kind.wrongState, Kind.badArgument]
  classified : ∀ cause, (e.withCause cause).kind = e.kind ∧
    (e.withCause cause).unresolved? = e.unresolved? ∧
    (e.withCause cause).backendError? = e.backendError?
  backend : ∀ error, e.backendError? = some error ↔ ∃ symbol, e = .backend symbol error
  unresolved : ∀ symbol, e.unresolved? = some symbol ↔
    ∃ path cause, e = .missingSymbol symbol path cause
  kinds : (e.backendError?.isSome = true ↔ e.kind = .backend) ∧
    (e.unresolved?.isSome = true ↔ e.kind = .missingSymbol) ∧
    ¬ (e.backendError?.isSome = true ∧ e.unresolved?.isSome = true)

theorem chain_eq_nil_iff (e : InvokerError) : e.chain = [] ↔
    e.kind ∈ [Kind.incompatible, Kind.unsupported, Kind.wrongState, Kind.badArgument] := by
  rw [chain_eq]
  cases e <;> simp [cause?, kind]

theorem tells_causes (e : InvokerError) : e.TellsCauses where
  followed := Cause.getElem?_chain (.invoker e)
  nested _ := Cause.mem_chain_iff (c := .invoker e)
  inward := Cause.chain_inward (.invoker e)
  next := (Cause.isChain_carries (.invoker e)).imp fun _ _ => Cause.message_of_carries
  all _ there := Cause.message_of_nested ((Cause.mem_chain_iff (c := .invoker e)).1 there)
  none := e.chain_eq_nil_iff
  classified cause := by cases e <;> exact ⟨rfl, rfl, rfl⟩
  backend error := by cases e <;> simp [backendError?]
  unresolved symbol := by cases e <;> simp [unresolved?]
  kinds := by cases e <;> simp [backendError?, unresolved?, kind]

example : (cannotOpen "/a" (.invoker (.backend "LoadGraph" ⟨7, "lost"⟩))).chain.map Cause.message =
    ["LoadGraph failed: [7] lost", "[7] lost"] := rfl

end InvokerError

end GraphPlugin
