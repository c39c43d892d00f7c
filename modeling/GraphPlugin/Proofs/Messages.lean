import GraphPlugin.Proofs.Initialisation
import GraphPlugin.Proofs.VersionText

/-! What can be told from the message of a failure. Its first letters tell the kind. Behind them
stand pieces that are written without spaces or colons and one text that may be anything. The pieces
are read off from the end where the free text comes first, and from the start where it comes last,
so the failure can be put together again from the message, whatever wording the free text imitates.
Only failures to open a library and failures to find a symbol have two free texts, a path and a
cause, and where one ends and the other begins cannot be told. -/
namespace GraphPlugin

namespace Lifecycle

theorem text_injective {s t : Lifecycle} (same : s.text = t.text) : s = t := by
  cases s <;> cases t <;> simp_all [text]

theorem not_mem_text (s : Lifecycle) : ' ' ∉ s.text.toList := by cases s <;> simp [text]

end Lifecycle

namespace Operation

theorem not_mem_symbol (o : Operation) : ' ' ∉ o.symbol.toList ∧ ':' ∉ o.symbol.toList := by
  cases o <;> simp [symbol]

theorem eq_before_reason {lead reason reason' : String} {o o' : Operation}
    (same : lead ++ o.symbol ++ ": " ++ reason = lead ++ o'.symbol ++ ": " ++ reason') :
    o = o' ∧ reason = reason' := by
  obtain ⟨symbols, reasons⟩ := Text.behind_lead (c := ':') rfl o.not_mem_symbol.2
    o'.not_mem_symbol.2 same
  exact ⟨symbol_injective symbols, reasons⟩

end Operation

namespace InvokerError

/-- The operations that a failure names are operations that there are. -/
def WellNamed : InvokerError → Prop
  | missingSymbol symbol _ _ => ∃ o : Operation, symbol = o.symbol
  | unsupported operation _ => ∃ o : Operation, operation = o.symbol
  | badArgument operation _ => ∃ o : Operation, operation = o.symbol
  | backend symbol _ => ∃ o : Operation, symbol = o.symbol
  | _ => True

def Kind.letters : Kind → List (List Char)
  | cannotOpen => [['F', 'a', 'i', 'l']]
  | missingSymbol => [['M', 'i', 's', 's']]
  | incompatible => [['I', 'n', 'c', 'o']]
  | unsupported => [['U', 'n', 's', 'u']]
  | wrongState => [['I', 'n', 'v', 'o']]
  | badArgument => [['I', 'n', 'v', 'a']]
  | backend => Operation.all.map fun o => o.symbol.toList.take 4

theorem Kind.eq_of_letters {k l : Kind} {letters : List Char} (hk : letters ∈ k.letters)
    (hl : letters ∈ l.letters) : k = l := by
  cases k <;> cases l <;> simp_all [Kind.letters, Operation.all, Operation.symbol]

section Templates

variable (path symbol operation reason id : String) (cause : Cause) (expected found : Version)
  (state wanted : Lifecycle) (error : BackendError)

theorem message_cannotOpen : (cannotOpen path cause).message =
    "Failed to open library " ++ path ++ ": " ++ cause.message := rfl

theorem message_missingSymbol : (missingSymbol symbol path cause).message =
    "Missing symbol " ++ symbol ++ " in " ++ (path ++ ": " ++ cause.message) := by
  rw [← String.append_assoc, ← String.append_assoc]
  rfl

theorem message_incompatible : (incompatible path expected found).message =
    "Incompatible ABI version in " ++ path ++ ": expected " ++ expected.text ++ ", found " ++
      found.text := rfl

theorem message_unsupported : (unsupported operation reason).message =
    "Unsupported operation " ++ operation ++ ": " ++ reason := rfl

theorem message_wrongState : (wrongState id state wanted).message =
    "Invoker " ++ id ++ " is " ++ state.text ++ ", expected " ++ wanted.text := rfl

theorem message_badArgument : (badArgument operation reason).message =
    "Invalid argument to " ++ operation ++ ": " ++ reason := rfl

theorem message_backend : (backend symbol error).message =
    symbol ++ " failed: " ++ error.text := rfl

end Templates

variable {x y : InvokerError}

theorem letters_of_message (named : x.WellNamed) : x.message.toList.take 4 ∈ x.kind.letters := by
  cases x with
  | cannotOpen path cause => simp [message_cannotOpen, kind, Kind.letters]
  | missingSymbol symbol path cause => simp [message_missingSymbol, kind, Kind.letters]
  | incompatible path expected found => simp [message_incompatible, kind, Kind.letters]
  | unsupported operation reason => simp [message_unsupported, kind, Kind.letters]
  | wrongState id state expected => simp [message_wrongState, kind, Kind.letters]
  | badArgument operation reason => simp [message_badArgument, kind, Kind.letters]
  | backend symbol cause =>
    obtain ⟨o, rfl⟩ := named
    refine List.mem_map.2 ⟨o, o.mem_all, ?_⟩
    rw [message_backend, String.append_assoc, String.toList_append]
    cases o <;> rfl

theorem kind_of_message (named : x.WellNamed) (named' : y.WellNamed)
    (same : x.message = y.message) : x.kind = y.kind := by
  have letters := letters_of_message named
  rw [same] at letters
  exact Kind.eq_of_letters letters (letters_of_message named')

section Parts

variable {path path' reason reason' id id' : String} {cause cause' : Cause}
  {expected found expected' found' : Version} {state wanted state' wanted' : Lifecycle}
  {error error' : BackendError} {o o' : Operation}

theorem incompatible_injective (same :
    (incompatible path expected found).message = (incompatible path' expected' found').message) :
    incompatible path expected found = incompatible path' expected' found' := by
  have unspaced := Version.not_mem_text (c := ' ') rfl (by decide)
  obtain ⟨paths, expectations, findings⟩ := Text.last_two (c := ' ') rfl rfl (unspaced _)
    (unspaced _) (unspaced _) (unspaced _) same
  rw [paths, Version.text_injective expectations, Version.text_injective findings]

theorem wrongState_injective
    (same : (wrongState id state wanted).message = (wrongState id' state' wanted').message) :
    wrongState id state wanted = wrongState id' state' wanted' := by
  -- one state's text is an ending of another's, so each is read back to the space before it
  obtain ⟨ids, states, expectations⟩ := Text.last_two (c := ' ') rfl rfl state.not_mem_text
    state'.not_mem_text wanted.not_mem_text wanted'.not_mem_text same
  rw [ids, Lifecycle.text_injective states, Lifecycle.text_injective expectations]

theorem unsupported_injective
    (same : (unsupported o.symbol reason).message = (unsupported o'.symbol reason').message) :
    unsupported o.symbol reason = unsupported o'.symbol reason' := by
  obtain ⟨operations, reasons⟩ := Operation.eq_before_reason same
  rw [operations, reasons]

theorem badArgument_injective
    (same : (badArgument o.symbol reason).message = (badArgument o'.symbol reason').message) :
    badArgument o.symbol reason = badArgument o'.symbol reason' := by
  obtain ⟨operations, reasons⟩ := Operation.eq_before_reason same
  rw [operations, reasons]

theorem backend_injective
    (same : (backend o.symbol error).message = (backend o'.symbol error').message) :
    backend o.symbol error = backend o'.symbol error' := by
  obtain ⟨symbols, errors⟩ := Text.before_delimiter (c := ' ') rfl o.not_mem_symbol.1
    o'.not_mem_symbol.1 same
  rw [symbols, BackendError.text_injective errors]

theorem symbol_of_message (same : (missingSymbol o.symbol path cause).message =
    (missingSymbol o'.symbol path' cause').message) : o.symbol = o'.symbol := by
  rw [message_missingSymbol, message_missingSymbol] at same
  exact (Text.behind_lead (c := ' ') rfl o.not_mem_symbol.1 o'.not_mem_symbol.1 same).1

end Parts

theorem eq_of_message (named : x.WellNamed) (named' : y.WellNamed) (same : x.message = y.message)
    (told : x.kind ≠ .cannotOpen ∧ x.kind ≠ .missingSymbol) : x = y := by
  have kinds := kind_of_message named named' same
  cases x with
  | cannotOpen path cause => exact absurd rfl told.1
  | missingSymbol symbol path cause => exact absurd rfl told.2
  | incompatible path expected found =>
    cases y with
    | incompatible path' expected' found' => exact incompatible_injective same
    | _ => cases kinds
  | unsupported operation reason =>
    cases y with
    | unsupported operation' reason' =>
      obtain ⟨o, rfl⟩ := named
      obtain ⟨o', rfl⟩ := named'
      exact unsupported_injective same
    | _ => cases kinds
  | wrongState id state expected =>
    cases y with
    | wrongState id' state' expected' => exact wrongState_injective same
    | _ => cases kinds
  | badArgument operation reason =>
    cases y with
    | badArgument operation' reason' =>
      obtain ⟨o, rfl⟩ := named
      obtain ⟨o', rfl⟩ := named'
      exact badArgument_injective same
    | _ => cases kinds
  | backend symbol error =>
    cases y with
    | backend symbol' error' =>
      obtain ⟨o, rfl⟩ := named
      obtain ⟨o', rfl⟩ := named'
      exact backend_injective same
    | _ => cases kinds

theorem unresolved_eq_none (other : x.kind ≠ .missingSymbol) : x.unresolved? = none := by
  cases x with
  | missingSymbol symbol path cause => exact absurd rfl other
  | _ => rfl

theorem unresolved_of_message (named : x.WellNamed) (named' : y.WellNamed)
    (same : x.message = y.message) : x.unresolved? = y.unresolved? := by
  have kinds := kind_of_message named named' same
  cases x with
  | missingSymbol symbol path cause =>
    cases y with
    | missingSymbol symbol' path' cause' =>
      obtain ⟨o, rfl⟩ := named
      obtain ⟨o', rfl⟩ := named'
      exact congrArg some (symbol_of_message same)
    | _ => cases kinds
  | _ =>
    have other : y.kind ≠ .missingSymbol := by
      rw [← kinds]
      nofun
    rw [unresolved_eq_none other]
    rfl

/-- A failure that an initialisation or an operation of some invoker answers. -/
inductive Answered : InvokerError → Prop
  | init {b : Build} {p : Invoker b} {s : Holdings} {error : InvokerError} :
      (p.init s).answer = .error error → Answered error
  | invoke {b : Build} {p : Invoker b} {s : Holdings} {o : Operation} {args : Arguments o.shape}
      {error : InvokerError} : (p.invoke s o args).answer = .error error → Answered error

theorem wellNamed_of_init {b : Build} {p : Invoker b} {s : Holdings}
    (answer : (p.init s).answer = .error x) : x.WellNamed := by
  by_cases unready : p.status = .unready
  · have initialises := Invoker.initialises_init unready s
    generalize p.init s = result at initialises answer
    cases initialises with
    | unopened _ =>
      cases answer
      trivial
    | incompatible _ _ _ =>
      cases answer
      trivial
    | @missing _ _ _ _ o _ _ _ _ _ _ =>
      cases answer
      exact ⟨o, rfl⟩
    | served _ _ _ => cases answer
  · rw [Invoker.init_again unready] at answer
    cases answer
    trivial

theorem wellNamed_of_invoke {b : Build} {p : Invoker b} {s : Holdings} {o : Operation}
    {args : Arguments o.shape} (answer : (p.invoke s o args).answer = .error x) : x.WellNamed := by
  have outcome := p.invoke_cases s o args
  generalize p.invoke s o args = result at outcome answer
  cases outcome with
  | leftOut _ =>
    cases answer
    exact ⟨o, rfl⟩
  | notReady _ _ =>
    cases answer
    trivial
  | unnamed _ _ _ =>
    cases answer
    exact ⟨o, rfl⟩
  | refused _ _ _ _ =>
    cases answer
    exact ⟨o, rfl⟩
  | done _ _ _ _ => cases answer

theorem Answered.wellNamed (answered : Answered x) : x.WellNamed := by
  cases answered with
  | init answer => exact wellNamed_of_init answer
  | invoke answer => exact wellNamed_of_invoke answer

/-- What is known of two answered failures with the same message: they are of one kind, and they are
the same failure in every part, except where a library does not open or a symbol is not found, and
then at least the symbol is the same. Backends' errors are the same when their texts are. -/
structure MessagesIdentify : Prop where
  kind : ∀ x y : InvokerError, Answered x → Answered y → x.message = y.message → x.kind = y.kind
  full : ∀ x y : InvokerError, Answered x → Answered y → x.message = y.message →
    x.kind ≠ .cannotOpen ∧ x.kind ≠ .missingSymbol → x = y
  symbol : ∀ x y : InvokerError, Answered x → Answered y → x.message = y.message →
    x.unresolved? = y.unresolved?
  backend : ∀ e f : BackendError, e.text = f.text → e = f

theorem messages_identify : MessagesIdentify where
  kind _ _ answered answered' := kind_of_message answered.wellNamed answered'.wellNamed
  full _ _ answered answered' := eq_of_message answered.wellNamed answered'.wellNamed
  symbol _ _ answered answered' := unresolved_of_message answered.wellNamed answered'.wellNamed
  backend _ _ := BackendError.text_injective

theorem openings_alike : ∃ x y, Answered x ∧ Answered y ∧ x.kind = .cannotOpen ∧
    x.message = y.message ∧ x ≠ y := by
  let refusing (path text : String) : Invoker .standard :=
    ⟨"", path, ⟨.inProcess, fun _ => .error (.text text)⟩, true, .unready⟩
  have answered (path text : String) : Answered (.cannotOpen path (.text text)) :=
    .init (p := refusing path text) (s := {}) rfl
  exact ⟨_, _, answered "a" "b: c", answered "a: b" "c", rfl, rfl, by simp⟩

end InvokerError

end GraphPlugin
