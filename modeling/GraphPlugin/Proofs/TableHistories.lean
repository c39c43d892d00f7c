import GraphPlugin.Proofs.LastWrite
import GraphPlugin.Proofs.Quoting
import GraphPlugin.Proofs.Values
import GraphPlugin.Session

/-! Tables of exported functions and their histories. For each symbol the last registration or
removal counts: it settles whether the symbol is there, under which signature its function is handed
out, and so the listing. Where tables have names, a clone takes over the history of what it is a
clone of, and from then on each of the two has a history of its own. -/
namespace GraphPlugin

universe u

namespace SymbolTable

variable {σ : Type} {F : σ → Type u}

inductive Edit (F : σ → Type u)
  | register (symbol : String) (signature : σ) (function : F signature)
  | remove (symbol : String)

namespace Edit

def symbol : Edit F → String
  | register symbol _ _ => symbol
  | remove symbol => symbol

def entry? : Edit F → Option (Sigma F)
  | register _ signature function => some ⟨signature, function⟩
  | remove _ => none

end Edit

def edit (t : SymbolTable F) : Edit F → SymbolTable F
  | .register symbol signature function => t.register symbol signature function
  | .remove symbol => t.remove symbol

def ofEdits (edits : List (Edit F)) : SymbolTable F := edits.foldl edit .empty

/-- The last edit of the symbol registers the function, under the signature. -/
def Registered (edits : List (Edit F)) (symbol : String) (signature : σ) (function : F signature) :
    Prop :=
  LastWrite (fun e => e.symbol = symbol) edits (.register symbol signature function)

theorem get?_edit_self (t : SymbolTable F) (e : Edit F) :
    (t.edit e).entries.get? e.symbol = e.entry? := by
  cases e with
  | register symbol signature function => exact Keyed.get?_insert_self _ _ _
  | remove symbol => exact (Keyed.get?_erase _ _ _).trans (if_pos rfl)

theorem get?_edit_of_ne (t : SymbolTable F) {e : Edit F} {symbol : String}
    (elsewhere : e.symbol ≠ symbol) : (t.edit e).entries.get? symbol = t.entries.get? symbol := by
  cases e with
  | register other signature function => exact Keyed.get?_insert_of_ne _ _ elsewhere.symm
  | remove other => exact (Keyed.get?_erase _ _ _).trans (if_neg elsewhere.symm)

theorem get?_ofEdits_iff (edits : List (Edit F)) (symbol : String) (signature : σ)
    (function : F signature) :
    (ofEdits edits).entries.get? symbol = some ⟨signature, function⟩ ↔
      Registered edits symbol signature function := by
  have read : (ofEdits edits).entries.get? symbol = some ⟨signature, function⟩ ↔
      ∃ e, LastWrite (fun e : Edit F => e.symbol = symbol) edits e ∧
        e.entry? = some ⟨signature, function⟩ := by
    apply read_foldl_iff (fun t : SymbolTable F => t.entries.get? symbol)
      (Keyed.get?_empty symbol)
    · rintro t e rfl
      exact get?_edit_self t e
    · intro t e elsewhere
      exact get?_edit_of_ne t elsewhere
  rw [read]
  constructor
  · rintro ⟨e, last, same⟩
    cases e with
    | register other _ _ =>
      obtain rfl : other = symbol := last.here
      cases same
      exact last
    | remove other => cases same
  · intro registered
    exact ⟨_, registered, rfl⟩

section Resolution

variable [DecidableEq σ] (t : SymbolTable F) (symbol : String) (signature : σ)

theorem resolve_eq_ok_iff (function : F signature) :
    t.resolve symbol signature = .ok function ↔
      t.entries.get? symbol = some ⟨signature, function⟩ := by
  unfold resolve
  cases t.entries.get? symbol with
  | none => simp
  | some entry =>
    obtain ⟨stored, registered⟩ := entry
    by_cases same : stored = signature
    · subst same
      simp
    · simp [same]

theorem resolve_eq_mismatch_iff :
    t.resolve symbol signature = .error (.signatureMismatch symbol) ↔
      ∃ stored function, t.entries.get? symbol = some ⟨stored, function⟩ ∧ stored ≠ signature := by
  unfold resolve
  cases t.entries.get? symbol with
  | none => simp
  | some entry =>
    obtain ⟨stored, registered⟩ := entry
    by_cases same : stored = signature
    · subst same
      simp +contextual
    · simp [same]

theorem resolve_eq_notFound_iff :
    t.resolve symbol signature = .error (.notFound symbol) ↔ t.entries.get? symbol = none := by
  unfold resolve
  cases t.entries.get? symbol with
  | none => simp
  | some entry =>
    obtain ⟨stored, registered⟩ := entry
    by_cases same : stored = signature
    · subst same
      simp
    · simp [same]

end Resolution

theorem contains_iff_get? (t : SymbolTable F) (symbol : String) :
    t.contains symbol = true ↔
      ∃ signature function, t.entries.get? symbol = some ⟨signature, function⟩ := by
  rw [contains, Keyed.contains, Option.isSome_iff_exists]
  constructor
  · rintro ⟨⟨signature, function⟩, found⟩
    exact ⟨signature, function, found⟩
  · rintro ⟨signature, function, found⟩
    exact ⟨_, found⟩

theorem mem_symbols_iff (t : SymbolTable F) (symbol : String) :
    symbol ∈ t.symbols ↔ t.contains symbol = true := by
  rw [contains_iff_get?, symbols, Keyed.keys, List.mem_map]
  constructor
  · rintro ⟨⟨_, signature, function⟩, listed, rfl⟩
    exact ⟨signature, function, (Keyed.get?_eq_some_iff _ _ _).2 listed⟩
  · rintro ⟨signature, function, found⟩
    exact ⟨_, (Keyed.get?_eq_some_iff _ _ _).1 found, rfl⟩

theorem symbols_ascending (t : SymbolTable F) : t.symbols.Pairwise Text.Precedes :=
  List.pairwise_map.2 t.entries.ordered

/-- What a table shows of a history of edits. Its listing can be read in one way only. -/
structure Reflects [DecidableEq σ] (t : SymbolTable F) (edits : List (Edit F)) : Prop where
  contains : ∀ symbol, t.contains symbol = true ↔
    ∃ signature function, Registered edits symbol signature function
  resolved : ∀ symbol signature function, t.resolve symbol signature = .ok function ↔
    Registered edits symbol signature function
  mismatched : ∀ symbol signature,
    t.resolve symbol signature = .error (.signatureMismatch symbol) ↔
      ∃ stored function, Registered edits symbol stored function ∧ stored ≠ signature
  missing : ∀ symbol signature, t.resolve symbol signature = .error (.notFound symbol) ↔
    ¬ ∃ stored function, Registered edits symbol stored function
  listed : ∃ symbols : List String, symbols.Pairwise Text.Precedes ∧
    (∀ symbol, symbol ∈ symbols ↔
      ∃ signature function, Registered edits symbol signature function) ∧
    t.size = symbols.length ∧ (t.isEmpty = true ↔ t.size = 0) ∧
    ∀ others : List String, t.debug = "StaticLibrary \x7b symbols: [" ++
      String.intercalate ", " (others.map Text.quoted) ++ "] \x7d" ↔ others = symbols

theorem ofEdits_reflects [DecidableEq σ] (edits : List (Edit F)) :
    (ofEdits edits).Reflects edits := by
  have present : ∀ symbol, (ofEdits edits).contains symbol = true ↔
      ∃ signature function, Registered edits symbol signature function := by
    intro symbol
    simp only [contains_iff_get?, get?_ofEdits_iff]
  constructor
  · exact present
  · intro symbol signature function
    rw [resolve_eq_ok_iff, get?_ofEdits_iff]
  · intro symbol signature
    simp only [resolve_eq_mismatch_iff, get?_ofEdits_iff]
  · intro symbol signature
    rw [resolve_eq_notFound_iff, ← present, contains, Keyed.contains]
    simp
  · refine ⟨(ofEdits edits).symbols, symbols_ascending _, ?_, ?_, ?_, fun others => ?_⟩
    · intro symbol
      rw [mem_symbols_iff, present]
    · exact (List.length_map _).symm
    · exact List.isEmpty_iff.trans List.length_eq_zero_iff.symm
    · unfold debug Text.commaSeparated
      rw [String.append_left_inj, String.append_right_inj]
      exact ⟨fun same => (Text.listing_injective same).symm, fun same => by rw [same]⟩

inductive Command (F : σ → Type u)
  | new (name : String)
  | clone (name result : String)
  | edit (name : String) (change : Edit F)

def Command.target : Command F → String
  | new name => name
  | clone _ result => result
  | edit name _ => name

def obey (tables : Keyed (SymbolTable F)) : Command F → Keyed (SymbolTable F)
  | .new name => tables.insert name .empty
  | .clone name result =>
    match tables.get? name with
    | none => tables
    | some t => tables.insert result t
  | .edit name change => tables.modify name (·.edit change)

def noted (histories : String → Option (List (Edit F))) :
    Command F → String → Option (List (Edit F))
  | .new name, other => if other = name then some [] else histories other
  | .clone name result, other =>
    if other = result then (histories name).or (histories other) else histories other
  | .edit name change, other =>
    if other = name then (histories other).map (· ++ [change]) else histories other

def tablesAfter (commands : List (Command F)) : Keyed (SymbolTable F) :=
  commands.foldl obey .empty

def historiesAfter (commands : List (Command F)) : String → Option (List (Edit F)) :=
  commands.foldl noted fun _ => none

theorem ofEdits_snoc (edits : List (Edit F)) (change : Edit F) :
    ofEdits (edits ++ [change]) = (ofEdits edits).edit change := by
  rw [ofEdits, List.foldl_append]
  rfl

theorem get?_obey {tables : Keyed (SymbolTable F)} {histories : String → Option (List (Edit F))}
    (agree : ∀ name, tables.get? name = (histories name).map ofEdits) (command : Command F)
    (name : String) :
    (obey tables command).get? name = (noted histories command name).map ofEdits := by
  cases command with
  | new other =>
    simp only [obey, noted, Keyed.get?_insert]
    split
    · rfl
    · exact agree name
  | clone source result =>
    have found := agree source
    have before := agree name
    cases taken : histories source with
    | none =>
      rw [taken] at found
      simp only [obey, noted, found, taken, Option.map_none, Option.none_or, ite_self]
      exact before
    | some edits =>
      rw [taken] at found
      simp only [obey, noted, found, taken, Option.map_some, Keyed.get?_insert, Option.some_or]
      split
      · rfl
      · exact before
  | edit other change =>
    simp only [obey, noted, Keyed.get?_modify, agree name]
    by_cases same : other = name
    · subst same
      simp [Function.comp_def, ofEdits_snoc]
    · simp [same, Ne.symm same, Function.comp_def]

theorem get?_tablesAfter (commands : List (Command F)) (name : String) :
    (tablesAfter commands).get? name = (historiesAfter commands name).map ofEdits := by
  induction commands using List.reverseRecOn generalizing name with
  | nil => rfl
  | append_singleton commands command ih =>
    rw [tablesAfter, historiesAfter, List.foldl_append, List.foldl_append]
    exact get?_obey ih command name

theorem get?_obey_of_ne (tables : Keyed (SymbolTable F)) {command : Command F} {name : String}
    (elsewhere : command.target ≠ name) : (obey tables command).get? name = tables.get? name := by
  cases command with
  | new other => exact Keyed.get?_insert_of_ne _ _ elsewhere.symm
  | clone source result =>
    simp only [obey]
    cases tables.get? source with
    | none => rfl
    | some t => exact Keyed.get?_insert_of_ne _ _ elsewhere.symm
  | edit other change =>
    have apart : other ≠ name := elsewhere
    simp [obey, Keyed.get?_modify, apart]

theorem get?_foldl_obey (tables : Keyed (SymbolTable F)) {commands : List (Command F)}
    {name : String} (untouched : ∀ command ∈ commands, command.target ≠ name) :
    (commands.foldl obey tables).get? name = tables.get? name := by
  induction commands generalizing tables with
  | nil => rfl
  | cons command rest ih =>
    obtain ⟨first, later⟩ := List.forall_mem_cons.1 untouched
    rw [List.foldl_cons, ih _ later, get?_obey_of_ne tables first]

theorem get?_clone {tables : Keyed (SymbolTable F)} {t : SymbolTable F} {name : String}
    (found : tables.get? name = some t) (result : String) :
    (obey tables (.clone name result)).get? name = some t ∧
      (obey tables (.clone name result)).get? result = some t := by
  simp only [obey, found, Keyed.get?_insert, if_true, and_true]
  split
  · rfl
  · rfl

structure Remembered [DecidableEq σ] (F : σ → Type u) : Prop where
  reflects : ∀ (commands : List (Command F)) name,
    Option.Rel Reflects ((tablesAfter commands).get? name) (historiesAfter commands name)
  original : ∀ (commands more : List (Command F)) name result t,
    (tablesAfter commands).get? name = some t → (∀ command ∈ more, command.target ≠ name) →
      (tablesAfter (commands ++ .clone name result :: more)).get? name = some t
  clone : ∀ (commands more : List (Command F)) name result t,
    (tablesAfter commands).get? name = some t → (∀ command ∈ more, command.target ≠ result) →
      (tablesAfter (commands ++ .clone name result :: more)).get? result = some t

theorem tables_remembered [DecidableEq σ] (F : σ → Type u) : Remembered F where
  reflects commands name := by
    rw [get?_tablesAfter]
    cases historiesAfter commands name with
    | none => exact .none
    | some edits => exact .some (ofEdits_reflects edits)
  original commands more name result t found untouched := by
    rw [tablesAfter, List.foldl_append, List.foldl_cons, get?_foldl_obey _ untouched]
    exact (get?_clone found result).1
  clone commands more name result t found untouched := by
    rw [tablesAfter, List.foldl_append, List.foldl_cons, get?_foldl_obey _ untouched]
    exact (get?_clone found result).2

theorem foldl_obey_edits (tables : Keyed (SymbolTable F)) (name : String) (t : SymbolTable F)
    (edits : List (Edit F)) :
    (edits.map (Command.edit name)).foldl obey (tables.insert name t) =
      tables.insert name (edits.foldl edit t) := by
  induction edits generalizing t with
  | nil => rfl
  | cons e rest ih =>
    have first : obey (tables.insert name t) (.edit name e) = tables.insert name (t.edit e) := by
      simp only [obey, Keyed.modify, Keyed.get?_insert_self, Keyed.insert_insert]
    rw [List.map_cons, List.foldl_cons, first, ih, List.foldl_cons]

end SymbolTable

namespace Session

open SymbolTable

variable {b : Build}

def commands (s : Session b) : Step → List (Command Export)
  | .newTable name => [.new name]
  | .fullTable name number => .new name :: Role.all.map fun r =>
      .edit name (.register r.symbol r.signature ((s.backend number).function r))
  | .copyTable name result => [.clone name result]
  | .register name symbol role number =>
    [.edit name (.register symbol role.signature ((s.backend number).function role))]
  | .remove name symbol => [.edit name (.remove symbol)]
  | _ => []

theorem tables_changeTable (s : Session b) (name : String)
    (change : SymbolTable Export → SymbolTable Export) :
    (s.changeTable name change).state.tables = s.tables.modify name change := by
  unfold changeTable Keyed.modify
  cases s.tables.get? name with
  | none => rfl
  | some t => rfl

theorem fullTable_eq (backend : Backend) :
    fullTable backend = ofEdits (Role.all.map fun r =>
      .register r.symbol r.signature (backend.function r)) := by
  rw [ofEdits, List.foldl_map]
  rfl

theorem tables_step (s : Session b) {step : Step}
    (inside : ∀ name path result, step ≠ .openTable name path result) :
    (s.step step).state.tables = (s.commands step).foldl obey s.tables := by
  cases step with
  | newTable name => rfl
  | fullTable name number =>
    have edits := foldl_obey_edits s.tables name .empty (Role.all.map fun r =>
      .register r.symbol r.signature ((s.backend number).function r))
    rw [List.map_map] at edits
    rw [commands, List.foldl_cons]
    refine Eq.trans ?_ edits.symm
    show s.tables.insert name (fullTable (s.backend number)) = _
    rw [fullTable_eq, ofEdits]
  | copyTable name result =>
    simp only [Session.step, commands, List.foldl_cons, List.foldl_nil, obey]
    cases s.tables.get? name with
    | none => rfl
    | some t => rfl
  | register name symbol role number => exact tables_changeTable s name _
  | remove name symbol => exact tables_changeTable s name _
  | openTable name path result => exact absurd rfl (inside name path result)
  | probe name symbol role =>
    simp only [Session.step]
    split
    · rfl
    · split <;> rfl
  | serve name path table =>
    simp only [Session.step]
    split <;> rfl
  | create name id path source unload =>
    cases source with
    | tables loader openFailure failures =>
      simp only [Session.step]
      split <;> rfl
    | system => rfl
  | newLoader name => rfl
  | act action => rfl
  | _ =>
    simp only [Session.step]
    split <;> rfl

end Session

namespace SymbolTable

/-- Whatever is done with tables, each shows what the last edits of its symbols say. A function that
is added under the signature of one operation is found as another one of the same shape, and a
session does with its tables what is said here of tables with names. -/
structure LastEditsCount : Prop where
  remembered : ∀ {σ : Type} [DecidableEq σ] (F : σ → Type u), Remembered F
  shared : ∀ edits (function : Export Operation.addEdges.entryPoint.signature),
    Registered edits Operation.addVertices.entryPoint.symbol Operation.addEdges.entryPoint.signature
      function →
    (ofEdits edits).resolve Operation.addVertices.entryPoint.symbol
      Operation.addVertices.entryPoint.signature = .ok function
  sessions : ∀ {b : Build} (s : Session b) step,
    (∀ name path result, step ≠ .openTable name path result) →
      (s.step step).state.tables = (s.commands step).foldl obey s.tables

theorem last_edits_count : LastEditsCount.{u} where
  remembered F := tables_remembered F
  shared edits function registered := ((ofEdits_reflects edits).resolved _ _ function).2 registered
  sessions s _ inside := s.tables_step inside

end SymbolTable

end GraphPlugin
