import GraphPlugin.Proofs.SessionRuns
import GraphPlugin.Proofs.Spellings

/-! Loaders of tables and their registrations. Of all registrations under spellings of one path the
last one is opened, and the first one gives the spelling that the loader keeps. What is opened or
given away is a copy: nothing that is done later to the loader, or to the table, shows in it. -/
namespace GraphPlugin

namespace TableLoader

def ofHistory (history : List (String × SymbolTable Export)) : TableLoader :=
  history.foldl (fun l e => l.register e.1 e.2) {}

def find? (l : TableLoader) (path : String) : Option (SymbolTable Export) :=
  (l.entries.find? fun e => Path.Same e.1 path).map (·.2)

def keys (l : TableLoader) : List String := l.entries.map (·.1)

/-- The key is how its path is spelt when it is registered for the first time. -/
def FirstSpelling (history : List (String × SymbolTable Export)) (key : String) : Prop :=
  ∃ before table after, history = before ++ (key, table) :: after ∧
    ∀ e ∈ before, ¬ Path.Same e.1 key

theorem ofHistory_snoc (history : List (String × SymbolTable Export)) (path : String)
    (table : SymbolTable Export) :
    ofHistory (history ++ [(path, table)]) = (ofHistory history).register path table := by
  rw [ofHistory, List.foldl_append]
  rfl

theorem openAt_eq_ok_iff (l : TableLoader) (path : String) (table : SymbolTable Export) :
    l.openAt path = .ok table ↔ l.find? path = some table := by
  unfold openAt find?
  cases l.entries.find? fun e => Path.Same e.1 path <;> simp

theorem openAt_eq_error_iff (l : TableLoader) (path : String) (error : LookupError) :
    l.openAt path = .error error ↔ error = .notRegistered path ∧ l.find? path = none := by
  unfold openAt find?
  cases l.entries.find? fun e => Path.Same e.1 path <;> simp [eq_comm]

theorem find?_register (l : TableLoader) (path other : String) (table : SymbolTable Export) :
    (l.register path table).find? other =
      if Path.Same path other then some table else l.find? other := by
  obtain ⟨entries⟩ := l
  simp only [register, find?]
  induction entries with
  | nil => by_cases same : Path.Same path other <;> simp [replaceOrAppend, same]
  | cons e rest ih =>
    unfold replaceOrAppend
    by_cases here : Path.Same e.1 path
    · by_cases same : Path.Same path other
      · simp [here, same, here.trans same]
      · have apart : ¬ Path.Same e.1 other := fun sought => same (here.symm.trans sought)
        simp [here, same, apart]
    · by_cases sought : Path.Same e.1 other
      · have apart : ¬ Path.Same path other := fun same => here (sought.trans same.symm)
        simp [here, sought, apart]
      · simp only [here, if_false, List.find?_cons, decide_false, sought]
        exact ih

theorem openAt_register (l : TableLoader) (path other : String) (table : SymbolTable Export) :
    (l.register path table).openAt other =
      if Path.Same path other then .ok table else l.openAt other := by
  have found := find?_register l path other table
  split at found
  · next same => rw [if_pos same, openAt_eq_ok_iff, found]
  · next apart =>
    rw [if_neg apart]
    cases there : l.openAt other with
    | ok old => rw [openAt_eq_ok_iff, found, (openAt_eq_ok_iff _ _ _).1 there]
    | error error => rw [openAt_eq_error_iff, found, ← openAt_eq_error_iff, there]

theorem find?_ofHistory_iff (history : List (String × SymbolTable Export)) (path : String)
    (table : SymbolTable Export) :
    (ofHistory history).find? path = some table ↔
      ∃ spelling, LastWrite (fun e => Path.Same e.1 path) history (spelling, table) := by
  have read : (ofHistory history).find? path = some table ↔
      ∃ e : String × SymbolTable Export,
        LastWrite (fun e => Path.Same e.1 path) history e ∧ some e.2 = some table := by
    apply read_foldl_iff (fun l : TableLoader => l.find? path) rfl
    · intro l e same
      rw [find?_register, if_pos same]
    · intro l e apart
      rw [find?_register, if_neg apart]
  rw [read]
  constructor
  · rintro ⟨⟨spelling, found⟩, last, same⟩
    cases same
    exact ⟨spelling, last⟩
  · rintro ⟨spelling, last⟩
    exact ⟨_, last, rfl⟩

theorem find?_ofHistory_none_iff (history : List (String × SymbolTable Export)) (path : String) :
    (ofHistory history).find? path = none ↔ ∀ e ∈ history, ¬ Path.Same e.1 path := by
  have written : (∃ e, LastWrite (fun e => Path.Same e.1 path) history e) ↔
      ∃ e ∈ history, Path.Same e.1 path := LastWrite.exists_iff
  rw [Option.eq_none_iff_forall_ne_some]
  simp only [ne_eq, find?_ofHistory_iff]
  constructor
  · intro none e registered same
    obtain ⟨⟨spelling, table⟩, last⟩ := written.2 ⟨e, registered, same⟩
    exact none table ⟨spelling, last⟩
  · rintro none table ⟨spelling, last⟩
    exact none _ last.mem last.here

theorem keys_register (l : TableLoader) (path : String) (table : SymbolTable Export) :
    (l.register path table).keys =
      if ∃ key ∈ l.keys, Path.Same key path then l.keys else l.keys ++ [path] := by
  obtain ⟨entries⟩ := l
  simp only [register, keys]
  induction entries with
  | nil => simp [replaceOrAppend]
  | cons e rest ih =>
    unfold replaceOrAppend
    by_cases here : Path.Same e.1 path
    · simp [here]
    · simp only [here, if_false, List.map_cons, List.exists_mem_cons_iff, false_or, ih]
      by_cases known : ∃ key ∈ rest.map (·.1), Path.Same key path
      · simp only [known, if_true]
      · simp only [known, if_false, List.cons_append]

theorem exists_key_iff (l : TableLoader) (path : String) :
    (∃ key ∈ l.keys, Path.Same key path) ↔ l.find? path ≠ none := by
  simp [keys, find?]

theorem exists_key_ofHistory_iff (history : List (String × SymbolTable Export)) (path : String) :
    (∃ key ∈ (ofHistory history).keys, Path.Same key path) ↔ ∃ e ∈ history, Path.Same e.1 path := by
  rw [exists_key_iff, Ne, find?_ofHistory_none_iff]
  simp

theorem firstSpelling_snoc_iff {history : List (String × SymbolTable Export)} {path key : String}
    {table : SymbolTable Export} :
    FirstSpelling (history ++ [(path, table)]) key ↔
      FirstSpelling history key ∨ key = path ∧ ∀ e ∈ history, ¬ Path.Same e.1 path := by
  constructor
  · rintro ⟨before, first, after, split, new⟩
    rcases snoc_split split with ⟨rfl, same, _⟩ | ⟨more, rfl, _⟩
    · cases same
      exact .inr ⟨rfl, new⟩
    · exact .inl ⟨before, first, more, rfl, new⟩
  · rintro (⟨before, first, after, rfl, new⟩ | ⟨rfl, new⟩)
    · exact ⟨before, first, after ++ [(path, table)], by simp, new⟩
    · exact ⟨history, table, [], rfl, new⟩

theorem keys_ofHistory (history : List (String × SymbolTable Export)) :
    ((ofHistory history).keys.Pairwise fun s t => ¬ Path.Same s t) ∧
      ∀ key, key ∈ (ofHistory history).keys ↔ FirstSpelling history key := by
  induction history using List.reverseRecOn with
  | nil => simp [ofHistory, keys, FirstSpelling]
  | append_singleton history last ih =>
    obtain ⟨path, table⟩ := last
    obtain ⟨apart, first⟩ := ih
    have known := exists_key_ofHistory_iff history path
    rw [ofHistory_snoc, keys_register]
    split
    · next registered =>
      refine ⟨apart, fun key => ?_⟩
      have old : ¬ ∀ e ∈ history, ¬ Path.Same e.1 path := by simpa using known.1 registered
      simp only [first, firstSpelling_snoc_iff, old, and_false, or_false]
    · next unregistered =>
      have new : ∀ e ∈ history, ¬ Path.Same e.1 path := by simpa [known] using unregistered
      constructor
      · refine List.pairwise_append.2 ⟨apart, List.pairwise_singleton _ _, ?_⟩
        rintro key there _ final
        rw [List.mem_singleton.1 final]
        exact fun same => unregistered ⟨key, there, same⟩
      · intro key
        simp only [List.mem_append, List.mem_singleton, first, firstSpelling_snoc_iff]
        exact or_congr_right (and_iff_left new).symm

theorem find?_of_mem {l : TableLoader} (apart : l.keys.Pairwise fun s t => ¬ Path.Same s t)
    {key : String} {table : SymbolTable Export} (listed : (key, table) ∈ l.entries) :
    l.find? key = some table := by
  obtain ⟨entries⟩ := l
  simp only [keys, find?] at apart listed ⊢
  induction entries with
  | nil => contradiction
  | cons e rest ih =>
    obtain ⟨first, later⟩ := List.pairwise_cons.1 apart
    rcases List.mem_cons.1 listed with rfl | listed
    · simp [Path.same_refl]
    · have other : ¬ Path.Same e.1 key := first key (List.mem_map_of_mem listed)
      rw [List.find?_cons_of_neg (by simpa using other)]
      exact ih later listed

theorem mem_entries_ofHistory_iff (history : List (String × SymbolTable Export)) (key : String)
    (table : SymbolTable Export) :
    (key, table) ∈ (ofHistory history).entries ↔
      FirstSpelling history key ∧ (ofHistory history).openAt key = .ok table := by
  obtain ⟨apart, first⟩ := keys_ofHistory history
  rw [openAt_eq_ok_iff, ← first]
  constructor
  · intro listed
    exact ⟨List.mem_map_of_mem listed, find?_of_mem apart listed⟩
  · rintro ⟨there, found⟩
    obtain ⟨⟨_, other⟩, listed, rfl⟩ := List.mem_map.1 there
    have same := (find?_of_mem apart listed).symm.trans found
    rwa [← Option.some.inj same]

end TableLoader

namespace Session

variable {b : Build}

abbrev Histories := String → Option (List (String × SymbolTable Export))

/-- What a step adds to the registrations of the loaders. A table is registered as it is at the
time, and a loader that is copied hands its registrations on. -/
def registered (s : Session b) (histories : Histories) : Step → Histories
  | .newLoader name, other => if other = name then some [] else histories other
  | .copyLoader name result, other =>
    if other = result then (histories name).or (histories other) else histories other
  | .serve name path table, other => (histories other).map fun history =>
    if other = name then history ++ (s.tables.get? table).toList.map (path, ·) else history
  | _, other => histories other

def registrations (s : Session b) (histories : Histories) : List Step → Histories
  | [] => histories
  | step :: rest => (s.step step).state.registrations (s.registered histories step) rest

theorem loader_registered {s : Session b} {histories : Histories}
    (agree : ∀ name, s.loaders.get? name = (histories name).map .ofHistory) (step : Step)
    (name : String) : (s.step step).state.loaders.get? name =
      (s.registered histories step name).map .ofHistory := by
  rw [loaders_step]
  cases step with
  | newLoader other =>
    simp only [registered, Keyed.get?_insert]
    split
    · rfl
    · exact agree name
  | copyLoader source result =>
    have before := agree name
    cases taken : histories source with
    | none =>
      simp only [registered, agree source, taken, Option.map_none, Option.none_or, ite_self]
      exact before
    | some history =>
      simp only [registered, agree source, taken, Option.map_some, Option.some_or,
        Keyed.get?_insert]
      split
      · rfl
      · exact before
  | serve other path table =>
    cases found : s.tables.get? table with
    | none =>
      simp only [registered, found, agree name]
      simp
    | some exports =>
      simp only [registered, found, Keyed.get?_modify, agree name]
      by_cases same : other = name
      · subst same
        simp [Function.comp_def, TableLoader.ofHistory_snoc]
      · simp [same, Ne.symm same, Function.comp_def]
  | _ => exact agree name

theorem loaders_registered {s : Session b} {histories : Histories}
    (agree : ∀ name, s.loaders.get? name = (histories name).map .ofHistory) (steps : List Step)
    (name : String) :
    (s.after steps).loaders.get? name = (s.registrations histories steps name).map .ofHistory := by
  induction steps generalizing s histories with
  | nil => exact agree name
  | cons step rest ih => exact ih (loader_registered agree step)

theorem get?_serve {s : Session b} {name path table : String} {loader : TableLoader}
    {exports : SymbolTable Export} (found : s.loaders.get? name = some loader)
    (given : s.tables.get? table = some exports) :
    (s.step (.serve name path table)).state.loaders.get? name =
      some (loader.register path exports) := by
  simp [loaders_step, given, Keyed.get?_modify, found]

theorem get?_openTable {s : Session b} {name path result : String} {loader : TableLoader}
    {table : SymbolTable Export} (found : s.loaders.get? name = some loader)
    (opened : loader.openAt path = .ok table) :
    (s.step (.openTable name path result)).state.tables.get? result = some table := by
  simp [Session.step, found, opened, say]

theorem get?_create {s : Session b} {loader : String} {tables : TableLoader}
    (found : s.loaders.get? loader = some tables) (name id path : String)
    (openFailure : Option String) (failures : List (String × String)) (unload : Option Bool) :
    (s.step (.create name id path (.tables loader openFailure failures)
      unload)).state.host.invokers.get? name =
        some { id, path, loader := tables.toLoader openFailure failures,
               unloadOnDrop := unload.getD true } := by
  rw [invokers_step, action?, found]
  exact Host.get?_create name id path _ unload

end Session

namespace TableLoader

/-- A loader opens what was registered last under a spelling of the path. What makes two texts
spellings of one path is said twice, by what can be left out and by what stays. Opening writes no
loader. A table that is registered, or that comes out of a loader, and a loader that is given to an
invoker are copies: what is done afterwards under other names does not reach them. -/
structure OpensLastRegistration (b : Build) : Prop where
  respelt : ∀ s t, Path.Same s t ↔ Relation.EqvGen Path.Respelling s.toList t.toList
  components : ∀ s t, Path.Same s t ↔
    (s.toList.head? = some '/' ↔ t.toList.head? = some '/') ∧
      (Path.DotFirst s.toList ↔ Path.DotFirst t.toList) ∧
      Path.names s.toList = Path.names t.toList
  opened : ∀ history path table, (ofHistory history).openAt path = .ok table ↔
    ∃ spelling, LastWrite (fun e => Path.Same e.1 path) history (spelling, table)
  missed : ∀ history path error, (ofHistory history).openAt path = .error error ↔
    error = .notRegistered path ∧ ∀ e ∈ history, ¬ Path.Same e.1 path
  again : ∀ (l : TableLoader) path table other, (l.register path table).openAt other =
    if Path.Same path other then .ok table else l.openAt other
  keys : ∀ (l : TableLoader) path table, (l.register path table).keys =
    if ∃ key ∈ l.keys, Path.Same key path then l.keys else l.keys ++ [path]
  listed : ∀ history key table, (key, table) ∈ (ofHistory history).entries ↔
    FirstSpelling history key ∧ (ofHistory history).openAt key = .ok table
  sessions : ∀ (s : Session b) steps name, s.loaders = .empty →
    (s.after steps).loaders.get? name =
      (s.registrations (fun _ => none) steps name).map ofHistory
  opening : ∀ (s : Session b) step, step.loader? = none → (s.step step).state.loaders = s.loaders
  unwritten : ∀ (s : Session b) steps name, (∀ step ∈ steps, step.loader? ≠ some name) →
    (s.after steps).loaders.get? name = s.loaders.get? name
  served : ∀ (s : Session b) name path table loader exports steps,
    s.loaders.get? name = some loader → s.tables.get? table = some exports →
      (∀ step ∈ steps, step.loader? ≠ some name) →
        ((s.step (.serve name path table)).state.after steps).loaders.get? name =
          some (loader.register path exports)
  copied : ∀ (s : Session b) name path result loader table steps,
    s.loaders.get? name = some loader → loader.openAt path = .ok table →
      (∀ step ∈ steps, step.table? ≠ some result) →
        ((s.step (.openTable name path result)).state.after steps).tables.get? result = some table
  given : ∀ (s : Session b) name id path loader openFailure failures unload tables steps,
    s.loaders.get? loader = some tables → (∀ step ∈ steps, ¬ step.Ends name) →
      ∃ p, ((s.step (.create name id path (.tables loader openFailure failures)
          unload)).state.after steps).host.invokers.get? name = some p ∧
        p.loader = tables.toLoader openFailure failures ∧ p.path = path
  unhosted : ∀ (s : Session b) steps, (∀ step ∈ steps, ¬ step.Hosted) →
    (s.after steps).host = s.host

theorem opens_last_registration (b : Build) : OpensLastRegistration b where
  respelt := Path.same_iff_respelled
  components := Path.same_iff
  opened history path table := by
    rw [openAt_eq_ok_iff, find?_ofHistory_iff]
  missed history path error := by
    rw [openAt_eq_error_iff, find?_ofHistory_none_iff]
  again l path table other := openAt_register l path other table
  keys := keys_register
  listed := mem_entries_ofHistory_iff
  sessions _ steps name none := by
    apply Session.loaders_registered
    simp [none]
  opening s step none := (s.step_leaves step).1 none
  unwritten s _ _ unwritten := s.loader_after unwritten
  served _ _ _ _ _ _ _ found given unwritten := by
    rw [Session.loader_after _ unwritten, Session.get?_serve found given]
  copied _ _ _ _ _ _ _ found opened unwritten := by
    rw [Session.table_after _ unwritten, Session.get?_openTable found opened]
  given _ _ _ _ _ _ _ _ _ _ found lasts := by
    exact Session.invoker_after (Session.get?_create found _ _ _ _ _ _) lasts
  unhosted s _ outside := s.host_after outside

end TableLoader

end GraphPlugin
