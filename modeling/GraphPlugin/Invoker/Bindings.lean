import GraphPlugin.Event
import GraphPlugin.Loader

/-! From an opened library to the functions that a build needs from it. The version is checked
first, where the library tells it; then the symbols are looked up in order, up to the first that is
not there. -/
namespace GraphPlugin

def Bindings (ops : List Operation) : Type := (o : Operation) → o ∈ ops → Entry o.shape

namespace Bindings

def nil : Bindings [] := fun _ h => absurd h List.not_mem_nil

def cons {o : Operation} {ops : List Operation} (entry : Entry o.shape) (rest : Bindings ops) :
    Bindings (o :: ops) :=
  fun p h =>
    if same : o = p then same ▸ entry
    else rest p ((List.mem_cons.1 h).resolve_left fun e => same e.symm)

@[simp] theorem cons_self {o : Operation} {ops : List Operation} (entry : Entry o.shape)
    (rest : Bindings ops) (h : o ∈ o :: ops) : cons entry rest o h = entry := by
  simp [cons]

theorem cons_of_ne {o p : Operation} {ops : List Operation} (entry : Entry o.shape)
    (rest : Bindings ops) (h : p ∈ o :: ops) (ne : o ≠ p) (k : p ∈ ops) :
    cons entry rest p h = rest p k := by
  simp [cons, ne]

end Bindings

namespace Library

/-- A library that does not tell its version passes, one that tells another major version does not.
-/
def checkVersion (l : Library) (tag : Tag) (path : String) :
    List Event × Except InvokerError Unit :=
  match l.resolve .version with
  | .ok (report : VersionReport) =>
    ([.resolving tag EntryPoint.version.symbol, .calling (some tag) report.label .version],
      if Version.current.compatible report.version then .ok ()
      else .error (.incompatible path Version.current report.version))
  | .error _ =>
    ([.resolving tag EntryPoint.version.symbol, .log (.versionUnchecked path)], .ok ())

/-- Looks up the symbols of the operations in order, and stops at the first that is missing. -/
def bindAll (l : Library) (tag : Tag) (path : String) :
    (ops : List Operation) → List Event × Except InvokerError (Bindings ops)
  | [] => ([], .ok .nil)
  | o :: rest =>
    match l.resolve o.entryPoint with
    | .error cause => ([.resolving tag o.symbol], .error (.missingSymbol o.symbol path cause))
    | .ok (entry : Entry o.shape) =>
      let (events, bindings) := l.bindAll tag path rest
      (.resolving tag o.symbol :: events, bindings.map (.cons entry))

def bind (l : Library) (tag : Tag) (path : String) (ops : List Operation) :
    List Event × Except InvokerError (Bindings ops) :=
  match l.checkVersion tag path with
  | (events, .error e) => (events, .error e)
  | (events, .ok ()) =>
    let (more, bindings) := l.bindAll tag path ops
    (events ++ more, bindings)

end Library

end GraphPlugin
