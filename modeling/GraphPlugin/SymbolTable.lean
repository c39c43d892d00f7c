import GraphPlugin.Failure
import GraphPlugin.Keyed
import GraphPlugin.Text.Quoted

/-! Tables of exported functions that remember each function's signature and hand it out under that
signature only. They are generic in what a signature is. -/
namespace GraphPlugin

universe u

structure SymbolTable {σ : Type} (F : σ → Type u) where
  entries : Keyed (Sigma F)

namespace SymbolTable

variable {σ : Type} {F : σ → Type u}

def empty : SymbolTable F := ⟨.empty⟩

def register (t : SymbolTable F) (symbol : String) (signature : σ) (function : F signature) :
    SymbolTable F :=
  ⟨t.entries.insert symbol ⟨signature, function⟩⟩

def remove (t : SymbolTable F) (symbol : String) : SymbolTable F := ⟨t.entries.erase symbol⟩

def contains (t : SymbolTable F) (symbol : String) : Bool := t.entries.contains symbol

def size (t : SymbolTable F) : Nat := t.entries.size

def isEmpty (t : SymbolTable F) : Bool := t.entries.isEmpty

def symbols (t : SymbolTable F) : List String := t.entries.keys

def resolve [DecidableEq σ] (t : SymbolTable F) (symbol : String) (signature : σ) :
    Except LookupError (F signature) :=
  match t.entries.get? symbol with
  | none => .error (.notFound symbol)
  | some ⟨stored, function⟩ =>
    if same : stored = signature then .ok (same ▸ function)
    else .error (.signatureMismatch symbol)

def debug (t : SymbolTable F) : String :=
  "StaticLibrary \x7b symbols: [" ++ Text.commaSeparated (t.symbols.map Text.quoted) ++ "] \x7d"

end SymbolTable

end GraphPlugin
