/-! The operations on graphs, the symbols that a backend exports for them, and the two builds of the
host: the standard one offers the first three operations, the experimental one all five. -/
namespace GraphPlugin

/-- How an entry point is called. Adding vertices and adding edges take the same arguments. -/
inductive Shape
  | load
  | extend
  | toArrow
  | toDynamic
deriving DecidableEq

inductive Operation
  | loadGraph
  | addVertices
  | addEdges
  | toArrow
  | toDynamic
deriving DecidableEq

namespace Operation

def symbol : Operation → String
  | loadGraph => "LoadGraph"
  | addVertices => "AddVerticesToGraph"
  | addEdges => "AddEdgesToGraph"
  | toArrow => "ToArrowFragment"
  | toDynamic => "ToDynamicFragment"

def shape : Operation → Shape
  | loadGraph => .load
  | addVertices => .extend
  | addEdges => .extend
  | toArrow => .toArrow
  | toDynamic => .toDynamic

def isConversion : Operation → Bool
  | toArrow => true
  | toDynamic => true
  | _ => false

def all : List Operation := [loadGraph, addVertices, addEdges, toArrow, toDynamic]

theorem mem_all (o : Operation) : o ∈ all := by cases o <;> decide

theorem symbol_injective {o p : Operation} (h : o.symbol = p.symbol) : o = p := by
  cases o <;> cases p <;> simp_all [symbol]

end Operation

inductive Build
  | standard
  | experimental
deriving DecidableEq

namespace Build

def operations : Build → List Operation
  | standard => [.loadGraph, .addVertices, .addEdges]
  | experimental => [.loadGraph, .addVertices, .addEdges, .toArrow, .toDynamic]

def requiredSymbols (b : Build) : List String :=
  let symbols := [Operation.loadGraph.symbol, Operation.addVertices.symbol,
    Operation.addEdges.symbol]
  match b with
  | standard => symbols
  | experimental => symbols ++ [Operation.toArrow.symbol, Operation.toDynamic.symbol]

theorem requiredSymbols_eq (b : Build) :
    b.requiredSymbols = b.operations.map Operation.symbol := by
  cases b <;> rfl

theorem mem_operations_iff (b : Build) (o : Operation) :
    o ∈ b.operations ↔ b = .experimental ∨ o.isConversion = false := by
  cases b <;> cases o <;> decide

end Build

end GraphPlugin
