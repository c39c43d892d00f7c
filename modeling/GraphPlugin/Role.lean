import GraphPlugin.Export

/-! The entry points that a backend may have: one for each operation, and the one that tells its
version. -/
namespace GraphPlugin

inductive Role
  | operation (o : Operation)
  | version
deriving DecidableEq

namespace Role

def entryPoint : Role → EntryPoint
  | operation o => o.entryPoint
  | version => .version

def symbol (r : Role) : String := r.entryPoint.symbol

def signature (r : Role) : Signature := r.entryPoint.signature

def all : List Role := Operation.all.map operation ++ [version]

def ofSymbol? (symbol : String) : Option Role := all.find? fun r => r.symbol == symbol

end Role

structure Backend where
  report : VersionReport
  entry : (o : Operation) → Entry o.shape

namespace Backend

def function (b : Backend) : (r : Role) → Export r.signature
  | .operation o => b.entry o
  | .version => b.report

end Backend

end GraphPlugin
