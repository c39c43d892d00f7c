/-! Where a process stands among the workers that cooperate on a graph, and the client through which
it reaches the shared store. Both are handed on to a backend as they are. -/
namespace GraphPlugin

structure CommSpec where
  workerId : UInt32
  workerNum : UInt32
  localId : UInt32
  localNum : UInt32
deriving DecidableEq

namespace CommSpec

def single : CommSpec := ⟨0, 1, 0, 1⟩

/-- Each worker owns one fragment, numbered as the worker is. -/
def fragmentId (c : CommSpec) : UInt32 := c.workerId

def fragmentNum (c : CommSpec) : UInt32 := c.workerNum

def isCoordinator (c : CommSpec) : Bool := c.workerId == 0

end CommSpec

structure StoreClient where
  ipcSocket : String
  instanceId : UInt64
deriving DecidableEq

end GraphPlugin
