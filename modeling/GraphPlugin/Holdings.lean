import GraphPlugin.Event

/-! Who holds what. Every node of a handle is referred to by the handles that a caller or a backend
keeps and by the live nodes made around it; every opened library is shared by its invoker and by the
live handles bound to it. A node goes away with its last reference and a library with its last
share. -/
namespace GraphPlugin

/-- One entry in `refs` for each reference to a node, one in `shares` for each share of a library,
the libraries that stay loaded for good, the handles that backends keep, and how many fragments,
bindings, libraries and calls of operations there have been. -/
structure Holdings where
  refs : List Node := []
  shares : List Tag := []
  kept : List Tag := []
  stash : List Handle := []
  fragments : Tally := {}
  bindings : Nat := 0
  libraries : Tally := {}
  calls : Nat := 0

namespace Holdings

def called (s : Holdings) : Holdings := { s with calls := s.calls + 1 }

def retain (s : Holdings) (h : Handle) : Holdings := { s with refs := h.node :: s.refs }

def retainAll (s : Holdings) (hs : List Handle) : Holdings :=
  { s with refs := hs.map Handle.node ++ s.refs }

/-- The first share of a library. Whether it is ever released is settled here. -/
def share (s : Holdings) (library : Tag) (unload : Bool) : Holdings :=
  { s with
    shares := library :: s.shares
    kept := if unload then s.kept else library :: s.kept }

def addFragment (s : Holdings) (origin : Origin) (content : Fragment) (held : List Handle)
    (shown : Option Nat) : Handle × Holdings :=
  let tag := s.fragments.next origin
  (.fragment tag content held shown,
    { s with refs := .fragment tag :: s.refs, fragments := s.fragments.advance origin })

/-- A new binding, held once, of a handle to a share of a library. It takes over a reference to the
handle from whoever had it. -/
def bind (s : Holdings) (library : Tag) (inner : Handle) : Handle × Holdings :=
  (.bound (s.bindings + 1) library inner,
    { s with
      refs := .binding (s.bindings + 1) :: s.refs
      shares := library :: s.shares
      bindings := s.bindings + 1 })

def addLibrary (s : Holdings) (origin : Origin) : Tag × Holdings :=
  (s.libraries.next origin, { s with libraries := s.libraries.advance origin })

section Products

variable {known : List Handle}

mutual

/-- The handle that a product stands for, held once: another reference to a known one, or a new
fragment around what it is to hold. -/
def build (s : Holdings) (origin : Origin) : Product known → Handle × Holdings
  | .known h _ => (h, s.retain h)
  | .fragment content held shown =>
    let (held, s) := s.buildAll origin held
    s.addFragment origin content held shown

def buildAll (s : Holdings) (origin : Origin) : List (Product known) → List Handle × Holdings
  | [] => ([], s)
  | product :: rest =>
    let (h, s) := s.build origin product
    let (hs, s) := s.buildAll origin rest
    (h :: hs, s)

end

/-- The handle that a backend hands back, held once, while the backend keeps what it wants to. -/
def accept (s : Holdings) (origin : Origin) (response : Response known) : Handle × Holdings :=
  let (back, s) := s.build origin response.back
  let (stashed, s) := s.buildAll origin response.stashed
  let again := if response.stashesBack then [back] else []
  (back, { s.retainAll again with stash := again ++ stashed ++ s.stash })

end Products

def unstash (s : Holdings) (place : Nat) : Holdings := { s with stash := s.stash.eraseIdx place }

/-- One share less of a library. With the last one it is released, unless it is to stay. -/
def giveUp (s : Holdings) (library : Tag) : Holdings × List Event :=
  let s := { s with shares := s.shares.erase library }
  if library ∈ s.shares ∨ library ∈ s.kept then (s, []) else (s, [.released library])

mutual

/-- One reference less to a handle. When it was the last one to a node, the node goes away and gives
up what it holds: a fragment goes before the handles that it holds, and a binding gives up its share
of the library after its handle. -/
def drop (s : Holdings) : Handle → Holdings × List Event
  | .fragment tag _ held _ =>
    let s := { s with refs := s.refs.erase (.fragment tag) }
    if .fragment tag ∈ s.refs then (s, [])
    else
      let (s, events) := s.dropAll held
      (s, .dropped tag :: events)
  | .bound number library inner =>
    let s := { s with refs := s.refs.erase (.binding number) }
    if .binding number ∈ s.refs then (s, [])
    else
      let (s, events) := s.drop inner
      let (s, releases) := s.giveUp library
      (s, events ++ releases)

def dropAll (s : Holdings) : List Handle → Holdings × List Event
  | [] => (s, [])
  | h :: rest =>
    let (s, events) := s.drop h
    let (s, more) := s.dropAll rest
    (s, events ++ more)

end

end Holdings

end GraphPlugin
