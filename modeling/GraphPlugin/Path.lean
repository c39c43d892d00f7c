/-! Paths as lists of components. Repeated and trailing slashes name nothing, and neither does a dot
that is not the first component of a relative path; two dots do. -/
namespace GraphPlugin

structure Path where
  absolute : Bool
  components : List (List Char)
deriving DecidableEq

namespace Path

/-- The pieces between slashes, with an empty one beside each slash that has nothing on that side.
-/
def pieces : List Char → List (List Char)
  | [] => [[]]
  | '/' :: rest => [] :: pieces rest
  | c :: rest =>
    match pieces rest with
    | [] => [[c]]
    | piece :: others => (c :: piece) :: others

def isName (piece : List Char) : Bool := piece != [] && piece != ['.']

def ofList (cs : List Char) : Path :=
  match pieces cs with
  | ['.'] :: rest => ⟨false, ['.'] :: rest.filter isName⟩
  | rest => ⟨cs.head? == some '/', rest.filter isName⟩

def ofString (s : String) : Path := ofList s.toList

def Same (s t : String) : Prop := ofString s = ofString t

instance (s t : String) : Decidable (Same s t) :=
  inferInstanceAs (Decidable (ofString s = ofString t))

theorem same_refl (s : String) : Same s s := rfl

theorem Same.symm {s t : String} (h : Same s t) : Same t s := Eq.symm h

theorem Same.trans {s t u : String} (h : Same s t) (k : Same t u) : Same s u := Eq.trans h k

end Path

end GraphPlugin
