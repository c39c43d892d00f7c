import GraphPlugin.ObjectId
import GraphPlugin.Tag
import GraphPlugin.Text.Quoted

/-! Fragments: the parts of a graph that a backend has put into the shared store. -/
namespace GraphPlugin

/-- How a fragment is laid out: immutable columns, or a graph that can change in place. -/
inductive FragmentKind
  | arrow
  | dynamic
deriving DecidableEq

namespace FragmentKind

def text : FragmentKind → String
  | arrow => "arrow property fragment"
  | dynamic => "dynamic property fragment"

def label : FragmentKind → String
  | arrow => "ArrowProperty"
  | dynamic => "DynamicProperty"

end FragmentKind

structure Fragment where
  objectId : ObjectId
  name : String
  kind : FragmentKind
deriving DecidableEq

namespace Fragment

def debug (f : Fragment) (tag : Tag) : String :=
  match tag.origin with
  | .inProcess => "Fragment#" ++ toString tag.number
  | .system =>
    "Fragment \x7b id: ObjectId(" ++ toString f.objectId.value.toNat ++ "), name: " ++
      Text.quoted f.name ++ ", kind: " ++ f.kind.label ++ " \x7d"

end Fragment

end GraphPlugin
