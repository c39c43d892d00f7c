import GraphPlugin.Params

/-! Named bags of parameters, and what can be done with them step by step. A bag is empty until
something is put into it. -/
namespace GraphPlugin

abbrev Bags := Keyed Params

namespace Bags

inductive Step
  | clear (bag : String)
  | add (bag key : String) (value : Attribute)
  | replace (bag key : String) (value : Attribute)
  | collect (bag : String) (entries : List (String × Attribute))
  | look (bag key : String)
  | list (bag : String)
  | copy (bag result : String)
  | compare (bag other : String)

structure Look where
  value : Option Attribute
  present : Bool
  text : Option String
  int : Option Int64
  float : Option Binary64
  bool : Option Bool
  bytes : Option (List UInt8)

inductive Answer
  | done
  | size (n : Nat)
  | replaced (old : Option Attribute) (size : Nat)
  | look (found : Look)
  | listing (entries : List (String × Attribute)) (size : Nat) (isEmpty : Bool)
  | equal (result : Bool)

def bag (bags : Bags) (name : String) : Params := (bags.get? name).getD .empty

def step (bags : Bags) : Step → Bags × Answer
  | .clear name => (bags.insert name .empty, .done)
  | .add name key value =>
    let p := (bags.bag name).insert key value
    (bags.insert name p, .size p.size)
  | .replace name key value =>
    let (old, p) := (bags.bag name).replace key value
    (bags.insert name p, .replaced old p.size)
  | .collect name entries =>
    let p : Params := .ofList entries
    (bags.insert name p, .size p.size)
  | .look name key =>
    let p := bags.bag name
    (bags, .look {
      value := p.get? key
      present := p.contains key
      text := p.getText? key
      int := p.getInt? key
      float := p.getFloat? key
      bool := p.getBool? key
      bytes := p.getBytes? key })
  | .list name =>
    let p := bags.bag name
    (bags, .listing p.entries p.size p.isEmpty)
  | .copy name result => (bags.insert result (bags.bag name), .done)
  | .compare name other => (bags, .equal ((bags.bag name).equal (bags.bag other)))

def run (bags : Bags) : List Step → List Answer
  | [] => []
  | step :: rest =>
    let (bags, answer) := bags.step step
    answer :: bags.run rest

end Bags

end GraphPlugin
