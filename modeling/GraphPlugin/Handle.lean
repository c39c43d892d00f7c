import GraphPlugin.Fragment

/-! Handles on fragments. A fragment may hold handles and a bound handle holds the one that it was
bound around, so handles form trees; each node of a tree is counted on its own, and copies of a
handle share all of its nodes. -/
namespace GraphPlugin

/-- A fragment, with the handles that it holds and the place of the one that it shows as the handle
inside; or a handle that a library returned, bound to a share of that library. -/
inductive Handle
  | fragment (tag : Tag) (content : Fragment) (held : List Handle) (shown : Option Nat)
  | bound (number : Nat) (library : Tag) (inner : Handle)

/-- What is counted: fragments by tag, and the bindings of handles to libraries by number. -/
inductive Node
  | fragment (tag : Tag)
  | binding (number : Nat)
deriving DecidableEq

namespace Handle

mutual

def decEq : (h k : Handle) → Decidable (h = k)
  | fragment tag content held shown, fragment tag' content' held' shown' =>
    have := decEqAll held held'
    decidable_of_iff (tag = tag' ∧ content = content' ∧ held = held' ∧ shown = shown') (by simp)
  | bound number library inner, bound number' library' inner' =>
    have := decEq inner inner'
    decidable_of_iff (number = number' ∧ library = library' ∧ inner = inner') (by simp)
  | fragment _ _ _ _, bound _ _ _ => .isFalse nofun
  | bound _ _ _, fragment _ _ _ _ => .isFalse nofun

def decEqAll : (hs ks : List Handle) → Decidable (hs = ks)
  | [], [] => .isTrue rfl
  | h :: hs, k :: ks =>
    have := decEq h k
    have := decEqAll hs ks
    decidable_of_iff (h = k ∧ hs = ks) (by simp)
  | [], _ :: _ => .isFalse nofun
  | _ :: _, [] => .isFalse nofun

end

instance : DecidableEq Handle := decEq

def node : Handle → Node
  | fragment tag _ _ _ => .fragment tag
  | bound number _ _ => .binding number

def inner? : Handle → Option Handle
  | fragment _ _ held shown => shown.bind (held[·]?)
  | bound _ _ inner => some inner

mutual

/-- How often the handle inside can be taken. -/
def depth : Handle → Nat
  | fragment _ _ held shown => depthAt held shown
  | bound _ _ inner => inner.depth + 1

def depthAt : List Handle → Option Nat → Nat
  | h :: _, some 0 => h.depth + 1
  | _ :: rest, some (place + 1) => depthAt rest (some place)
  | _, _ => 0

end

mutual

/-- The handle itself and all that are held inside it, shown or not. -/
def parts : Handle → List Handle
  | fragment tag content held shown => fragment tag content held shown :: allParts held
  | bound number library inner => bound number library inner :: inner.parts

def allParts : List Handle → List Handle
  | [] => []
  | h :: rest => h.parts ++ allParts rest

end

/-- A bound handle speaks for the one inside, a fragment for itself. -/
def content : Handle → Fragment
  | fragment _ content _ _ => content
  | bound _ _ inner => inner.content

def objectId (h : Handle) : ObjectId := h.content.objectId

def name (h : Handle) : String := h.content.name

def kind (h : Handle) : FragmentKind := h.content.kind

def debug : Handle → String
  | fragment tag content _ _ => content.debug tag
  | bound _ _ inner => inner.debug

def unwrapped (h : Handle) : Handle := h.inner?.getD h

theorem depthAt_eq (held : List Handle) (shown : Option Nat) :
    depthAt held shown = (shown.bind (held[·]?)).elim 0 (·.depth + 1) := by
  induction held generalizing shown with
  | nil => cases shown <;> simp [depthAt]
  | cons h rest ih =>
    match shown with
    | none => rfl
    | some 0 => simp [depthAt]
    | some (place + 1) => simpa [depthAt] using ih (some place)

theorem depth_eq (h : Handle) : h.depth = h.inner?.elim 0 (·.depth + 1) := by
  cases h with
  | fragment tag content held shown => rw [depth, depthAt_eq, inner?]
  | bound number library inner => rw [depth, inner?, Option.elim_some]

theorem depth_unwrapped (h : Handle) : h.unwrapped.depth = h.depth - 1 := by
  have depth := h.depth_eq
  unfold unwrapped
  cases inside : h.inner? with
  | none => simp [inside] at depth ⊢; omega
  | some i => simp [inside] at depth ⊢; omega

theorem allParts_eq (held : List Handle) : allParts held = held.flatMap parts := by
  induction held with
  | nil => rfl
  | cons h rest ih => rw [allParts, ih, List.flatMap_cons]

theorem mem_parts_self (h : Handle) : h ∈ h.parts := by
  cases h with
  | fragment tag content held shown => exact List.mem_cons_self
  | bound number library inner => exact List.mem_cons_self

end Handle

end GraphPlugin
