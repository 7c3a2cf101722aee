import ToolSchema.Json

/-!
# Walking through a value

`Json.walk` lists every node of a value, a node before its children, with a stack of the values that
are still to be visited. `Json.preorder` is the same list written as a recursion on the value.

## Termination

`Json.walkFrom` takes the top of the stack away and puts its children there, which together weigh
one less.
-/

namespace ToolSchema

namespace Json

/-- The values directly below a value, in order. -/
def children : Json → List Json
  | .array items => items
  | .object members => members.map Prod.snd
  | _ => []

theorem weightOfItems_append (front back : List Json) :
    weightOfItems (front ++ back) = weightOfItems front + weightOfItems back := by
  induction front with
  | nil => simp [weightOfItems]
  | cons head rest ih => simp [weightOfItems, ih, Nat.add_assoc]

theorem weightOfItems_values (members : Members) :
    weightOfItems (members.map Prod.snd) = weightOfMembers members := by
  induction members with
  | nil => rfl
  | cons head rest ih =>
    obtain ⟨key, value⟩ := head
    simp [weightOfItems, weightOfMembers, ih]

theorem weightOfItems_children (value : Json) :
    weightOfItems value.children < value.weight := by
  cases value <;> simp only [children, weight, weightOfItems, weightOfItems_values] <;> omega

/-- The nodes of the values on a stack, topmost value first. -/
def walkFrom : List Json → List Json
  | [] => []
  | top :: below => top :: walkFrom (top.children ++ below)
termination_by stack => weightOfItems stack
decreasing_by
  have := weightOfItems_children top
  simp only [weightOfItems_append, weightOfItems]
  omega

/-- Every node of the value, each before its children and these in order. -/
def walk (value : Json) : List Json := walkFrom [value]

mutual

/-- Every node of the value, each before its children and these in order. -/
def preorder : Json → List Json
  | .array items => .array items :: preorderOfItems items
  | .object members => .object members :: preorderOfMembers members
  | value => [value]

def preorderOfItems : List Json → List Json
  | [] => []
  | item :: rest => item.preorder ++ preorderOfItems rest

def preorderOfMembers : List (String × Json) → List Json
  | [] => []
  | (_, value) :: rest => value.preorder ++ preorderOfMembers rest

end

mutual

/-- The steps from the top of a value to its deepest node; a value without children has none. -/
def depth : Json → Nat
  | .array items => depthBelowItems items
  | .object members => depthBelowMembers members
  | _ => 0

/-- One more than the greatest depth of an item, or zero without items. -/
def depthBelowItems : List Json → Nat
  | [] => 0
  | item :: rest => max (item.depth + 1) (depthBelowItems rest)

def depthBelowMembers : List (String × Json) → Nat
  | [] => 0
  | (_, value) :: rest => max (value.depth + 1) (depthBelowMembers rest)

end

end Json

end ToolSchema
