import ToolSchema.Json.Key

/-!
# The order of values

Numbers are in order by what they stand for, booleans as zero and one. Texts and byte strings are in
order by the first place where they differ, and so are arrays. Values of other kinds, or of two
kinds, have no order.

* `Json.isEqual` says that two values stand for the same.
* `Json.exceeds` says that one value is greater than another.
-/

namespace ToolSchema

namespace Json

mutual

/-- The values stand for the same: like keys, and arrays and objects by what they hold. -/
def isEqual : (left right : Json) → Bool
  | .array items, .array others => areEqualItems items others
  | .object members, .object others =>
    members.length == others.length && areEqualMembers members others
  | .record members, .record others =>
    members.length == others.length && areEqualMembers members others
  | left, right => left.isSameKey right

def areEqualItems : (left right : List Json) → Bool
  | [], [] => true
  | item :: items, other :: others => item.isEqual other && areEqualItems items others
  | _, _ => false

/-- Every member is equal to the one of its name among others. -/
def areEqualMembers : (left right : List (String × Json)) → Bool
  | [], _ => true
  | (key, value) :: rest, others =>
    (others.lookup key).any value.isEqual && areEqualMembers rest others

end

/-- The place of a number; a number without one has none. -/
def place? : Json → Option (Option Binary64.Place)
  | .bool value => some (some (.ofInt (if value then 1 else 0)))
  | .int value => some (some (.ofInt value))
  | .float value => some value.place?
  | _ => none

/-- The first place stands behind the second one. -/
def isBehind : (left right : Option Binary64.Place) → Bool
  | some left, some right => right.isBefore left
  | _, _ => false

/-- The first list is greater, by the numbers in it. -/
def isGreaterText : (left right : List Nat) → Bool
  | [], _ => false
  | _ :: _, [] => true
  | m :: ms, n :: ns => if m = n then isGreaterText ms ns else n < m

mutual

/-- The first value is greater than the second one. -/
def exceeds : (left right : Json) → Except Fault Bool
  | .string left, .string right =>
    .ok (isGreaterText (left.toList.map Char.toNat) (right.toList.map Char.toNat))
  | .binary left, .binary right =>
    .ok (isGreaterText (left.map UInt8.toNat) (right.map UInt8.toNat))
  | .array items, .array others => itemsExceed items others
  | .record _, .record _ => .error (.notOrdered "dict" "dict")
  | left, right =>
    match left.place?, right.place? with
    | some left, some right => .ok (isBehind left right)
    | _, _ => .error (.notOrdered left.typeName right.typeName)

/-- The first items are greater at the first place where they differ. -/
def itemsExceed : (left right : List Json) → Except Fault Bool
  | [], _ => .ok false
  | _ :: _, [] => .ok true
  | item :: items, other :: others =>
    if item.isEqual other then itemsExceed items others else item.exceeds other

end

end Json

end ToolSchema
