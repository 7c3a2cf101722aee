import ToolSchema.Binary64

/-!
# JSON values

A value is one of the eight kinds of a parsed document: null, boolean, integer, floating point
number, string, byte string, array or object. Integers and floating point numbers are different
kinds, and a boolean is no number. An object is an ordered list of members.

Two more forms come from peers that hand over values of their own: a `record` has attributes that
are read by name but is no object, and a `foreign` value has no structure at all. Neither has a
kind.

* `Json.weight` counts the nodes of a value; recursions over values are measured with it.
-/

namespace ToolSchema

inductive Json where
  | null
  | bool (value : Bool)
  | int (value : Int)
  | float (value : Binary64)
  | string (value : String)
  | binary (bytes : List UInt8)
  | array (items : List Json)
  | object (members : List (String × Json))
  | record (attributes : List (String × Json))
  | foreign
  deriving Repr, Inhabited

/-- The members of an object, in order. -/
abbrev Members := List (String × Json)

/-- The kinds of a parsed document. -/
inductive Kind where
  | null | bool | int | float | string | binary | array | object
  deriving DecidableEq, Repr

namespace Kind

/-- The name under which a kind is reported. -/
def name : Kind → String
  | null => "null"
  | bool => "bool"
  | int => "int"
  | float => "float"
  | string => "string"
  | binary => "binary"
  | array => "array"
  | object => "object"

end Kind

namespace Json

/-! ## Equality -/

mutual

/-- Equality of values is decidable: structure, member order and bits have to agree. -/
def decEq : (left right : Json) → Decidable (left = right)
  | .null, .null => isTrue rfl
  | .bool x, .bool y => decidable_of_iff (x = y) (by simp)
  | .int x, .int y => decidable_of_iff (x = y) (by simp)
  | .float x, .float y => decidable_of_iff (x = y) (by simp)
  | .string x, .string y => decidable_of_iff (x = y) (by simp)
  | .binary x, .binary y => decidable_of_iff (x = y) (by simp)
  | .array x, .array y =>
    have := decEqItems x y
    decidable_of_iff (x = y) (by simp)
  | .object x, .object y =>
    have := decEqMembers x y
    decidable_of_iff (x = y) (by simp)
  | .record x, .record y =>
    have := decEqMembers x y
    decidable_of_iff (x = y) (by simp)
  | .foreign, .foreign => isTrue rfl
  | .null, .bool _ | .null, .int _ | .null, .float _ | .null, .string _ | .null, .binary _
  | .null, .array _ | .null, .object _ | .null, .record _ | .null, .foreign
  | .bool _, .null | .bool _, .int _ | .bool _, .float _ | .bool _, .string _ | .bool _, .binary _
  | .bool _, .array _ | .bool _, .object _ | .bool _, .record _ | .bool _, .foreign
  | .int _, .null | .int _, .bool _ | .int _, .float _ | .int _, .string _ | .int _, .binary _
  | .int _, .array _ | .int _, .object _ | .int _, .record _ | .int _, .foreign
  | .float _, .null | .float _, .bool _ | .float _, .int _ | .float _, .string _
  | .float _, .binary _ | .float _, .array _ | .float _, .object _ | .float _, .record _
  | .float _, .foreign
  | .string _, .null | .string _, .bool _ | .string _, .int _ | .string _, .float _
  | .string _, .binary _ | .string _, .array _ | .string _, .object _ | .string _, .record _
  | .string _, .foreign
  | .binary _, .null | .binary _, .bool _ | .binary _, .int _ | .binary _, .float _
  | .binary _, .string _ | .binary _, .array _ | .binary _, .object _ | .binary _, .record _
  | .binary _, .foreign
  | .array _, .null | .array _, .bool _ | .array _, .int _ | .array _, .float _
  | .array _, .string _ | .array _, .binary _ | .array _, .object _ | .array _, .record _
  | .array _, .foreign
  | .object _, .null | .object _, .bool _ | .object _, .int _ | .object _, .float _
  | .object _, .string _ | .object _, .binary _ | .object _, .array _ | .object _, .record _
  | .object _, .foreign
  | .record _, .null | .record _, .bool _ | .record _, .int _ | .record _, .float _
  | .record _, .string _ | .record _, .binary _ | .record _, .array _ | .record _, .object _
  | .record _, .foreign
  | .foreign, .null | .foreign, .bool _ | .foreign, .int _ | .foreign, .float _
  | .foreign, .string _ | .foreign, .binary _ | .foreign, .array _ | .foreign, .object _
  | .foreign, .record _ => isFalse (by simp)

/-- Equality of the items of two arrays. -/
def decEqItems : (left right : List Json) → Decidable (left = right)
  | [], [] => isTrue rfl
  | [], _ :: _ | _ :: _, [] => isFalse (by simp)
  | x :: xs, y :: ys =>
    have := decEq x y
    have := decEqItems xs ys
    decidable_of_iff (x = y ∧ xs = ys) (by simp)

/-- Equality of the members of two objects. -/
def decEqMembers : (left right : List (String × Json)) → Decidable (left = right)
  | [], [] => isTrue rfl
  | [], _ :: _ | _ :: _, [] => isFalse (by simp)
  | (k, x) :: xs, (l, y) :: ys =>
    have := decEq x y
    have := decEqMembers xs ys
    decidable_of_iff (k = l ∧ x = y ∧ xs = ys) (by simp [and_assoc])

end

instance : DecidableEq Json := decEq

/-! ## Kinds -/

/-- The kind of a value; a record or a foreign value has none. -/
def kind? : Json → Option Kind
  | .null => some .null
  | .bool _ => some .bool
  | .int _ => some .int
  | .float _ => some .float
  | .string _ => some .string
  | .binary _ => some .binary
  | .array _ => some .array
  | .object _ => some .object
  | .record _ | .foreign => none

/-- The name under which messages speak of a value's type. -/
def typeName : Json → String
  | .null => "NoneType"
  | .bool _ => "bool"
  | .int _ => "int"
  | .float _ => "float"
  | .string _ => "str"
  | .binary _ => "bytes"
  | .array _ => "list"
  | .object _ => "dict"
  | .record _ => "types.SimpleNamespace"
  | .foreign => "object"

/-- The type name without the place where the type is declared. -/
def bareTypeName : Json → String
  | .record _ => "SimpleNamespace"
  | value => value.typeName

/-! ## Reading a value as one of a kind -/

def string? : Json → Option String
  | .string value => some value
  | _ => none

/-- The integer that a value is; booleans are none. -/
def int? : Json → Option Int
  | .int value => some value
  | _ => none

def items? : Json → Option (List Json)
  | .array items => some items
  | _ => none

def members? : Json → Option Members
  | .object members => some members
  | _ => none

/-- The members of an object; any other value counts as one without members. -/
def members (value : Json) : Members := value.members?.getD []

/-- The items of an array; any other value counts as an empty one. -/
def items (value : Json) : List Json := value.items?.getD []

/--
What a value yields one by one: the items of an array, the keys of an object, the characters of a
string, the bytes of a byte string. Other values yield nothing at all.
-/
def elements? : Json → Option (List Json)
  | .array items => some items
  | .object members => some (members.map (fun member => .string member.1))
  | .string text => some (text.toList.map (fun c => .string c.toString))
  | .binary bytes => some (bytes.map (fun byte => .int byte.toNat))
  | _ => none

/-- Neither null, `false`, zero nor empty. -/
def isTruthy : Json → Bool
  | .null => false
  | .bool value => value
  | .int value => value != 0
  | .float value => !value.isZero
  | .string value => value != ""
  | .binary bytes => !bytes.isEmpty
  | .array items => !items.isEmpty
  | .object members => !members.isEmpty
  | .record _ | .foreign => true

/-- The value itself, or `other` in the place of one that is not truthy. -/
def orElse (value other : Json) : Json := if value.isTruthy then value else other

/-- The string, or null. -/
def ofString? (value : Option String) : Json := (value.map Json.string).getD .null

/-- The integer, or null. -/
def ofInt? (value : Option Int) : Json := (value.map Json.int).getD .null

/-! ## Attributes -/

/--
What a value has under a name: the member of an object or the attribute of a record. Other values
have nothing.
-/
def get? (value : Json) (name : String) : Option Json :=
  match value with
  | .object members => members.lookup name
  | .record attributes => attributes.lookup name
  | _ => none

/-- The attribute, or `other` where there is none. -/
def getD (value : Json) (name : String) (other : Json) : Json :=
  (value.get? name).getD other

/-! ## Weight -/

mutual

/-- The number of nodes of a value. -/
def weight : Json → Nat
  | .array items => 1 + weightOfItems items
  | .object members => 1 + weightOfMembers members
  | _ => 1

def weightOfItems : List Json → Nat
  | [] => 0
  | item :: rest => item.weight + weightOfItems rest

def weightOfMembers : List (String × Json) → Nat
  | [] => 0
  | (_, value) :: rest => value.weight + weightOfMembers rest

end

theorem weight_pos (value : Json) : 0 < value.weight := by
  cases value <;> simp only [weight] <;> omega

theorem weight_le_weightOfItems {item : Json} {items : List Json} (h : item ∈ items) :
    item.weight ≤ weightOfItems items := by
  induction items with
  | nil => cases h
  | cons head rest ih =>
    rw [weightOfItems]
    rcases List.mem_cons.mp h with rfl | h
    · omega
    · have := ih h
      omega

theorem weight_le_weightOfMembers {key : String} {value : Json} {members : Members}
    (h : (key, value) ∈ members) : value.weight ≤ weightOfMembers members := by
  induction members with
  | nil => cases h
  | cons head rest ih =>
    obtain ⟨name, first⟩ := head
    rw [weightOfMembers]
    rcases List.mem_cons.mp h with h | h
    · cases h
      omega
    · have := ih h
      omega

end Json

namespace Members

/-- The members with other values under some keys and new keys behind them. -/
def overlay (low top : Members) : Members :=
  low.map (fun member => (member.1, (top.lookup member.1).getD member.2)) ++
    top.filter (fun member => !low.any (·.1 == member.1))

/-- The members with `value` under `key`, at the place of the key if it is there. -/
def put (members : Members) (key : String) (value : Json) : Members :=
  members.overlay [(key, value)]

/-- The members without those under `key`. -/
def erase (members : Members) (key : String) : Members :=
  members.filter (fun member => member.1 != key)

def hasKey (members : Members) (key : String) : Bool := members.any (·.1 == key)

def keys (members : Members) : List String := members.map Prod.fst

end Members

end ToolSchema
