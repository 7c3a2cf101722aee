import ToolSchema.Json.Walk
import ToolSchema.Pointer

/-!
# References

An object with a string under `$ref` is a reference to the value that this pointer names. A local
reference is followed unless its pointer is in flight, that is, already being followed further up;
what is not followed gives a `Notice`.

* `Json.overlaid`: the keys written next to `$ref` go over the members of the target.
* `Json.target` follows one reference.
* `Json.references` lists the pointers of a value.
-/

namespace ToolSchema

/-- What a conversion or a resolution reports. -/
inductive Notice where
  | circular (pointer : String)
  | nonLocal (pointer : String)
  | dangling (pointer : String)
  /-- The least count of items is above the greatest, which is dropped. -/
  | invertedBounds (least greatest : Int)
  deriving DecidableEq, Repr

/-- The wording of a notice. -/
def Notice.message : Notice → String
  | .circular pointer => "Circular reference left unresolved: " ++ pointer
  | .nonLocal pointer => "Non-local reference left unresolved: " ++ pointer
  | .dangling pointer => "Dangling reference left unresolved: " ++ pointer
  | .invertedBounds least greatest =>
    "minItems (" ++ toString least ++ ") exceeds maxItems (" ++ toString greatest ++
      "), dropping the upper bound"

/-- The key that makes an object a reference. -/
def referenceKey : String := "$ref"

/-- The pointer of an object with these members, if it is a reference. -/
def Members.reference? (members : Members) : Option String :=
  (members.lookup referenceKey).bind Json.string?

namespace Json

/-- The pointer of a reference. -/
def reference? (value : Json) : Option String :=
  value.members?.bind Members.reference?

def isReference (value : Json) : Bool := value.reference?.isSome

/-- Some node of the value is a reference. -/
def hasReferences (value : Json) : Bool := value.walk.any isReference

mutual

/-- The pointers of all references in a value. -/
def references : Json → List String
  | .array items => referencesOfItems items
  | .object members => (Members.reference? members).toList ++ referencesOfMembers members
  | _ => []

def referencesOfItems : List Json → List String
  | [] => []
  | item :: rest => item.references ++ referencesOfItems rest

def referencesOfMembers : List (String × Json) → List String
  | [] => []
  | (_, value) :: rest => value.references ++ referencesOfMembers rest

end

/-! ## Following -/

/--
The target of a reference under the keys written next to its `$ref`. Only an object takes them; its
own keys stay first, with new values in place, and new keys come behind.
-/
def overlaid (target : Json) (reference : Members) : Json :=
  match target with
  | .object members => .object (Members.overlay members (reference.erase referenceKey))
  | _ => target

/--
What a reference with these members leads to, or why it is left as it is. A pointer in flight counts
before one that is not local, and that before one that names nothing.
-/
def target (root : Json) (inFlight : List String) (reference : Members) (pointer : String) :
    Except Notice Json :=
  if pointer ∈ inFlight then .error (.circular pointer)
  else if !Pointer.isLocal pointer then .error (.nonLocal pointer)
  else
    match root.lookup pointer with
    | none => .error (.dangling pointer)
    | some found => .ok (overlaid found reference)

end Json

end ToolSchema
