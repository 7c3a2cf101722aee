import ToolSchema.Convert.Build

/-!
# Conversion of schema documents

A document describes values in JSON Schema; a conversion gives the generation schema of the whole
document, of one of its nodes, or the field that a node becomes. References are looked up in the
document. No pointer is in flight at the start.

A conversion gives a result for every document, with the notices of what could not be expressed. It
is refused only where a value that is no JSON stands under `enum` or `const`.
-/

namespace ToolSchema

namespace Convert

/-- The schema of a node of the document `root`. -/
def node (root value : Json) (name : Label) (description : Json) :
    Except Fault (Schema Label × List Notice) :=
  (buildSchema root [] value name description).conclude

/-- What a node of the document `root` is as a field of this name, if it gives one. -/
def slot (root value name : Json) (required : Bool) (description : Json) :
    Except Fault (Option (Slot (Schema Label)) × List Notice) :=
  (buildSlot root [] value name required description).conclude

/-- The schema of a whole document. `name` is used where the document has no title. -/
def document (root : Json) (name : Label) : Except Fault (Schema Label × List Notice) :=
  node root root name .null

end Convert

end ToolSchema
