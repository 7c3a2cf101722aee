import ToolSchema.Tool

/-!
# Toolboxes

The tools of a conversation, by name. Names are values of any kind that can be keys. Of two tools
with the same name the later one counts, at the place and under the name of the earlier one.
-/

namespace ToolSchema

/-- Tools under different names, in order. -/
structure Toolbox where
  entries : Entries Descriptor
  deriving Repr

namespace Toolbox

/-- The names of the tools, in order. -/
def names (toolbox : Toolbox) : List Json := toolbox.entries.map Prod.fst

/-- The toolbox with another tool in it. -/
def insert (toolbox : Toolbox) (tool : Descriptor) : Except Fault Toolbox := do
  return ⟨toolbox.entries.put (← tool.name.hashable) tool⟩

/-- The toolbox of a list of tools. -/
def ofList (tools : List Descriptor) : Except Fault Toolbox := tools.foldlM insert ⟨[]⟩

/-- The tool of a name. -/
def find? (toolbox : Toolbox) (name : Json) : Except Fault (Option Descriptor) := do
  return toolbox.entries.find? (← name.hashable)

/-- The definitions of the tools, in order. -/
def definitions (naming : Naming) (toolbox : Toolbox) : Except Fault (List Json) :=
  toolbox.entries.mapM (fun entry => entry.2.definition naming)

end Toolbox

end ToolSchema
