/-!
# The release

What the program says about itself.
-/

namespace ToolSchema

/-- The name of the command. -/
def programName : String := "schema-bridge"

/-- The version of the program. -/
def programVersion : String := "0.1.0"

end ToolSchema
