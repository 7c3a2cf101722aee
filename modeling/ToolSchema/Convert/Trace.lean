import ToolSchema.Fault
import ToolSchema.Reference
import ToolSchema.Schema

/-!
# Traces

Building a schema never stops half-way. What there is to report is written down on the way, in
order: notices, and values that no schema can hold. A result with such a value in its trace is
refused at the end (`Traced.conclude`), with the first of them.
-/

namespace ToolSchema

/-- What a trace records. -/
inductive Mark where
  | notice (notice : Notice)
  /-- A value of this type stands under `enum` or `const`. -/
  | unsupported (typeName : String)
  deriving DecidableEq, Repr

/-- A result with what was recorded while it was built. -/
structure Traced (α : Type) where
  value : α
  trace : List Mark
  deriving DecidableEq, Repr

namespace Traced

variable {α β : Type}

def map (f : α → β) (traced : Traced α) : Traced β := ⟨f traced.value, traced.trace⟩

/-- The result with something recorded before all else. -/
def after (notice : Option Notice) (traced : Traced α) : Traced α :=
  ⟨traced.value, (notice.map Mark.notice).toList ++ traced.trace⟩

/-- Results one after another. -/
def sequence (results : List (Traced α)) : Traced (List α) :=
  ⟨results.map Traced.value, results.flatMap Traced.trace⟩

/-- The notices of a trace. -/
def notices (traced : Traced α) : List Notice :=
  traced.trace.filterMap (fun mark =>
    match mark with
    | .notice notice => some notice
    | .unsupported _ => none)

/-- The types of the values that no schema can hold. -/
def unsupported (traced : Traced α) : List String :=
  traced.trace.filterMap (fun mark =>
    match mark with
    | .notice _ => none
    | .unsupported typeName => some typeName)

/-- The result with its notices, unless a value was met that no schema can hold. -/
def conclude (traced : Traced α) : Except Fault (α × List Notice) :=
  match traced.unsupported with
  | [] => .ok (traced.value, traced.notices)
  | typeName :: _ => .error (.unsupportedValue typeName)

end Traced

end ToolSchema
