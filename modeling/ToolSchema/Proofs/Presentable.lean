import ToolSchema.Proofs.Drawing
import ToolSchema.Proofs.Sound

/-!
# Every conversion can be presented

Conversion never fails on a JSON document, however its keywords are filled and wherever its
references lead. Its schema is well formed; once it has its names, it can be put together from its
parts and rendered, both as a tagged tree and as a document of its own.
-/

namespace ToolSchema

/-- The name that a caller may give is none that is empty. -/
theorem Label.isName_ofName? (name : Option String) : (Label.ofName? name).IsName := by
  cases name with
  | none => exact trivial
  | some text =>
    by_cases ht : text = ""
    · subst ht
      exact trivial
    · have htruthy : (Json.string text).isTruthy = true := by simp [Json.isTruthy, ht]
      show (Label.ofName (.string text)).IsName
      rw [Label.ofName, if_pos htruthy]
      exact ⟨text, ht, rfl⟩

namespace Schema

/-- A well-formed schema with its names can be put together from its parts, and rendered. -/
structure Rendered (inField : Bool) (named : Schema Json) : Prop where
  wellFormed : named.WellFormed IsText inField
  noDefect : (Draft.ofSchema named).defect? = none
  tagged : (Draft.ofSchema named).tagged = .ok (named.tagged id)
  document : (Draft.ofSchema named).document = .ok (named.document id)

theorem WellFormed.rendered {inField : Bool} {named : Schema Json}
    (h : named.WellFormed IsText inField) : named.Rendered inField where
  wellFormed := h
  noDefect := Draft.defect?_ofSchema named h
  tagged := Draft.tagged_ofSchema named
  document := by
    rw [Draft.document, Draft.documentMembers_ofSchema]
    rfl

/-- A schema is well formed, and every supply with enough names leads to one that is rendered. -/
structure Presentable (inField : Bool) (schema : Schema Label) : Prop where
  wellFormed : schema.WellFormed Label.IsName inField
  rendered : ∀ supply : Supply, supply.NonEmpty → schema.names.count .generated ≤ supply.left →
    ∃ named rest, schema.nameFrom supply = some (named, rest) ∧ named.Rendered inField

theorem WellFormed.presentable {inField : Bool} {schema : Schema Label}
    (h : schema.WellFormed Label.IsName inField) : schema.Presentable inField := by
  refine ⟨h, fun supply hs hleft => ?_⟩
  obtain ⟨named, rest, hn, _⟩ := exists_nameFrom schema supply hleft
  exact ⟨named, rest, hn, ((WellFormed.nameFrom schema hs hn).1 h).rendered⟩

end Schema

namespace Convert

/-- A sound schema is concluded, and can be presented. -/
theorem Sound.conclude {inField : Bool} {built : Traced (Schema Label)} (h : Sound inField built) :
    ∃ schema notices, built.conclude = .ok (schema, notices) ∧ schema.Presentable inField :=
  ⟨built.value, built.notices, Traced.conclude_eq_ok h.supported, h.wellFormed.presentable⟩

theorem SlotSound.conclude {built : Traced (Option (Slot (Schema Label)))} (h : SlotSound built) :
    ∃ slot notices, built.conclude = .ok (slot, notices) ∧
      ∀ kept, slot = some kept → kept.schema.Presentable true :=
  ⟨built.value, built.notices, Traced.conclude_eq_ok h.supported,
    fun kept hk => (h.wellFormed kept hk).presentable⟩

/--
**Conversion never fails on JSON, and gives schemas that can be presented**: of the document, of any
node, and of any node as a field. Keywords may hold values of any kind, byte strings included, and
references may dangle or run in circles.

Neither the depth to which a document may nest is limited here, nor the length of an integer that is
written into a notice.
-/
theorem conversion_presentable {root value : Json} (hroot : root.IsDocument)
    (hvalue : value.IsDocument) (name : Option String) (field : String) (required : Bool)
    (description : Json) :
    (∃ schema notices, document root (.ofName? name) = .ok (schema, notices) ∧
      schema.Presentable false) ∧
    (∃ schema notices, node root value (.ofName? name) description = .ok (schema, notices) ∧
      schema.Presentable false) ∧
    (∃ built notices, slot root value (.string field) required description = .ok (built, notices) ∧
      ∀ kept, built = some kept → kept.schema.Presentable true) := by
  obtain ⟨hschema, hslot⟩ := sound_build hroot
  have hname := Label.isName_ofName? name
  refine ⟨?_, ?_, ?_⟩
  · exact (hschema [] root (.ofName? name) .null hroot hname).conclude
  · exact (hschema [] value (.ofName? name) description hvalue hname).conclude
  · exact (hslot [] value (.string field) required description hvalue).conclude

/-- A node that is a reference to itself, with values of the wrong kinds at its keywords. -/
def entangled : Json := .object [
  ("$ref", .string "#"),
  ("type", .array [.string "array", .string "object", .null]),
  ("enum", .array [.binary [255], .string "on"]),
  ("properties", .object [("", .object [("$ref", .string "#/enum/0")]),
    ("next", .object [("$ref", .string "#")])]),
  ("minItems", .int 3),
  ("maxItems", .int (-1))]

/-- The entangled node is a JSON document, and every conversion of it can be presented. -/
theorem presentable_entangled : entangled.IsDocument ∧
    (∃ schema notices, document entangled (.ofName? (some "tree")) = .ok (schema, notices) ∧
      schema.Presentable false) ∧
    (∃ schema notices, node entangled entangled (.ofName? (some "tree")) .null =
      .ok (schema, notices) ∧ schema.Presentable false) ∧
    (∃ built notices, slot entangled entangled (.string "") true .null = .ok (built, notices) ∧
      ∀ kept, built = some kept → kept.schema.Presentable true) := by
  have hdocument : entangled.IsDocument := by decide
  exact ⟨hdocument, conversion_presentable hdocument hdocument (some "tree") "" true .null⟩

end Convert

end ToolSchema
