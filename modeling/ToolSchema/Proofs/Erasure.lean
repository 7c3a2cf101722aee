import ToolSchema.Convert.Trace
import ToolSchema.Proofs.Drawing

/-!
# Values with drawn names

A program may draw names while it builds a value. What it gives is the value with names in the open
places: without them it is the value again, and those that were drawn are among the names that the
program took from its supply, in order.

* `Erasure` — how names are taken from a value, and which of them were drawn
* `Convert.Builds` — a program builds a value with names in the open places
* `Convert.Builds.apart` — no two of the places have the same drawn name
-/

namespace ToolSchema

/-! ## Values with names -/

/-- How to take the names from a value, and which of its names were drawn. -/
structure Erasure (α β : Type) where
  erase : α → β
  drawn : α → List String

namespace Erasure

variable {α β : Type}

def schema : Erasure (Schema NodeName) (Schema Label) := ⟨Schema.map NodeName.label, Schema.drawn⟩

def slot : Erasure (Slot (Schema NodeName)) (Slot (Schema Label)) where
  erase slot := ⟨slot.description, slot.schema.map NodeName.label, slot.isOptional⟩
  drawn slot := slot.schema.drawn

def field : Erasure (Field (Schema NodeName)) (Field (Schema Label)) where
  erase field := ⟨field.name, field.description, field.schema.map NodeName.label, field.isOptional⟩
  drawn field := field.schema.drawn

def option (e : Erasure α β) : Erasure (Option α) (Option β) where
  erase value := value.map e.erase
  drawn value := value.elim [] e.drawn

def list (e : Erasure α β) : Erasure (List α) (List β) where
  erase values := values.map e.erase
  drawn values := values.flatMap e.drawn

/-- Without the places that are empty, there are the same names. -/
theorem drawn_filterMap (e : Erasure α β) (values : List (Option α)) :
    e.list.drawn (values.filterMap id) = e.option.list.drawn values := by
  induction values with
  | nil => rfl
  | cons value rest ih =>
    cases value with
    | none => exact ih
    | some value => exact congrArg (e.drawn value ++ ·) ih

theorem erase_filterMap (e : Erasure α β) (values : List (Option α)) :
    e.list.erase (values.filterMap id) = (e.option.list.erase values).filterMap id := by
  induction values with
  | nil => rfl
  | cons value rest ih =>
    cases value with
    | none => exact ih
    | some value => exact congrArg (e.erase value :: ·) ih

end Erasure

namespace Schema

variable {ν μ : Type}

theorem mapBranches_eq_map (f : ν → μ) (branches : List (Schema ν)) :
    mapBranches f branches = branches.map (Schema.map f) := by
  induction branches with
  | nil => rfl
  | cons branch rest ih => rw [mapBranches, ih, List.map_cons]

theorem mapFields_eq_map (f : ν → μ) (fields : List (Field (Schema ν))) :
    mapFields f fields = fields.map (fun field =>
      ⟨field.name, field.description, field.schema.map f, field.isOptional⟩) := by
  induction fields with
  | nil => rfl
  | cons field rest ih =>
    obtain ⟨name, description, schema, isOptional⟩ := field
    rw [mapFields, ih, List.map_cons]

theorem namesOfBranches_eq_flatMap (branches : List (Schema ν)) :
    namesOfBranches branches = branches.flatMap names := by
  induction branches with
  | nil => rfl
  | cons branch rest ih => rw [namesOfBranches, ih, List.flatMap_cons]

theorem namesOfFields_eq_flatMap (fields : List (Field (Schema ν))) :
    namesOfFields fields = fields.flatMap (fun field => field.schema.names) := by
  induction fields with
  | nil => rfl
  | cons field rest ih =>
    obtain ⟨name, description, schema, isOptional⟩ := field
    rw [namesOfFields, ih, List.flatMap_cons]

theorem drawn_union (name : NodeName) (description : Json) (branches : List (Schema NodeName)) :
    (union name description branches).drawn =
      name.drawn?.toList ++ Erasure.schema.list.drawn branches := by
  rw [drawn, names, drawn_cons, namesOfBranches_eq_flatMap, List.filterMap_flatMap]
  rfl

theorem drawn_object (name : NodeName) (description : Json)
    (fields : List (Field (Schema NodeName))) :
    (object name description fields).drawn =
      name.drawn?.toList ++ Erasure.field.list.drawn fields := by
  rw [drawn, names, drawn_cons, namesOfFields_eq_flatMap, List.filterMap_flatMap]
  rfl

end Schema

/-! ## Constants and names -/

namespace Schema

/-- A leaf, or a union of leaves with this name. -/
inductive OfConstants (name : ν) : Schema ν → Prop
  | leaf (kind : Primitive) (constraint : Option Constraint) :
    OfConstants name (.leaf kind constraint)
  | union (description : Json) {branches : List (Schema ν)}
    (leaves : ∀ branch ∈ branches, ∃ kind constraint, branch = .leaf kind constraint) :
    OfConstants name (.union name description branches)

/-- Another name for constants is taken back by the label it has. -/
theorem OfConstants.map_label {name : NodeName} {schema : Schema Label}
    (h : schema.OfConstants name.label) :
    (schema.map (fun _ => name)).map NodeName.label = schema := by
  cases h with
  | leaf kind constraint => rfl
  | union description leaves =>
    rw [Schema.map, Schema.map, mapBranches_eq_map, mapBranches_eq_map, List.map_map]
    refine congrArg (Schema.union name.label description)
      ((List.map_congr_left (fun branch hb => ?_)).trans (List.map_id _))
    obtain ⟨kind, constraint, rfl⟩ := leaves branch hb
    rfl

theorem OfConstants.drawn_map {name : NodeName} {schema : Schema Label}
    (h : schema.OfConstants name.label) :
    (schema.map (fun _ => name)).drawn.Sublist name.drawn?.toList := by
  cases h with
  | leaf kind constraint => exact List.nil_sublist _
  | @union description branches leaves =>
    have hnone : Erasure.schema.list.drawn (branches.map (Schema.map (fun _ => name))) = [] := by
      refine List.flatMap_eq_nil_iff.mpr (fun mapped hm => ?_)
      obtain ⟨branch, hb, rfl⟩ := List.mem_map.mp hm
      obtain ⟨kind, constraint, rfl⟩ := leaves branch hb
      rfl
    rw [Schema.map, drawn_union, mapBranches_eq_map, hnone, List.append_nil]

end Schema

/-! ## Programs that build -/

/-- Programs that draw names. -/
abbrev Drawing := StateT Supply Option

/-- The results of programs one after another. -/
def Drawing.all {α γ : Type} (f : γ → Drawing (Traced α)) (items : List γ) :
    Drawing (Traced (List α)) := do
  return Traced.sequence (← items.mapM f)

namespace Convert

variable {α α' β β' γ : Type} {e : Erasure α β} {e' : Erasure α' β'}

/-- The value is the built one with names, and the drawn ones are among these, in order. -/
structure IsNamed (e : Erasure α β) (built : Traced β) (value : Traced α) (names : List String) :
    Prop where
  trace : value.trace = built.trace
  erase : e.erase value.value = built.value
  drawn : (e.drawn value.value).Sublist names

/-- Wherever enough names are left, the program builds this value, with names. -/
def Builds (e : Erasure α β) (program : Drawing (Traced α)) (built : Traced β) : Prop :=
  ∃ count, Supply.Draws count (IsNamed e built) program

variable {program : Drawing (Traced α)} {built : Traced β}

theorem builds_pure {value : Traced α} (htrace : value.trace = built.trace)
    (herase : e.erase value.value = built.value) (hdrawn : e.drawn value.value = []) :
    Builds e (pure value) built :=
  ⟨0, Supply.draws_pure ⟨htrace, herase, hdrawn ▸ List.Sublist.slnil⟩⟩

/-- What is made of a value, and what is recorded besides, changes nothing about the names. -/
theorem Builds.map (h : Builds e program built) {f : α → α'} {g : β → β'}
    (record : List Mark → List Mark) (herase : ∀ value, e'.erase (f value) = g (e.erase value))
    (hdrawn : ∀ value, e'.drawn (f value) = e.drawn value) :
    Builds e' (do let built ← program; return ⟨f built.value, record built.trace⟩)
      ⟨g built.value, record built.trace⟩ := by
  obtain ⟨count, h⟩ := h
  refine ⟨count, h.map (fun value names hvalue => ⟨congrArg record hvalue.trace, ?_, ?_⟩)⟩
  · exact (herase value.value).trans (congrArg g hvalue.erase)
  · exact (hdrawn value.value).symm ▸ hvalue.drawn

/-- A notice in front changes nothing about the names. -/
theorem Builds.after (h : Builds e program built) (notice : Option Notice) :
    Builds e (do return (← program).after notice) (built.after notice) :=
  h.map (f := id) (g := id) ((notice.map Mark.notice).toList ++ ·) (fun _ => rfl) (fun _ => rfl)

/-- A name is drawn before what is below it is built. -/
theorem Builds.titled (h : Builds e program built) (label : Label) {f : NodeName → α → α'}
    {g : Label → β → β'}
    (herase : ∀ name value, e'.erase (f name value) = g name.label (e.erase value))
    (hdrawn : ∀ name value, e'.drawn (f name value) = name.drawn?.toList ++ e.drawn value) :
    Builds e' (do let name ← label.draw; return (← program).map (f name))
      (built.map (g label)) := by
  obtain ⟨count, h⟩ := h
  refine ⟨label.demand + count, label.draws_draw.bind ?_⟩
  rintro name _ ⟨rfl, rfl⟩
  refine h.map (fun value names hvalue => ⟨hvalue.trace, ?_, ?_⟩)
  · exact (herase name value.value).trans (congrArg (g name.label) hvalue.erase)
  · exact (hdrawn name value.value).symm ▸ (List.Sublist.refl _).append hvalue.drawn

/-- Results that are built one by one are built one after another. -/
theorem Builds.all {f : γ → Drawing (Traced α)} {call : γ → Option (Traced β)} {items : List γ}
    (h : ∀ item ∈ items, ∀ result, call item = some result → Builds e (f item) result)
    {results : List (Traced β)} (hc : items.mapM call = some results) :
    Builds e.list (Drawing.all f items) (Traced.sequence results) := by
  -- Each program draws what it needs from what the ones before it left, so the numbers add up.
  have hmapM : ∃ count, Supply.Draws count (fun values names =>
      IsNamed e.list (Traced.sequence results) (Traced.sequence values) names)
        (items.mapM f) := by
    induction items generalizing results with
    | nil =>
      cases hc
      exact ⟨0, Supply.draws_pure ⟨rfl, rfl, List.Sublist.slnil⟩⟩
    | cons item rest ih =>
      rw [List.forall_mem_cons] at h
      rw [List.mapM_cons] at hc ⊢
      obtain ⟨first, hfirst, hc⟩ := Option.bind_eq_some_iff.mp hc
      obtain ⟨others, hothers, hc⟩ := Option.bind_eq_some_iff.mp hc
      cases hc
      obtain ⟨m, hitem⟩ := h.1 first hfirst
      obtain ⟨n, hrest⟩ := ih h.2 hothers
      refine ⟨m + n, hitem.bind (fun value front hvalue => hrest.map ?_)⟩
      intro values back hvalues
      refine ⟨?_, ?_, ?_⟩
      · exact congrArg₂ (· ++ ·) hvalue.trace hvalues.trace
      · exact congrArg₂ (· :: ·) hvalue.erase hvalues.erase
      · exact hvalue.drawn.append hvalues.drawn
  obtain ⟨count, hmapM⟩ := hmapM
  exact ⟨count, hmapM.map (fun _ _ hvalues => hvalues)⟩

/-! ## Names for one place only -/

/-- The program draws some number of names. With that many different candidates it builds the value,
with names in the open places: no two places have the same drawn name, and the drawn ones are among
the first of the candidates, in order. With fewer it gives none. -/
def BuildsApart (e : Erasure α β) (program : Drawing (Traced α)) (built : Traced β) : Prop :=
  ∃ count, ∀ candidates : List String,
    (count ≤ candidates.eraseDups.length → ∃ value rest,
      program (.ofCandidates candidates) = some (value, rest) ∧
      value.trace = built.trace ∧ e.erase value.value = built.value ∧
      (e.drawn value.value).Nodup ∧
      (e.drawn value.value).Sublist (candidates.eraseDups.take count) ∧
      rest.fresh = candidates.eraseDups.drop count) ∧
    (candidates.eraseDups.length < count → program (.ofCandidates candidates) = none)

theorem Builds.apart (h : Builds e program built) : BuildsApart e program built := by
  obtain ⟨count, h⟩ := h
  refine ⟨count, fun candidates => ⟨fun hleft => ?_, fun hless => ?_⟩⟩
  · rw [← Supply.fresh_ofCandidates] at hleft ⊢
    obtain ⟨value, rest, hvalue, hrest, hnamed⟩ := h.enough _ hleft
    refine ⟨value, rest, hvalue, hnamed.trace, hnamed.erase, ?_, hnamed.drawn, hrest⟩
    exact (hnamed.drawn.trans (List.take_sublist _ _)).nodup (Supply.nodup_fresh _)
  · rw [← Supply.fresh_ofCandidates] at hless
    exact h.short _ hless

end Convert

end ToolSchema
