import ToolSchema.Proofs.Everywhere

/-!
# Overlays along a chain of references

A chain leads from reference to reference to an object that is none. What is next to the references
on the way lies over that object, layer by layer, the first reference on top: under each key stands
what the topmost layer has there, and the keys are in the order in which the layers were put on
(`Json.dereference_chain`).

Following goes the other way. It starts with the topmost layer and carries what it has gathered on
to the next target, so that the overlays come in the other grouping (`Members.overlay_assoc`).
-/

namespace ToolSchema

namespace Members

/-! ## Overlays of overlays -/

theorem overlay_nil (low : Members) : low.overlay [] = low := by
  simp [overlay]

theorem nil_overlay (top : Members) : Members.overlay [] top = top := by
  simp [overlay]

theorem hasKey_iff {members : Members} {key : String} :
    members.hasKey key = true ↔ key ∈ members.keys := by
  simp [hasKey, keys]

theorem hasKey_overlay (low top : Members) (key : String) :
    (low.overlay top).hasKey key = (low.hasKey key || top.hasKey key) := by
  rw [Bool.eq_iff_iff, Bool.or_eq_true, hasKey_iff, hasKey_iff, hasKey_iff, keys_overlay,
    List.mem_append, List.mem_filter, decide_eq_true_eq]
  by_cases hl : key ∈ low.keys <;> simp [hl]

theorem hasKey_erase_of_ne {members : Members} {key other : String} (h : other ≠ key) :
    (members.erase key).hasKey other = members.hasKey other := by
  rw [Bool.eq_iff_iff, hasKey, hasKey, List.any_eq_true, List.any_eq_true]
  refine exists_congr (fun member => ?_)
  rw [erase, List.mem_filter, and_assoc]
  refine and_congr_right (fun _ => and_iff_right_of_imp (fun hk => ?_))
  rw [beq_iff_eq] at hk
  rwa [bne_iff_ne, hk]

/-- What is put over an overlay may be put over its upper part first. -/
theorem overlay_assoc (low middle top : Members) :
    (low.overlay middle).overlay top = low.overlay (middle.overlay top) := by
  have hold : ∀ member : String × Json,
      (top.lookup member.1).getD ((middle.lookup member.1).getD member.2) =
        ((middle.overlay top).lookup member.1).getD member.2 := by
    intro member
    rw [lookup_overlay]
    cases top.lookup member.1 <;> rfl
  have hnew : ∀ member : String × Json, (!(low.overlay middle).hasKey member.1) =
      (!low.hasKey member.1 && !middle.hasKey member.1) := by
    intro member
    rw [hasKey_overlay, Bool.not_or]
  show ((low.overlay middle).map _ ++ top.filter (fun member => !(low.overlay middle).hasKey _)) =
    low.map _ ++ (middle.overlay top).filter (fun member => !low.hasKey _)
  simp only [hnew, ← hold]
  simp only [overlay, List.map_append, List.map_map, List.filter_append, List.filter_map,
    List.filter_filter, List.append_assoc]
  rfl

/-- A key that the upper members lack may be erased from the lower ones beforehand. -/
theorem erase_overlay {low top : Members} {key : String} (h : top.lookup key = none) :
    (low.overlay top).erase key = (low.erase key).overlay top := by
  have hnew : (top.filter (fun member => !low.hasKey member.1)).filter (fun member =>
      member.1 != key) = top.filter (fun member => !(low.erase key).hasKey member.1) := by
    rw [List.filter_filter]
    refine List.filter_congr (fun member hm => ?_)
    have hne : member.1 ≠ key := fun hk => by
      have hother := List.lookup_eq_none_iff.mp h member hm
      rw [hk, bne_self_eq_false] at hother
      cases hother
    rw [hasKey_erase_of_ne hne, bne_iff_ne.mpr hne, Bool.true_and]
  rw [erase, overlay, List.filter_append, List.filter_map]
  exact congrArg (_ ++ ·) hnew

/-! ## Layers -/

/-- The layers one over the other, the first one on top. -/
def stack : List Members → Members
  | [] => []
  | layer :: below => (stack below).overlay layer

/-- The keys of layers: those of the lowest one, then the new keys of each layer above it. -/
def stackedKeys : List Members → List String
  | [] => []
  | layer :: below => stackedKeys below ++ layer.keys.filter (· ∉ stackedKeys below)

/-- Under each key there is what the topmost layer with this key has. -/
theorem lookup_stack (layers : List Members) (key : String) :
    (stack layers).lookup key = layers.findSome? (·.lookup key) := by
  induction layers with
  | nil => rfl
  | cons layer below ih =>
    rw [stack, lookup_overlay, ih, List.findSome?_cons]
    cases layer.lookup key <;> rfl

theorem keys_stack (layers : List Members) : (stack layers).keys = stackedKeys layers := by
  induction layers with
  | nil => rfl
  | cons layer below ih => rw [stack, keys_overlay, ih, stackedKeys]

end Members

namespace Json

/-! ## Chains -/

/--
A chain of objects from a first one on, with the pointers between them: each object but the last is
a reference, and its pointer names the next one. The last object is no reference.
-/
inductive Chain (root : Json) : (first : Members) → (steps : List (String × Members)) → Prop where
  | last {first : Members} (hr : first.reference? = none) : Chain root first []
  | step {first next : Members} {pointer : String} {steps : List (String × Members)}
    (hr : first.reference? = some pointer) (hl : root.lookup pointer = some (.object next))
    (rest : Chain root next steps) : Chain root first ((pointer, next) :: steps)

/-- What the objects of a chain have, without the `$ref` of those that are references. -/
def layers (first : Members) : (steps : List (String × Members)) → List Members
  | [] => [first]
  | (_, next) :: rest => first.erase referenceKey :: layers next rest

/-- Only a local pointer names anything. -/
theorem isLocal_of_lookup {root found : Json} {pointer : String}
    (h : root.lookup pointer = some found) : Pointer.isLocal pointer = true := by
  simp only [lookup, Pointer.tokens?, Option.bind_eq_some_iff] at h
  obtain ⟨_, ⟨fragment, hf, _⟩, _⟩ := h
  rw [Pointer.isLocal, hf]
  rfl

/-- Members without `$ref` on top do not change whether an object is a reference. -/
theorem reference?_overlay (low : Members) {top : Members}
    (h : top.lookup referenceKey = none) : (low.overlay top).reference? = low.reference? := by
  rw [Members.reference?, Members.reference?, lookup_overlay_of_none h]

/--
Following a chain with something gathered on top of its first object. What is gathered has no
`$ref`, so that it does not change where the chain leads.
-/
theorem dereference_overlay {root : Json} {inFlight : List String} {first : Members}
    {steps : List (String × Members)} (h : Chain root first steps)
    (hnodup : (steps.map Prod.fst).Nodup)
    (hnew : ∀ pointer ∈ steps.map Prod.fst, pointer ∉ inFlight) {top : Members}
    (htop : top.lookup referenceKey = none) :
    dereference root inFlight (.object (first.overlay top)) =
      ⟨.object ((Members.stack (layers first steps)).overlay top), steps.map Prod.fst, none⟩ := by
  induction h generalizing inFlight top with
  | last hr =>
    rw [dereference_of_reference?_none ((reference?_overlay _ htop).trans hr), layers,
      Members.stack, Members.stack, Members.nil_overlay]
    rfl
  | @step first next pointer steps hr hl rest ih =>
    rw [List.map_cons, List.nodup_cons] at hnodup
    rw [List.map_cons, List.forall_mem_cons] at hnew
    -- What is gathered grows by this object without its `$ref` and stays without one.
    have hgathered : ((first.erase referenceKey).overlay top).lookup referenceKey = none := by
      rw [Members.lookup_overlay, htop, lookup_erase_self]
      rfl
    have htarget : target root inFlight (first.overlay top) pointer =
        .ok (.object (next.overlay ((first.erase referenceKey).overlay top))) := by
      refine target_eq_ok.mpr ⟨hnew.1, isLocal_of_lookup hl, .object next, hl, ?_⟩
      rw [overlaid, Members.erase_overlay htop]
    have hbelow : ∀ other ∈ steps.map Prod.fst, other ∉ pointer :: inFlight := by
      intro other ho hin
      rcases List.mem_cons.mp hin with rfl | hin
      · exact hnodup.1 ho
      · exact hnew.2 other ho hin
    rw [dereference_of_ok ((reference?_overlay first htop).trans hr) htarget,
      ih hnodup.2 hbelow hgathered, layers, Members.stack, Members.overlay_assoc]
    rfl

/--
**Along a chain the first writer of a key wins.** If the pointers of a chain are different and none
is in flight, all of them are followed. What results has under each key what the first object with
this key has, where the `$ref` of the references does not count, and its keys are those of the last
object, then the new keys of the one before it, and so on up to the first.
-/
theorem dereference_chain {root : Json} {inFlight : List String} {first : Members}
    {steps : List (String × Members)} (h : Chain root first steps)
    (hnodup : (steps.map Prod.fst).Nodup)
    (hnew : ∀ pointer ∈ steps.map Prod.fst, pointer ∉ inFlight) :
    ∃ merged : Members, dereference root inFlight (.object first) =
        ⟨.object merged, steps.map Prod.fst, none⟩ ∧
      (∀ key, merged.lookup key = (layers first steps).findSome? (·.lookup key)) ∧
      merged.keys = Members.stackedKeys (layers first steps) := by
  refine ⟨Members.stack (layers first steps), ?_, Members.lookup_stack _, Members.keys_stack _⟩
  have hchain := dereference_overlay h hnodup hnew List.lookup_nil
  rwa [Members.overlay_nil, Members.overlay_nil] at hchain

/-- A price is an amount, and an amount is a number. -/
def price : Members := [("$ref", .string "#/$defs/amount"), ("default", .int 0),
  ("description", .string "To pay")]

def amount : Members := [("title", .string "Amount"), ("$ref", .string "#/$defs/number"),
  ("minimum", .int 0)]

def number : Members := [("description", .string "Any number"), ("type", .string "number"),
  ("title", .string "Number")]

def priceList : Json := .object [("$defs", .object [("amount", .object amount),
  ("number", .object number)])]

theorem chain_price :
    Chain priceList price [("#/$defs/amount", amount), ("#/$defs/number", number)] := by
  have hamount : priceList.lookup "#/$defs/amount" = some (.object amount) := by decide +kernel
  have hnumber : priceList.lookup "#/$defs/number" = some (.object number) := by decide +kernel
  exact .step rfl hamount (.step rfl hnumber (.last rfl))

theorem dereference_chain_price :
    (Chain priceList price [("#/$defs/amount", amount), ("#/$defs/number", number)] ∧
      ["#/$defs/amount", "#/$defs/number"].Nodup ∧
      ∀ pointer ∈ ["#/$defs/amount", "#/$defs/number"], pointer ∉ ["#"]) ∧
    ∃ merged : Members, dereference priceList ["#"] (.object price) =
        ⟨.object merged, ["#/$defs/amount", "#/$defs/number"], none⟩ ∧
      merged.lookup "description" = some (.string "To pay") ∧
      merged.lookup "title" = some (.string "Amount") ∧
      merged.keys = ["description", "type", "title", "minimum", "default"] := by
  have hnodup : ["#/$defs/amount", "#/$defs/number"].Nodup := by decide
  have hnew : ∀ pointer ∈ ["#/$defs/amount", "#/$defs/number"], pointer ∉ ["#"] := by decide
  obtain ⟨merged, hmerged, hlookup, hkeys⟩ := dereference_chain chain_price hnodup hnew
  exact ⟨⟨chain_price, hnodup, hnew⟩, merged, hmerged, hlookup "description", hlookup "title",
    hkeys⟩

end Json

end ToolSchema
