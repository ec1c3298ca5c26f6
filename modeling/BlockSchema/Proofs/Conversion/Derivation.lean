import BlockSchema.Conversion.Basic
import BlockSchema.Proofs.Graph.Derivation

/-!
Contract: the conversion of a node, and what a derivation of conversions gives.

The conversion of a node depends on the node alone. A derivation that remembers
conversions gives it, or the first fault that stands in its way.
-/

set_option autoImplicit false

namespace BlockSchema

/-! ## Conversions by themselves -/

/-- The entry of a field, once its shape has the conversion of the nested type. -/
def FieldConversion.ofField (field : FieldNode Conversion) : FieldConversion Conversion :=
  ⟨field.declared, field.external, field.shape, !field.effects.computedOnly⟩

/-- The conversion of a node. -/
def TypeNode.conversion (node : TypeNode) : Conversion :=
  node.fold fun node fields => ⟨node.id, fields.map FieldConversion.ofField, node.excluded⟩

/-- The entry of a field of a node. -/
def FieldNode.conversion (field : FieldNode TypeNode) : FieldConversion Conversion :=
  .ofField (field.withShape (field.shape.map TypeNode.conversion))

theorem TypeNode.conversion_eq (node : TypeNode) :
    node.conversion = ⟨node.id, node.fields.map FieldNode.conversion, node.excluded⟩ := by
  rw [conversion, fold_eq, List.map_map]
  rfl

@[simp] theorem TypeNode.conversion_typeId (node : TypeNode) :
    node.conversion.typeId = node.id := by
  rw [TypeNode.conversion_eq]

/-- Among the conversions of some coherent nodes every one is found by its type. -/
theorem Coherent.find?_conversion
    {nodes : List TypeNode}
    (coherent : Coherent nodes)
    {conversions : List Conversion}
    (conversionOf : ∀ node ∈ nodes, node.conversion ∈ conversions)
    (nodeOf : ∀ conversion ∈ conversions, ∃ node ∈ nodes, node.conversion = conversion)
    {node : TypeNode}
    (member : node ∈ nodes) :
    conversions.find? (fun conversion => conversion.typeId = node.id) = some node.conversion := by
  cases found : conversions.find? fun conversion => conversion.typeId = node.id with
  | none =>
      have absent := List.find?_eq_none.mp found node.conversion (conversionOf node member)
      simp at absent
  | some conversion =>
      obtain ⟨other, otherMember, rfl⟩ := nodeOf _ (List.mem_of_find?_eq_some found)
      have sameId : other.id = node.id := by simpa using List.find?_some found
      rw [coherent.eq_of_id_eq other otherMember node member sameId]

/-- Why a field cannot be converted: a fault of its own, else one below it. -/
def FieldNode.conversionFault?
    (owner : TypeId)
    (field : FieldNode TypeNode)
    (below : Option CompileError) :
    Option CompileError :=
  (field.roundTripFault?.map fun fault => .roundTrip (.field owner field.declared) fault).or below

/-- The first fault, in the order of the fields, that stands in the way of a node's
conversion. -/
def TypeNode.conversionFault? (node : TypeNode) : Option CompileError :=
  node.fold fun node below =>
    (node.fields.zip below).findSome? fun field =>
      field.1.conversionFault? node.id field.2.shape.nested?.join

/-- The first fault of a field of a node, or below it. -/
def FieldNode.faultAtOrBelow? (owner : TypeId) (field : FieldNode TypeNode) :
    Option CompileError :=
  field.conversionFault? owner (field.shape.nested?.bind TypeNode.conversionFault?)

theorem TypeNode.conversionFault?_eq (node : TypeNode) :
    node.conversionFault? = node.fields.findSome? (FieldNode.faultAtOrBelow? node.id) := by
  rw [conversionFault?, fold_eq, Results.findSome?_zip_map]
  congr
  funext field
  rw [FieldNode.faultAtOrBelow?, FieldNode.withShape, FieldShape.nested?_map]
  cases field.shape.nested? <;> rfl

/-- The conversion of a node, or the first fault in its way. -/
def TypeNode.converted (node : TypeNode) : Except CompileError Conversion :=
  Results.refuseFor node.conversionFault? node.conversion

theorem TypeNode.converted_eq_ok {node : TypeNode} {conversion : Conversion} :
    node.converted = .ok conversion ↔
      node.conversionFault? = none ∧ node.conversion = conversion :=
  Results.refuseFor_eq_ok

/-! ## Derivations -/

private theorem FieldNode.checkRoundTrip_eq (owner : TypeId) (field : FieldNode TypeNode) :
    field.checkRoundTrip owner =
      Results.refuseFor
        (field.roundTripFault?.map fun fault => .roundTrip (.field owner field.declared) fault)
        () := by
  unfold checkRoundTrip
  cases field.roundTripFault? <;> rfl

theorem Conversion.deriveField_eq (owner : TypeId) (field : FieldNode TypeNode) :
    Conversion.deriveField owner field =
      (Building.ofExcept (field.checkRoundTrip owner)).bind fun _ =>
        (Conversion.deriveTarget field.shape.target).bind fun nested =>
          Building.pure
            ⟨field.declared, field.external, ⟨field.shape.arity, nested⟩,
              !field.effects.computedOnly⟩ := by
  obtain ⟨declared, external, ⟨arity, target⟩, effects, version, description⟩ := field
  rfl

private theorem Conversion.deriveFields_eq_each
    (owner : TypeId)
    (fields : List (FieldNode TypeNode)) :
    Conversion.deriveFields owner fields = Building.each (Conversion.deriveField owner) fields := by
  induction fields with
  | nil => rfl
  | cons field rest inductionHypothesis =>
      rw [Conversion.deriveFields, inductionHypothesis]
      rfl

theorem Conversion.derive_eq (node : TypeNode) :
    Conversion.derive node =
      Building.once (fun conversion => conversion.typeId == node.id)
        ((Building.each (Conversion.deriveField node.id) node.fields).bind fun entries =>
          Building.pure ⟨node.id, entries, node.excluded⟩) := by
  cases node with
  | mk => rw [Conversion.derive, Conversion.deriveFields_eq_each]

section Derivations

variable {nodes : List TypeNode}

private theorem Conversion.deriveTarget_advances
    (target : Target TypeNode)
    (derivedBelow : ∀ inner, target.nested? = some inner →
      DerivesAlone TypeNode.converted nodes Conversion.derive inner)
    {built : List Conversion}
    (remembers : Remembers TypeNode.converted nodes built) :
    Building.Advances (Remembers TypeNode.converted nodes) built
      (Conversion.deriveTarget target built) fun result _ =>
        result = Results.refuseFor (target.nested?.bind TypeNode.conversionFault?)
          (target.map TypeNode.conversion) := by
  cases target with
  | scalar type => exact .pure remembers rfl
  | struct inner =>
      have alone : Results.refuseFor inner.conversionFault? (Target.struct inner.conversion) =
          inner.converted.bind fun conversion => .ok (.struct conversion) :=
        (Results.map_refuseFor _ _ _).symm
      change Building.Advances _ _ _ fun result _ =>
        result = Results.refuseFor inner.conversionFault? (Target.struct inner.conversion)
      rw [alone]
      exact .bindAlone ((derivedBelow inner rfl built remembers).weaken And.left)
        fun conversion later keeps => .pure keeps rfl

/-- An entry is derived as it is by itself, when the conversion below it is. -/
theorem Conversion.deriveField_advances
    (owner : TypeId)
    (field : FieldNode TypeNode)
    (derivedBelow : ∀ inner, field.shape.nested? = some inner →
      DerivesAlone TypeNode.converted nodes Conversion.derive inner)
    {built : List Conversion}
    (remembers : Remembers TypeNode.converted nodes built) :
    Building.Advances (Remembers TypeNode.converted nodes) built
      (Conversion.deriveField owner field built) fun result _ =>
        result = Results.refuseFor (field.faultAtOrBelow? owner) field.conversion := by
  have alone : Results.refuseFor (field.faultAtOrBelow? owner) field.conversion =
      (field.checkRoundTrip owner).bind fun _ =>
        (Results.refuseFor (field.shape.target.nested?.bind TypeNode.conversionFault?)
          (field.shape.target.map TypeNode.conversion)).map fun nested =>
            ⟨field.declared, field.external, ⟨field.shape.arity, nested⟩,
              !field.effects.computedOnly⟩ := by
    rw [FieldNode.faultAtOrBelow?, FieldNode.conversionFault?, FieldNode.checkRoundTrip_eq,
      Results.map_refuseFor, Results.bind_refuseFor]
    rfl
  rw [Conversion.deriveField_eq, alone]
  refine .bindAlone (.ofExcept remembers rfl) fun _ between keeps => ?_
  exact .bindAlone (Conversion.deriveTarget_advances _ derivedBelow keeps)
    fun nested later keepsLater => .pure keepsLater rfl

/-- Deriving the conversion of one of some coherent nodes gives it, or the first fault in
its way, whatever of the nodes was derived before. -/
theorem Conversion.derive_alone
    (coherent : Coherent nodes)
    (node : TypeNode)
    (member : node ∈ nodes) :
    DerivesAlone TypeNode.converted nodes Conversion.derive node := by
  induction node using TypeNode.induction with
  | step node inductionHypothesis =>
      intro built remembers
      rw [Conversion.derive_eq]
      refine coherent.once_advances ?typed member remembers ?made
      case typed =>
        intro other conversion given
        obtain ⟨_, rfl⟩ := TypeNode.converted_eq_ok.mp given
        rw [TypeNode.conversion_eq]
      case made =>
        have fields := Building.Advances.eachAlone node.fields
          (fun field fieldMember before keeps =>
            Conversion.deriveField_advances node.id field
              (fun inner isNested =>
                have nests := TypeNode.mem_nested.mpr ⟨field, fieldMember, isNested⟩
                inductionHypothesis inner nests (coherent.nested_mem node member inner nests))
              keeps)
          remembers
        have alone : node.converted =
            (node.fields.mapM fun field =>
              Results.refuseFor (field.faultAtOrBelow? node.id) field.conversion).bind
                fun entries => .ok ⟨node.id, entries, node.excluded⟩ := by
          rw [TypeNode.converted, TypeNode.conversionFault?_eq, TypeNode.conversion_eq,
            Results.mapM_refuseFor]
          exact (Results.map_refuseFor (Conversion.mk node.id · node.excluded) _ _).symm
        rw [alone]
        exact .bindAlone fields fun entries later keeps => .pure keeps rfl

end Derivations

end BlockSchema
