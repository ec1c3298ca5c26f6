import BlockSchema.Proofs.Routine.Holding

/-!
Contract: a model that any emitted source can be compiled with.

Named scalar types are their base types, members are zero by default, and maps give their
entries backwards. The model serves conversions whose structures and members have names of
their own.
-/

set_option autoImplicit false

namespace BlockSchema

/-- Values of a model whose named scalar types are their base types. -/
abbrev PlainDatum := ModelValue ((kind : ScalarKind) × kind.Base)

mutual

/-- The structure of such a model that stands for no value of a type. -/
def Conversion.zeroDatum : Conversion → PlainDatum
  | ⟨typeId, fields, _⟩ => .record typeId.modelName (Conversion.zeroMembers fields)

def Conversion.zeroMembers : List (FieldConversion Conversion) → Entries PlainDatum
  | [] => []
  | ⟨declared, _, shape, _⟩ :: rest =>
      (Name.member declared, Conversion.zeroMember shape) :: Conversion.zeroMembers rest

def Conversion.zeroMember : FieldShape Conversion → PlainDatum
  | ⟨.plain, .scalar type⟩ =>
      if type.named.isSome then .named ⟨type.kind, type.kind.blank⟩
      else .base type.kind type.kind.blank
  | ⟨.plain, .struct nested⟩ => nested.zeroDatum
  | ⟨.pointer, _⟩ => .option none
  | ⟨.list, _⟩ => .list []
  | ⟨.map, _⟩ => .map []

end

private theorem Conversion.zeroMembers_eq_map (fields : List (FieldConversion Conversion)) :
    Conversion.zeroMembers fields = fields.map fun field =>
      (Name.member field.declared, Conversion.zeroMember field.shape) := by
  induction fields with
  | nil => rfl
  | cons field rest inductionHypothesis =>
      rw [Conversion.zeroMembers, inductionHypothesis, List.map_cons]

private theorem Conversion.zeroDatum_eq (conversion : Conversion) :
    conversion.zeroDatum = .record conversion.typeId.modelName (conversion.fields.map fun field =>
      (Name.member field.declared, Conversion.zeroMember field.shape)) := by
  cases conversion with
  | mk => rw [Conversion.zeroDatum, Conversion.zeroMembers_eq_map]

namespace Model

/-- The plain model for some conversions. -/
def plain (conversions : List Conversion) : Model where
  Named := (kind : ScalarKind) × kind.Base
  wrap _ kind value := ⟨kind, value⟩
  unwrap kind value := if same : value.1 = kind then some (same ▸ value.2) else none
  collect _ entries := (Entries.sortedOfList entries).reverse
  memberDefault place :=
    ((conversions.find? fun conversion => conversion.typeId.modelName = place.struct).bind
      fun conversion => (Conversion.zeroMembers conversion.fields).get? place.member).getD
        (.option none)
  default struct :=
    ((conversions.find? fun conversion => conversion.typeId.modelName = struct).map
      Conversion.zeroDatum).getD (.option none)

private theorem plain_unwrap
    (conversions : List Conversion)
    (place : MemberPlace)
    (kind : ScalarKind)
    (value : kind.Base) :
    (plain conversions).unwrap kind ((plain conversions).wrap place kind value) = some value :=
  dif_pos rfl

section Serving

variable {conversions : List Conversion}

private theorem plain_holds_zeroMember
    {shape : FieldShape Conversion}
    (below : ∀ inner, shape.nested? = some inner →
      inner.Holds (plain conversions) inner.zeroDatum inner.zero.toValue) :
    Conversion.HoldsShape (plain conversions) shape (Conversion.zeroMember shape)
      (Conversion.zeroShape shape) := by
  obtain ⟨arity, target⟩ := shape
  cases arity with
  | plain =>
      cases target with
      | scalar type =>
          exact Model.holdsTarget_scalar (plain_unwrap conversions ⟨"", ""⟩ type.kind)
            type.kind.toScalar_blank
      | struct nested => exact below nested rfl
  | pointer => exact Conversion.holdsShape_pointer.mpr ⟨none, rfl, .none⟩
  | list => exact Conversion.holdsShape_list.mpr ⟨[], rfl, .nil⟩
  | map =>
      exact Conversion.holdsShape_map.mpr ⟨[], rfl, List.nodup_nil, [], .refl _, .nil⟩

/-- Each zero structure of the model holds the zero structure of its conversion. -/
theorem plain_holds_zeroDatum
    (closed : Conversion.Closed conversions)
    (members : ∀ conversion ∈ conversions,
      (conversion.fields.map fun field => Name.member field.declared).Nodup)
    {conversion : Conversion}
    (unambiguous : conversion.Unambiguous)
    (member : conversion ∈ conversions) :
    conversion.Holds (plain conversions) conversion.zeroDatum conversion.zero.toValue := by
  induction unambiguous with
  | @intro conversion declared external below inductionHypothesis =>
      rw [Conversion.zeroDatum_eq, Conversion.zero_eq]
      refine Conversion.holds_iff.mpr ⟨rfl, _, rfl, fun field inside => ?_⟩
      refine ⟨_, Entries.get?_map_of_mem (members conversion member) _ inside, ?_⟩
      rw [Entries.get?_map_of_mem declared _ inside, Option.getD_some]
      exact plain_holds_zeroMember fun inner isNested =>
        have nests := Conversion.mem_nested.mpr ⟨field, inside, isNested⟩
        inductionHypothesis inner nests (closed _ member _ nests)

/-- Where no two structures have one name, each conversion is found by the name. -/
theorem find?_modelName
    (structs : (conversions.map fun conversion => conversion.typeId.modelName).Nodup)
    {conversion : Conversion}
    (member : conversion ∈ conversions) :
    conversions.find? (fun other => other.typeId.modelName = conversion.typeId.modelName) =
      some conversion := by
  cases found : conversions.find?
      (fun other => other.typeId.modelName = conversion.typeId.modelName) with
  | none => exact absurd (decide_eq_true rfl) (List.find?_eq_none.mp found conversion member)
  | some other =>
      have same : other.typeId.modelName = conversion.typeId.modelName := by
        simpa using List.find?_some found
      exact congrArg some
        (List.inj_on_of_nodup_map structs (List.mem_of_find?_eq_some found) member same)

theorem plain_serves
    (structs : (conversions.map fun conversion => conversion.typeId.modelName).Nodup)
    (closed : Conversion.Closed conversions)
    (unambiguous : ∀ conversion ∈ conversions, conversion.Unambiguous)
    (members : ∀ conversion ∈ conversions,
      (conversion.fields.map fun field => Name.member field.declared).Nodup) :
    (plain conversions).Serves conversions where
  unwraps := plain_unwrap conversions
  collects _ entries := List.reverse_perm _
  memberDefault conversion member field inside := by
    have isDefault : (plain conversions).memberDefault
        ⟨conversion.typeId.modelName, Name.member field.declared⟩ =
          Conversion.zeroMember field.shape := by
      simp only [plain, find?_modelName structs member, Option.bind_some,
        Conversion.zeroMembers_eq_map]
      rw [Entries.get?_map_of_mem (members conversion member)
        (fun other => Conversion.zeroMember other.shape) inside, Option.getD_some]
    rw [isDefault]
    exact plain_holds_zeroMember fun inner isNested =>
      have nests := closed conversion member inner
        (Conversion.mem_nested.mpr ⟨field, inside, isNested⟩)
      plain_holds_zeroDatum closed members (unambiguous inner nests) nests

end Serving

end Model

end BlockSchema
