import BlockSchema.Proofs.Group.Closure
import BlockSchema.Proofs.Output.Places
import Mathlib.Data.List.Perm.Basic

/-!
Contract: which files of a compilation have one path.

Files share a path exactly when they share the names that their paths are made of. The names
are derived: they lose the case and the separators of what they are derived from, and nothing
keeps them apart.
-/

set_option autoImplicit false

namespace BlockSchema

namespace Layout

variable (layout : Layout) (group : CompiledGroup)

/-! ## The files of some groups -/

private theorem sourcePlaces_eq :
    sourcePlaces group =
      (group.conversions.map (fun conversion => conversion.typeId.stem) ++ ["mod"]).map
        (FilePlace.source (Name.snake group.name)) := by
  rw [sourcePlaces, List.map_append, List.map_map]
  rfl

private theorem nodup_sourcePlaces_iff :
    (sourcePlaces group).Nodup ↔
      (group.conversions.map fun conversion => conversion.typeId.stem).Nodup := by
  have injective : Function.Injective (FilePlace.source (Name.snake group.name)) :=
    fun _ _ same => (FilePlace.source.inj same).2
  rw [sourcePlaces_eq, List.nodup_map_iff injective, List.nodup_append]
  constructor
  · exact And.left
  · refine fun distinct => ⟨distinct, List.nodup_singleton _, fun stem isStem other isModule => ?_⟩
    obtain ⟨conversion, _, rfl⟩ := List.mem_map.mp isStem
    rw [List.mem_singleton.mp isModule]
    exact conversion.typeId.stem_ne_mod

/-- Two groups have a source file in common when their directories are the same. -/
theorem disjoint_sourcePlaces_iff (left right : CompiledGroup) :
    List.Disjoint (sourcePlaces left) (sourcePlaces right) ↔
      Name.snake left.name ≠ Name.snake right.name := by
  constructor
  · intro disjoint same
    have ofLeft : modulePlace left ∈ sourcePlaces left := by simp [sourcePlaces]
    have ofRight : modulePlace left ∈ sourcePlaces right := by
      simp [sourcePlaces, modulePlace, same]
    exact disjoint ofLeft ofRight
  · intro differ place ofLeft ofRight
    rw [sourcePlaces_eq] at ofLeft ofRight
    obtain ⟨_, _, rfl⟩ := List.mem_map.mp ofLeft
    obtain ⟨_, _, same⟩ := List.mem_map.mp ofRight
    exact differ (FilePlace.source.inj same).1.symm

/-- The names derived for the files of some groups tell them apart. -/
structure TellsApart (layout : Layout) (groups : List CompiledGroup) : Prop where
  groupNames : (groups.map fun group => Name.snake group.name).Nodup
  stems : ∀ group ∈ groups, ∀ left ∈ group.graph.ids, ∀ right ∈ group.graph.ids,
    left.stem = right.stem → left = right
  schemas : (groups.flatMap schemaPlaces).Nodup
  pages : (groups.flatMap layout.pagePlaces).Nodup

private theorem ending_of_mem_places {place : FilePlace} :
    (place ∈ schemaPlaces group → place.ending = ".generated.json") ∧
      (place ∈ sourcePlaces group → place.ending = ".rs") ∧
        (place ∈ layout.pagePlaces group → place.ending = ".md") := by
  refine ⟨fun member => ?_, fun member => ?_, fun member => ?_⟩
  · obtain ⟨schema, _, rfl⟩ := List.mem_map.mp member
    rfl
  · rw [sourcePlaces_eq] at member
    obtain ⟨name, _, rfl⟩ := List.mem_map.mp member
    rfl
  · obtain ⟨page, _, rfl⟩ := List.mem_map.mp member
    rfl

/-- Files of different kinds are at different places anyway. -/
theorem nodup_places_iff (groups : List CompiledGroup) :
    (groups.flatMap layout.places).Nodup ↔
      (groups.flatMap schemaPlaces).Nodup ∧ (groups.flatMap sourcePlaces).Nodup ∧
        (groups.flatMap layout.pagePlaces).Nodup := by
  have split : (groups.flatMap schemaPlaces ++
      (groups.flatMap sourcePlaces ++ groups.flatMap layout.pagePlaces)).Perm
        (groups.flatMap layout.places) :=
    ((groups.flatMap_append_perm sourcePlaces layout.pagePlaces).append_left _).trans
      (groups.flatMap_append_perm schemaPlaces _)
  have endings : ∀ place,
      (place ∈ groups.flatMap schemaPlaces → place.ending = ".generated.json") ∧
        (place ∈ groups.flatMap sourcePlaces → place.ending = ".rs") ∧
          (place ∈ groups.flatMap layout.pagePlaces → place.ending = ".md") := by
    intro place
    simp only [List.mem_flatMap]
    refine ⟨?_, ?_, ?_⟩
    · rintro ⟨group, _, member⟩
      exact (ending_of_mem_places layout group).1 member
    · rintro ⟨group, _, member⟩
      exact (ending_of_mem_places layout group).2.1 member
    · rintro ⟨group, _, member⟩
      exact (ending_of_mem_places layout group).2.2 member
  have apart : ∀ {left right : FilePlace}, left.ending ≠ right.ending → left ≠ right :=
    fun differ same => differ (congrArg FilePlace.ending same)
  rw [← split.nodup_iff, List.nodup_append, List.nodup_append]
  constructor
  · rintro ⟨schemas, ⟨sources, pages, _⟩, _⟩
    exact ⟨schemas, sources, pages⟩
  · rintro ⟨schemas, sources, pages⟩
    refine ⟨schemas, ⟨sources, pages, fun left isLeft right isRight => apart ?_⟩,
      fun left isLeft right isRight => apart ?_⟩
    · rw [(endings left).2.1 isLeft, (endings right).2.2 isRight]
      decide
    · rw [(endings left).1 isLeft]
      rcases List.mem_append.mp isRight with isSource | isPage
      · rw [(endings right).2.1 isSource]
        decide
      · rw [(endings right).2.2 isPage]
        decide

private theorem nodup_flatMap_sourcePlaces_iff (groups : List CompiledGroup) :
    (groups.flatMap sourcePlaces).Nodup ↔
      (groups.map fun group => Name.snake group.name).Nodup ∧
        ∀ group ∈ groups,
          (group.conversions.map fun conversion => conversion.typeId.stem).Nodup := by
  have disjoint : groups.Pairwise (Function.onFun List.Disjoint sourcePlaces) ↔
      (groups.map fun group => Name.snake group.name).Nodup := by
    rw [List.Nodup, List.pairwise_map]
    exact List.Pairwise.iff disjoint_sourcePlaces_iff
  rw [List.nodup_flatMap, disjoint, and_comm]
  simp only [nodup_sourcePlaces_iff]

/-- Files have different paths exactly when the names that they are made of tell them apart. -/
theorem nodup_paths_iff
    {groups : List CompiledGroup}
    (listed : ∀ group ∈ groups,
      group.conversions.map Conversion.typeId = group.graph.ids ∧ group.graph.ids.Nodup) :
    ((groups.flatMap layout.artifacts).map stepsTo).Nodup ↔ layout.TellsApart groups := by
  have paths : (groups.flatMap layout.artifacts).map stepsTo =
      (groups.flatMap layout.places).map (FilePlace.steps (FilePath.steps layout.outDir)) := by
    rw [List.map_flatMap, List.map_flatMap]
    exact List.flatMap_congr fun group _ => stepsTo_artifacts layout group
  have stems : ∀ group ∈ groups,
      ((group.conversions.map fun conversion => conversion.typeId.stem).Nodup ↔
        ∀ left ∈ group.graph.ids, ∀ right ∈ group.graph.ids,
          left.stem = right.stem → left = right) := by
    intro group member
    obtain ⟨sameIds, distinct⟩ := listed group member
    have ofIds : (group.conversions.map fun conversion => conversion.typeId.stem) =
        group.graph.ids.map TypeId.stem := by
      rw [← sameIds, List.map_map]
      rfl
    rw [ofIds, List.nodup_map_iff_inj_on distinct]
  rw [paths, List.nodup_map_iff (FilePlace.steps_injective _), nodup_places_iff,
    nodup_flatMap_sourcePlaces_iff]
  constructor
  · rintro ⟨schemas, ⟨groupNames, types⟩, pages⟩
    exact ⟨groupNames, fun group member => (stems group member).mp (types group member),
      schemas, pages⟩
  · rintro ⟨groupNames, types, schemas, pages⟩
    exact ⟨schemas, ⟨groupNames, fun group member =>
      (stems group member).mpr (types group member)⟩, pages⟩

end Layout

/-! ## Compiled plans -/

private theorem compileGroups_eq_mapM (manifest : Manifest) (groups : List GroupPlan) :
    compileGroups manifest groups = groups.mapM fun group => group.compile manifest := by
  induction groups with
  | nil => rfl
  | cons group rest inductionHypothesis =>
      rw [compileGroups, List.mapM_cons, inductionHypothesis]

section Plans

variable {manifest : Manifest} {plan : Plan} {groups : List CompiledGroup}

private theorem Plan.compile_groups (accepted : plan.compile manifest = .ok groups) :
    List.Forall₂ (fun group compiled => group.compile manifest = .ok compiled)
      plan.groups groups := by
  obtain ⟨_, _, compiledAll⟩ := Results.bind_eq_ok.mp accepted
  rw [compileGroups_eq_mapM] at compiledAll
  exact Results.mapM_eq_ok.mp compiledAll

/-- The groups of a compiled plan convert each type of their graphs once. -/
theorem Plan.compile_listed (accepted : plan.compile manifest = .ok groups) :
    ∀ group ∈ groups,
      group.conversions.map Conversion.typeId = group.graph.ids ∧ group.graph.ids.Nodup := by
  intro compiled member
  obtain ⟨group, _, acceptedGroup⟩ :=
    Results.exists_of_mem_right (Plan.compile_groups accepted) member
  obtain ⟨registry, resolved, derived⟩ := GroupPlan.compile_derived acceptedGroup
  obtain ⟨_, inOrder, _⟩ := GroupPlan.compile_parts acceptedGroup resolved
  refine ⟨?_, derived.built.distinct⟩
  rw [inOrder, List.map_map]
  exact List.map_congr_left fun node _ => node.conversion_typeId

/-- The files of a compiled plan have different paths exactly when the names that they are
made of tell them apart. And what emitted text calls the same for two types of a group is
told by their stems. -/
theorem Plan.compile_paths_nodup_iff
    (accepted : plan.compile manifest = .ok groups)
    (layout : Layout) :
    (((groups.flatMap layout.artifacts).map fun artifact => FilePath.steps artifact.path).Nodup ↔
      layout.TellsApart groups) ∧
    ∀ left right : TypeId,
      List.TFAE
        [left.stem = right.stem, left.expandName = right.expandName,
          left.flattenName = right.flattenName, left.anchor = right.anchor] :=
  ⟨layout.nodup_paths_iff (Plan.compile_listed accepted), TypeId.names_tfae⟩

end Plans

/-- A plan compiles, to groups that pass a test. -/
theorem Plan.compiles
    {plan : Plan}
    {manifest : Manifest}
    {test : List CompiledGroup → Bool}
    (passes : (plan.compile manifest).toOption.any test = true) :
    ∃ groups, plan.compile manifest = .ok groups ∧ test groups = true :=
  Results.exists_of_any passes

/-- The files of the orders are told apart. -/
theorem Plan.compile_paths_nodup_orders :
    ∃ groups, Plan.compile ⟨.standard, [Orders.group]⟩ Orders.manifest = .ok groups ∧
      (Layout.make "gen" none .standard).TellsApart groups ∧
      groups.map (fun group => group.conversions.map fun conversion => conversion.typeId.stem) =
        [["shop_item", "shop_order"]] := by
  obtain ⟨groups, accepted, passes⟩ :=
    @Plan.compiles ⟨.standard, [Orders.group]⟩ Orders.manifest
      (fun groups =>
        decide (((groups.flatMap (Layout.make "gen" none .standard).artifacts).map fun artifact =>
          FilePath.steps artifact.path).Nodup) &&
        groups.map (fun group =>
          group.conversions.map fun conversion => conversion.typeId.stem) ==
            [["shop_item", "shop_order"]])
      (by decide +kernel)
  obtain ⟨distinct, stems⟩ := Bool.and_eq_true_iff.mp passes
  have toldApart := (Plan.compile_paths_nodup_iff accepted (Layout.make "gen" none .standard)).1
  exact ⟨groups, accepted, toldApart.mp (of_decide_eq_true distinct), beq_iff_eq.mp stems⟩

/-! ### Names that run together -/

namespace Carts

/-- An item of the first revision of an interface. -/
def item : TypeDef :=
  { name := "Item"
    package := "api/v1"
    description := none
    fields := [Orders.field "Name" (.scalar (.plain .string))] }

/-- The same, with the revision in its name. -/
def revisedItem : TypeDef :=
  { name := "V1Item"
    package := "api"
    description := none
    fields := [Orders.field "Name" (.scalar (.plain .string))] }

def cart : TypeDef :=
  { name := "Cart"
    package := "shop"
    description := none
    fields :=
      [Orders.field "First" (.struct item.id), Orders.field "Second" (.struct revisedItem.id)] }

/-- A type of another package that has the name of the first cart. -/
def webCart : TypeDef :=
  { name := "Cart"
    package := "web"
    description := none
    fields := [Orders.field "Size" (.scalar (.plain .int))] }

def manifest : Manifest :=
  ⟨[item, revisedItem, cart, webCart], by decide, by decide⟩

def plan : Plan :=
  { settings := .standard
    groups :=
      [{ name := "carts"
         docs := none
         readOnly := false
         types := [⟨cart.id, [.doc ⟨"", ""⟩]⟩, ⟨webCart.id, [.doc ⟨"", ""⟩]⟩] }] }

/-- Whether a group has a page that nests both items. -/
def nestsBoth (group : CompiledGroup) : Bool :=
  group.roots.any fun root => root.doc.any fun page =>
    (page.nested.map DocSection.typeId).contains item.id &&
      (page.nested.map DocSection.typeId).contains revisedItem.id

/-- The names of a group's pages. -/
def pageNames (group : CompiledGroup) : List String :=
  (group.roots.filterMap CompiledType.doc).map fun page => Name.snake page.root.typeId.name

private theorem not_nodup_pagePlaces
    {group : CompiledGroup}
    (names : pageNames group = ["cart", "cart"])
    (layout : Layout) :
    ¬ (layout.pagePlaces group).Nodup := by
  have places : layout.pagePlaces group =
      (pageNames group).map (FilePlace.page (FilePath.steps (layout.docsDir group))) := by
    rw [pageNames, List.map_map]
    rfl
  rw [places, names]
  simp

end Carts

/-- Wherever the files go, the pages of both carts have one path and so have the routines of
both items. The items share all their names, on one page among others. -/
theorem Plan.compile_paths_clash :
    ∃ groups, Carts.plan.compile Carts.manifest = .ok groups ∧
      (Carts.plan.groups.map GroupPlan.name).Nodup ∧
      ∃ group ∈ groups, Carts.nestsBoth group = true ∧
        (∀ layout : Layout,
          ¬ ((groups.flatMap layout.artifacts).map fun artifact =>
            FilePath.steps artifact.path).Nodup ∧
          ¬ (Layout.sourcePlaces group).Nodup ∧ ¬ (layout.pagePlaces group).Nodup) ∧
        Carts.item.id ≠ Carts.revisedItem.id ∧
        Carts.item.id.stem = Carts.revisedItem.id.stem ∧
        Carts.item.id.expandName = Carts.revisedItem.id.expandName ∧
        Carts.item.id.flattenName = Carts.revisedItem.id.flattenName ∧
        Carts.item.id.anchor = Carts.revisedItem.id.anchor := by
  obtain ⟨groups, accepted, passes⟩ :=
    @Plan.compiles Carts.plan Carts.manifest
      (fun groups => groups.any fun group =>
        Carts.nestsBoth group && Carts.pageNames group == ["cart", "cart"] &&
          decide ¬ (Layout.sourcePlaces group).Nodup)
      (by decide +kernel)
  obtain ⟨group, member, held⟩ := List.any_eq_true.mp passes
  simp only [Bool.and_eq_true, beq_iff_eq, decide_eq_true_eq] at held
  obtain ⟨⟨onPage, pages⟩, sources⟩ := held
  have sameStem : Carts.item.id.stem = Carts.revisedItem.id.stem := by decide +kernel
  have sameNames := TypeId.names_tfae Carts.item.id Carts.revisedItem.id
  refine ⟨groups, accepted, by decide, group, member, onPage, fun layout => ⟨fun distinct => ?_,
    sources, Carts.not_nodup_pagePlaces pages layout⟩, by decide, sameStem,
    (sameNames.out 0 1).mp sameStem, (sameNames.out 0 2).mp sameStem,
    (sameNames.out 0 3).mp sameStem⟩
  have toldApart := (layout.nodup_paths_iff (Plan.compile_listed accepted)).mp distinct
  exact Carts.not_nodup_pagePlaces pages layout
    ((List.nodup_flatMap.mp toldApart.pages).1 group member)

end BlockSchema
