import BlockSchema.Proofs.Graph.Failures
import Mathlib.Data.List.Chain

/-!
Contract: a reported cycle is a cycle of references.

The types under way are a path from the type that was asked for: each one refers to the next
one and none stands twice. A type that comes up again closes the part of the path from its
first place on, and this part is what the error lists.
-/

set_option autoImplicit false

namespace BlockSchema

section Cycles

variable {manifest : Manifest} {registry : Registry} {root id : TypeId} {stack : List TypeId}

/-! ## The types under way -/

/-- The types on a stack, and after them the type that is asked for next, are a path of
references from `root` on. -/
structure OnPath
    (manifest : Manifest)
    (registry : Registry)
    (root : TypeId)
    (stack : List TypeId)
    (id : TypeId) :
    Prop where
  distinct : stack.Nodup
  defined : ∀ type ∈ stack, ∃ definition, manifest.get? type = some definition
  linked : (stack ++ [id]).IsChain (Refers manifest registry)
  reached : ∀ type ∈ stack ++ [id], Relation.ReflTransGen (Refers manifest registry) root type

private theorem Refers.defined
    {outer inner : TypeId}
    (refers : Refers manifest registry outer inner) :
    ∃ definition, manifest.get? outer = some definition := by
  obtain ⟨fields, isIncluded, _⟩ := refers
  obtain ⟨definition, found, _⟩ := Option.map_eq_some_iff.mp isIncluded
  exact ⟨definition, found⟩

namespace OnPath

private theorem start (root : TypeId) : OnPath manifest registry root [] root where
  distinct := .nil
  defined := by simp
  linked := .singleton root
  reached := by simp [Relation.ReflTransGen.refl]

/-- A type that is not under way is put under way before a type that it refers to. -/
theorem step
    (path : OnPath manifest registry root stack id)
    (outside : id ∉ stack)
    {inner : TypeId}
    (refers : Refers manifest registry id inner) :
    OnPath manifest registry root (stack ++ [id]) inner where
  distinct := by
    rw [List.nodup_append]
    refine ⟨path.distinct, List.nodup_singleton id, fun type onStack other isOwn => ?_⟩
    rintro rfl
    exact outside (List.mem_singleton.mp isOwn ▸ onStack)
  defined := by
    intro type onStack
    rcases List.mem_append.mp onStack with onOld | isOwn
    · exact path.defined type onOld
    · exact List.mem_singleton.mp isOwn ▸ refers.defined
  linked := by
    refine List.isChain_append.mpr ⟨path.linked, .singleton inner, ?_⟩
    intro last isLast first isFirst
    rw [List.getLast?_concat] at isLast
    obtain rfl := Option.some.inj isLast
    obtain rfl := Option.some.inj isFirst
    exact refers
  reached := by
    intro type member
    rcases List.mem_append.mp member with onPath | isLast
    · exact path.reached type onPath
    · rw [List.mem_singleton.mp isLast]
      exact (path.reached id (by simp)).tail refers

end OnPath

/-! ## Cycles -/

/-- Types of which each refers to the next one, with `first` at both ends and no type twice
before the end. -/
structure IsCycle
    (manifest : Manifest)
    (registry : Registry)
    (first : TypeId)
    (cycle : List TypeId) :
    Prop where
  closed : ∃ between, cycle = first :: between ++ [first]
  distinct : cycle.dropLast.Nodup
  defined : ∀ type ∈ cycle, ∃ definition, manifest.get? type = some definition
  linked : cycle.IsChain (Refers manifest registry)

/-- What is cut from a stack begins at the first place of the type. -/
theorem cycleFrom_eq (inside : id ∈ stack) :
    ∃ before between, stack = before ++ id :: between ∧
      cycleFrom stack id = id :: between ++ [id] := by
  unfold cycleFrom
  induction stack with
  | nil => cases inside
  | cons first rest inductionHypothesis =>
      by_cases same : first = id
      · subst same
        exact ⟨[], rest, rfl, by simp⟩
      · have inRest : id ∈ rest := by
          rcases List.mem_cons.mp inside with rfl | later
          · exact absurd rfl same
          · exact later
        obtain ⟨before, between, place, cut⟩ := inductionHypothesis inRest
        refine ⟨first :: before, between, by rw [place]; rfl, ?_⟩
        rw [List.dropWhile_cons_of_pos (by simpa using same)]
        exact cut

/-- A type that comes up again while it is under way closes a cycle. -/
theorem OnPath.isCycle
    (path : OnPath manifest registry root stack id)
    (inside : id ∈ stack) :
    IsCycle manifest registry id (cycleFrom stack id) := by
  obtain ⟨before, between, rfl, cut⟩ := cycleFrom_eq inside
  rw [cut]
  have distinct := (List.nodup_append.mp path.distinct).2.1
  have linked := path.linked
  rw [List.append_assoc] at linked
  refine ⟨⟨between, rfl⟩, ?_, fun type member => ?_, (List.isChain_append.mp linked).2.1⟩
  · rw [List.dropLast_concat]
    exact distinct
  · refine path.defined type (List.mem_append_right before ?_)
    rcases List.mem_append.mp member with onPath | isLast
    · exact onPath
    · exact List.mem_singleton.mp isLast ▸ List.mem_cons_self

/-- The error for a cycle tells a cycle that is reached from where the path began. -/
theorem BuildFails.isCycle
    {error : CompileError}
    (fails : BuildFails manifest registry stack id error)
    (path : OnPath manifest registry root stack id)
    {site : Site}
    {cycle : List TypeId}
    (isReport : error = .unsupportedShape site (.nestsItself cycle)) :
    ∃ first, site = .type first ∧ IsCycle manifest registry first cycle ∧
      Relation.ReflTransGen (Refers manifest registry) root first := by
  induction fails with
  | @underWay stack id inside =>
      obtain ⟨isSite, isCut⟩ := CompileError.unsupportedShape.inj isReport
      obtain rfl := ShapeFault.nestsItself.inj isCut
      exact ⟨id, isSite.symm, path.isCycle inside, path.reached id (by simp)⟩
  | undefined => cases isReport
  | own outside found fault =>
      cases fault with
      | name issue => cases isReport
      | shape member refused =>
          -- A shape is never refused for a cycle.
          obtain ⟨-, rfl⟩ := CompileError.unsupportedShape.inj isReport
          have ofShapes := Shape.mem_ofShapes refused
          simp [ShapeFault.ofShapes] at ofShapes
  | nested outside refers _ inductionHypothesis =>
      exact inductionHypothesis (path.step outside refers) isReport

/-- When a walker fails because a type nests itself, whatever it was asked before, the types
that it lists are a cycle: the first one is the last one, no other type stands twice, every
type is defined, and each has a field that is not excluded and refers to the next one. The
cycle is reached from the type that was asked for, and the error stands at its first type. -/
theorem Walker.call_reports_cycle
    (calls : List TypeId)
    (id : TypeId)
    {site : Site}
    {cycle : List TypeId}
    (failed : ((afterCalls manifest registry calls).call manifest registry id).1 =
      .error (.unsupportedShape site (.nestsItself cycle))) :
    ∃ (first : TypeId) (between : List TypeId),
      cycle = first :: between ++ [first] ∧
      (first :: between).Nodup ∧
      (∀ type ∈ cycle, ∃ definition, manifest.get? type = some definition) ∧
      cycle.IsChain (Refers manifest registry) ∧
      Relation.ReflTransGen (Refers manifest registry) id first ∧
      site = .type first ∧
      (CompileError.unsupportedShape site (.nestsItself cycle)).message =
        "unsupported shape at `" ++ first.text ++ "`: " ++
          ("type nests itself (" ++ String.intercalate " -> " (cycle.map TypeId.text) ++ ")") := by
  obtain ⟨idle, _⟩ := afterCalls_sound manifest registry calls
  rw [call_eq, idle] at failed
  have fails : BuildFails manifest registry [] id (.unsupportedShape site (.nestsItself cycle)) :=
    walk_failsOnly [] id (afterCalls manifest registry calls).nodes _ failed
  obtain ⟨first, rfl, ⟨⟨between, rfl⟩, distinct, defined, linked⟩, reached⟩ :=
    fails.isCycle (.start id) rfl
  rw [List.dropLast_concat] at distinct
  exact ⟨first, between, rfl, distinct, defined, linked, reached, rfl, rfl⟩

end Cycles

/-! ## Types that lead to a cycle -/

namespace Depots

def text : Shape := .scalar (.plain .string)

def fuel : TypeDef :=
  ⟨"Fuel", "fleet", none, [⟨"Grade", text, none, none⟩]⟩

/-- A driver knows the truck, which knows its trailers, which know the driver. -/
def driver : TypeDef :=
  ⟨"Driver", "fleet", none,
    [⟨"Name", text, none, none⟩,
      ⟨"Truck", .pointer (.struct (.ofParts "fleet" "Truck")), none, none⟩]⟩

def trailer : TypeDef :=
  ⟨"Trailer", "fleet", none,
    [⟨"Spare", .pointer (.struct (.ofParts "fleet" "Trailer")), none, none⟩,
      ⟨"Driver", .struct driver.id, none, none⟩]⟩

def truck : TypeDef :=
  ⟨"Truck", "fleet", none,
    [⟨"Fuel", .struct fuel.id, none, none⟩, ⟨"Trailers", .map (.struct trailer.id), none, none⟩]⟩

def depot : TypeDef :=
  ⟨"Depot", "fleet", none,
    [⟨"Fuel", .struct fuel.id, none, none⟩, ⟨"Trucks", .list (.struct truck.id), none, none⟩]⟩

def manifest : Manifest :=
  ⟨[fuel, driver, trailer, truck, depot], by decide, by decide⟩

/-- Trailers are registered without their spare, which is a trailer itself. -/
def registry : Registry :=
  [(trailer.id, (DirectiveTable.resolve trailer [.mark .exclude ["Spare"]]).toOption.getD .empty)]

end Depots

/-- After a call that succeeds and one that fails, a depot is refused for the trucks below it;
neither the depot nor the spare of a trailer is on the cycle. -/
theorem Walker.call_reports_cycle_depot :
    ((afterCalls Depots.manifest Depots.registry [Depots.fuel.id, Depots.driver.id]).call
        Depots.manifest Depots.registry Depots.depot.id).1 =
      .error (.unsupportedShape (.type Depots.truck.id)
        (.nestsItself
          [Depots.truck.id, Depots.trailer.id, Depots.driver.id, Depots.truck.id])) ∧
    [Depots.truck.id, Depots.trailer.id, Depots.driver.id, Depots.truck.id].IsChain
      (Refers Depots.manifest Depots.registry) ∧
    Relation.ReflTransGen (Refers Depots.manifest Depots.registry) Depots.depot.id
      Depots.truck.id := by
  have failed :
      ((afterCalls Depots.manifest Depots.registry [Depots.fuel.id, Depots.driver.id]).call
          Depots.manifest Depots.registry Depots.depot.id).1 =
        .error (.unsupportedShape (.type Depots.truck.id)
          (.nestsItself
            [Depots.truck.id, Depots.trailer.id, Depots.driver.id, Depots.truck.id])) :=
    Results.failsWith_iff.mp (by decide +kernel)
  obtain ⟨first, between, _, _, _, linked, reached, isFirst, _⟩ :=
    call_reports_cycle [Depots.fuel.id, Depots.driver.id] Depots.depot.id failed
  obtain rfl := Site.type.inj isFirst
  exact ⟨failed, linked, reached⟩

end BlockSchema
