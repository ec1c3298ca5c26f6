import BlockSchema.Manifest.Basic
import BlockSchema.Proofs.Graph.Rebuild

/-!
Contract: what loading and merging make of a manifest.

A type joins a manifest when no type of its identity is there and its fields are distinct, so
types that are added all join exactly when the list with all of them is one that a manifest
can have. Where the list was cut is of no account. A merge that fails has added what stands
before the first type that was there, and nothing that was there is ever touched.
-/

set_option autoImplicit false

namespace BlockSchema.Manifest

variable {manifest later other : Manifest} {definition : TypeDef} {types : List TypeDef}

private theorem eq_of_types (same : manifest.types = other.types) : manifest = other := by
  cases manifest
  cases other
  obtain rfl := same
  rfl

/-- A part of the types of a manifest, in their order, are the types of a manifest. -/
theorem exists_of_sublist (part : types.Sublist manifest.types) :
    ∃ smaller : Manifest, smaller.types = types := by
  have distinct : (types.map TypeDef.id).Nodup := manifest.distinct.sublist (part.map TypeDef.id)
  exact ⟨⟨types, distinct, fun other member => manifest.fieldsDistinct other (part.subset member)⟩,
    rfl⟩

/-- A manifest can have one more type when its identity is new and its fields are distinct. -/
theorem exists_append
    (isNew : definition.id ∉ manifest.types.map TypeDef.id)
    (unique : definition.fieldNames.Nodup) :
    ∃ next : Manifest, next.types = manifest.types ++ [definition] := by
  refine ⟨⟨manifest.types ++ [definition], ?_, ?_⟩, rfl⟩
  · rw [List.map_append, List.map_singleton, List.nodup_append]
    exact ⟨manifest.distinct, List.nodup_singleton _, fun id member other last same =>
      isNew (List.mem_singleton.mp last ▸ same ▸ member)⟩
  · intro other member
    rcases List.mem_append.mp member with earlier | last
    · exact manifest.fieldsDistinct other earlier
    · exact List.mem_singleton.mp last ▸ unique

theorem defines_iff {id : TypeId} :
    manifest.defines id = true ↔ id ∈ manifest.types.map TypeDef.id :=
  List.contains_iff_mem

/-! ## Adding types -/

/-- A type is added at the end, when a manifest can have it there. -/
theorem insert_eq_ok :
    manifest.insert definition = .ok later ↔ later.types = manifest.types ++ [definition] := by
  constructor
  · intro inserted
    unfold insert at inserted
    split at inserted
    next => cases inserted
    next =>
      split at inserted
      next => exact congrArg types (Except.ok.inj inserted).symm
      next => cases inserted
  · intro same
    have distinct := later.distinct
    rw [same, List.map_append, List.nodup_append] at distinct
    have isNew : definition.id ∉ manifest.types.map TypeDef.id := fun known =>
      distinct.2.2 _ known definition.id (List.mem_singleton_self _) rfl
    have unique : definition.fieldNames.Nodup :=
      later.fieldsDistinct definition (same ▸ List.mem_append_right _ (List.mem_singleton_self _))
    rw [insert, dif_neg isNew, dif_pos unique]
    exact congrArg Except.ok (eq_of_types same.symm)

/-- Types are all added when a manifest can have them after those that it has. -/
theorem insertAll_eq :
    manifest.insertAll types = (later, none) ↔ later.types = manifest.types ++ types := by
  induction types generalizing manifest with
  | nil =>
      rw [insertAll, List.append_nil]
      exact ⟨fun same => congrArg Manifest.types (Prod.mk.inj same).1.symm,
        fun same => Prod.ext (eq_of_types same.symm) rfl⟩
  | cons first rest inductionHypothesis =>
      rw [insertAll, List.append_cons]
      cases inserted : manifest.insert first with
      | ok next => rw [← insert_eq_ok.mp inserted]; exact inductionHypothesis
      | error fault =>
          refine iff_of_false (fun impossible => by cases impossible) fun same => ?_
          obtain ⟨next, isNext⟩ := exists_of_sublist
            (same ▸ List.sublist_append_left (manifest.types ++ [first]) rest)
          rw [insert_eq_ok.mpr isNext] at inserted
          cases inserted

/-- Types make a manifest that has just these types, when there is one. -/
theorem ofTypes_eq_ok : ofTypes types = .ok manifest ↔ manifest.types = types := by
  have all : empty.insertAll types = (manifest, none) ↔ manifest.types = types := insertAll_eq
  rw [← all, ofTypes]
  split
  next made isMade => rw [isMade]; simp
  next fault isFault => rw [isFault]; simp

/-- The first types join as long as no type of their identity is there; the fault is that of
the first one that is. `known` tells which types were there at the start. -/
theorem insertAll_of_distinct
    (known : TypeDef → Bool)
    (there : ∀ definition ∈ types, known definition = manifest.defines definition.id)
    (distinct : (types.map TypeDef.id).Nodup)
    (fieldsDistinct : ∀ definition ∈ types, definition.fieldNames.Nodup) :
    (manifest.insertAll types).1.types =
        manifest.types ++ types.takeWhile (fun definition => !known definition) ∧
      (manifest.insertAll types).2 =
        (types.find? known).map fun definition => .typeTwice definition.id := by
  induction types generalizing manifest with
  | nil => simp [insertAll]
  | cons first rest inductionHypothesis =>
      obtain ⟨isFirst, distinctRest⟩ := List.nodup_cons.mp distinct
      have ofFirst : known first = manifest.defines first.id := there first List.mem_cons_self
      rw [insertAll]
      cases isKnown : known first with
      | true =>
          have member : first.id ∈ manifest.types.map TypeDef.id :=
            defines_iff.mp (ofFirst ▸ isKnown)
          simp [insert, member, isKnown]
      | false =>
          have isNew : first.id ∉ manifest.types.map TypeDef.id := fun member =>
            Bool.false_ne_true (isKnown ▸ ofFirst.trans (defines_iff.mpr member))
          obtain ⟨next, isNext⟩ := exists_append isNew (fieldsDistinct first List.mem_cons_self)
          rw [insert_eq_ok.mpr isNext]
          -- The first type is none of the rest, so these were there if they are there now.
          have thereNext : ∀ definition ∈ rest, known definition = next.defines definition.id := by
            intro definition member
            have apart : definition.id ≠ first.id := fun same =>
              isFirst (same ▸ List.mem_map_of_mem member)
            rw [there definition (List.mem_cons_of_mem _ member), Bool.eq_iff_iff, defines_iff,
              defines_iff, isNext]
            simp [apart]
          obtain ⟨added, fault⟩ := inductionHypothesis thereNext distinctRest
            fun definition member => fieldsDistinct definition (List.mem_cons_of_mem _ member)
          exact ⟨by simp [added, isNext, isKnown], by simp [fault, isKnown]⟩

/-- A merge adds the types of the other manifest up to the first one that was there. -/
theorem merge_types :
    (manifest.merge other).1.types =
      manifest.types ++ other.types.takeWhile fun definition => !manifest.defines definition.id :=
  (insertAll_of_distinct (fun definition => manifest.defines definition.id)
    (fun _ _ => rfl) other.distinct other.fieldsDistinct).1

/-- A merge fails at the first type of the other manifest that was there. -/
theorem merge_fault :
    (manifest.merge other).2 =
      (other.types.find? fun definition => manifest.defines definition.id).map
        fun definition => .typeTwice definition.id :=
  (insertAll_of_distinct (fun definition => manifest.defines definition.id)
    (fun _ _ => rfl) other.distinct other.fieldsDistinct).2

/-! ## Pieces of a list -/

/-- The manifest that a merge leaves, when it does not fail. -/
def merged (manifest other : Manifest) : Except ManifestFault Manifest :=
  match manifest.merge other with
  | (later, none) => .ok later
  | (_, some fault) => .error fault

/-- Loads each piece by itself and merges it into what the pieces before it made. -/
def addPieces (manifest : Manifest) (pieces : List (List TypeDef)) :
    Except ManifestFault Manifest :=
  pieces.foldlM (fun manifest piece => ofTypes piece >>= manifest.merged) manifest

private theorem merged_eq_ok :
    manifest.merged other = .ok later ↔ later.types = manifest.types ++ other.types := by
  rw [← insertAll_eq, ← merge, merged]
  split
  next made isMade => rw [isMade]; simp
  next fault isFault => rw [isFault]; simp

/-- Pieces join a manifest when their types all do. -/
theorem addPieces_eq_ok {pieces : List (List TypeDef)} :
    manifest.addPieces pieces = .ok later ↔
      later.types = manifest.types ++ pieces.flatten := by
  induction pieces generalizing manifest with
  | nil =>
      rw [List.flatten_nil, List.append_nil]
      exact ⟨fun same => congrArg types (Except.ok.inj same).symm,
        fun same => congrArg Except.ok (eq_of_types same.symm)⟩
  | cons piece rest inductionHypothesis =>
      rw [addPieces, List.foldlM_cons, List.flatten_cons, ← List.append_assoc]
      constructor
      · intro loaded
        obtain ⟨next, joined, loadedRest⟩ := Results.bind_eq_ok.mp loaded
        obtain ⟨part, isPart, isMerged⟩ := Results.bind_eq_ok.mp joined
        rw [inductionHypothesis.mp loadedRest, merged_eq_ok.mp isMerged, ofTypes_eq_ok.mp isPart]
      · intro same
        -- What the list with all types shows of the parts that stand in it.
        obtain ⟨next, isNext⟩ := exists_of_sublist
          (same ▸ List.sublist_append_left (manifest.types ++ piece) rest.flatten)
        obtain ⟨part, isPart⟩ := exists_of_sublist
          (isNext ▸ List.sublist_append_right manifest.types piece)
        have joined : manifest.merged part = .ok next := merged_eq_ok.mpr (isPart ▸ isNext)
        rw [ofTypes_eq_ok.mpr isPart]
        exact Results.bind_eq_ok.mpr ⟨next, joined, inductionHypothesis.mpr (isNext ▸ same)⟩

/-! ## Sequences of merges -/

/-- What a sequence of merges leaves, those that fail included. -/
def afterMerges (manifest : Manifest) (others : List Manifest) : Manifest :=
  others.foldl (fun manifest other => (manifest.merge other).1) manifest

/-- A later state of a manifest: what was there stands where it stood, every type is found by
its identity and by no other, and neither types nor the fields of a type repeat. -/
structure Grows (manifest later : Manifest) : Prop where
  kept : manifest.types <+: later.types
  keyed : ∀ id definition,
    later.get? id = some definition ↔ definition ∈ later.types ∧ definition.id = id
  oneEach : (later.types.map TypeDef.id).Nodup
  fieldsOnce : ∀ definition ∈ later.types, definition.fieldNames.Nodup

private theorem get?_eq_some {id : TypeId} :
    manifest.get? id = some definition ↔ definition ∈ manifest.types ∧ definition.id = id :=
  ⟨fun found => ⟨mem_of_get? found, id_of_get? found⟩,
    fun ⟨member, isId⟩ => isId ▸ get?_of_mem member⟩

private theorem grows_of_prefix (kept : manifest.types <+: later.types) : Grows manifest later where
  kept := kept
  keyed _ _ := get?_eq_some
  oneEach := later.distinct
  fieldsOnce := later.fieldsDistinct

private theorem grows_afterMerges {others : List Manifest} :
    Grows manifest (manifest.afterMerges others) := by
  induction others generalizing manifest with
  | nil => exact grows_of_prefix (List.prefix_refl _)
  | cons other rest inductionHypothesis =>
      have first : manifest.types <+: (manifest.merge other).1.types :=
        merge_types ▸ List.prefix_append _ _
      exact grows_of_prefix (first.trans inductionHypothesis.kept)

/-- Loading a list of types in pieces succeeds when loading it whole does and makes the same
manifest. Whatever manifests are merged, with or without success, what was there is kept and
the manifest stays a map from identities to types whose fields are distinct. A merge adds the
types before the first one that was there, and it fails when there is such a one. -/
theorem load_in_pieces :
    (∀ pieces loaded,
      empty.addPieces pieces = .ok loaded ↔ ofTypes pieces.flatten = .ok loaded) ∧
    (∀ manifest others, Grows manifest (manifest.afterMerges others)) ∧
    ∀ manifest other : Manifest,
      (manifest.merge other).1.types =
          manifest.types ++ other.types.takeWhile (fun definition =>
            !manifest.defines definition.id) ∧
        (manifest.merge other).2 =
          (other.types.find? fun definition => manifest.defines definition.id).map
            fun definition => .typeTwice definition.id :=
  ⟨fun _ _ => addPieces_eq_ok.trans ofTypes_eq_ok.symm, fun _ _ => grows_afterMerges,
    fun _ _ => ⟨merge_types, merge_fault⟩⟩

end BlockSchema.Manifest
