import BlockSchema.Proofs.Name.Member
import BlockSchema.Proofs.Output.Places
import BlockSchema.Proofs.Text.Reader
import BlockSchema.Routine.Source

/-!
Contract: emitted source text is read back as the routine that it was emitted for.

The reader knows the forms that emitted source takes: two functions of a module, the calls of
helpers in them, names and quoted texts. It is told the name of the structure, which may be any
text, and learns everything else from the source: how the routine and those that it calls are
called, the members, the names and the order of its fields, and the expression of each.

So what is proved of a routine is proved of the text that is emitted for it.
-/

set_option autoImplicit false

namespace BlockSchema

open Reader

/-! ## Readers of parts -/

/-- A character of a name in emitted source; `#` marks a name as raw. -/
def isNameChar (character : Char) : Bool :=
  Name.isExternalTail character || character == '#' || decide (128 ≤ character.toNat)

def ScalarKind.reader : Reader ScalarKind :=
  choose
    [("String", pure .string), ("i64", pure .int), ("bool", pure .bool), ("f64", pure .float)]

/-- Reads a quoted text that has to be the one given. -/
def quotedAs (text : String) : Reader Unit := do
  let found ← quoted
  if found = text then return () else failure

/-- Reads the name of a field and the look-up of its value in the block. -/
def fieldReader : Reader String := do
  literal "("
  let field ← quoted
  literal ", block.get("
  quotedAs field
  literal ")"
  return field

/-- Reads what is left of the name of a routine, and what stands after it. -/
def calledReader (direction stop : String) : Reader String := do
  let stem ← spanBefore isNameChar stop
  return direction ++ stem

/-- Reads one of two texts, as whether it is the first. -/
def whetherReader (yes no : String) : Reader Bool :=
  choose [(yes, pure true), (no, pure false)]

/-! ## Readers of expressions -/

/-- Reads a reader of elements, and the end of the call that it is passed to. -/
def ElementReader.reader : Reader ElementReader :=
  choose
    [("|v| runtime::scalar_element::<", do
        let kind ← ScalarKind.reader
        literal ">("
        let field ← quoted
        literal ", v"
        let converts ← whetherReader ").map(Into::into))?," "))?,"
        return .scalar kind converts field),
     ("expand_", do
        let routine ← calledReader "expand_" ")?,"
        return .routine routine)]

/-- The forms of expressions that read a field, with the comma after them. -/
def ReadExpr.readers : List (String × Reader ReadExpr) :=
  [("Default::default(),", pure .default),
   ("runtime::expand_scalar::<", do
      let kind ← ScalarKind.reader
      literal ">"
      let field ← fieldReader
      let converts ← whetherReader ")?.into()," ")?,"
      return .scalar kind converts field),
   ("runtime::expand_optional_scalar::<", do
      let kind ← ScalarKind.reader
      literal ">"
      let field ← fieldReader
      let converts ← whetherReader ")?.map(Into::into)," ")?,"
      return .optionalScalar kind converts field),
   ("runtime::expand_block", do
      let field ← fieldReader
      literal ", expand_"
      let routine ← calledReader "expand_" ")?"
      let defaults ← whetherReader ".unwrap_or_default()," ","
      return if defaults then .block routine field else .optionalBlock routine field),
   ("runtime::expand_list", do
      let field ← fieldReader
      literal ", "
      let element ← ElementReader.reader
      return .list field element),
   ("runtime::expand_map", do
      let field ← fieldReader
      literal ", "
      let element ← ElementReader.reader
      return .map field element)]

/-- Reads how a value of a named type is converted to a base type. -/
def convertedReader (place : String) (kind : ScalarKind) : Reader Taking := do
  literal place
  literal ".clone()))"
  return .converted kind

/-- The forms of conversions to a base type. -/
def convertedReaders (place : String) : List (String × Reader Taking) :=
  [("String::from(", convertedReader place .string),
   ("i64::from(", convertedReader place .int),
   ("bool::from(", convertedReader place .bool),
   ("f64::from(", convertedReader place .float)]

/-- The forms of taking a scalar out of an element, with a closing parenthesis. -/
def Taking.elementReaders : List (String × Reader Taking) :=
  ("*v)", pure .plain) :: ("v.clone())", pure .cloned) :: convertedReaders "v"

/-- The forms of taking a scalar out of a member, with a closing parenthesis. -/
def Taking.readers (member : String) : List (String × Reader Taking) :=
  ("input.", do
    literal member
    choose [(")", pure .plain), (".clone())", pure .cloned)]) ::
  convertedReaders ("input." ++ member)

/-- The forms of taking a scalar that may be absent out of a place. -/
def Taking.optionalReaders : List (String × Reader Taking) :=
  [(")", pure .plain),
   (".clone())", pure .cloned),
   (".clone().map(", do
      let kind ← ScalarKind.reader
      literal "::from))"
      return .converted kind)]

/-- Reads a writer of elements, and the end of the call that it is passed to. -/
def ElementWriter.reader : Reader ElementWriter :=
  choose
    [("|v| runtime::flatten_scalar(", do
        let taking ← choose Taking.elementReaders
        literal ")"
        return .scalar taking),
     ("flatten_", do
        let routine ← calledReader "flatten_" ")"
        return .routine routine)]

/-- The forms of expressions that give the value of a member. -/
def WriteExpr.readers (member : String) : List (String × Reader WriteExpr) :=
  [("runtime::flatten_scalar(", do
      let taking ← choose (Taking.readers member)
      return .scalar taking),
   ("runtime::flatten_optional_scalar(input.", do
      literal member
      let taking ← choose Taking.optionalReaders
      return .optionalScalar taking),
   ("runtime::flatten_block(&input.", do
      literal member
      literal ", flatten_"
      let routine ← calledReader "flatten_" ")"
      return .block routine),
   ("runtime::flatten_optional_block(input.", do
      literal member
      literal ".as_ref(), flatten_"
      let routine ← calledReader "flatten_" ")"
      return .optionalBlock routine),
   ("runtime::flatten_list(&input.", do
      literal member
      literal ", "
      let element ← ElementWriter.reader
      return .list element),
   ("runtime::flatten_map(&input.", do
      literal member
      literal ", "
      let element ← ElementWriter.reader
      return .map element)]

/-! ## Readers of functions -/

namespace Routine

/-- Reads a member and the expression that its value comes from. -/
def readReader : Reader (String × ReadExpr) := do
  literal "        "
  let member ← spanBefore isNameChar ": "
  let read ← choose ReadExpr.readers
  literal "\n"
  return (member, read)

/-- Reads the name of a field and how its value comes from a member that has been read. -/
def writeReader (read : String × ReadExpr) : Reader RoutineField := do
  literal "    block.insert("
  let external ← quoted
  literal ".to_string(), "
  let write ← choose (WriteExpr.readers read.1)
  line ");"
  return { member := read.1, external := external, read := read.2, write := write }

/-- What is read of a routine from its function that expands. -/
structure ExpandHalf where
  typeId : TypeId
  expandName : String
  reads : List (String × ReadExpr)
  completes : Bool

/-- How a function that expands ends, after its members. -/
def expandEnd (completes : Bool) : String :=
  if completes then "        ..Default::default()\n    \x7d)\n\x7d\n" else "    \x7d)\n\x7d\n"

/-- Reads the function that expands a value to a structure. -/
def expandReader (structName : String) : Reader ExpandHalf := do
  literal "pub fn "
  let expandName ← spanBefore isNameChar "(input: &Value) -> Result<"
  literal structName
  literal ", ExpandError> \x7b\n    let block = runtime::expect_block("
  let id ← quoted
  literal ", input)?;\n    "
  let _ ← whetherReader "let _ = block;\n    Ok(" "Ok("
  literal structName
  line " \x7b"
  let reads ← many readReader
  let completes ← whetherReader (expandEnd true) (expandEnd false)
  return { typeId := ⟨id⟩, expandName, reads, completes }

/-- Reads the function that flattens a structure with members that have been read. Without
members, the parameter is unused and the block stays as it is. -/
def flattenReader (structName : String) (reads : List (String × ReadExpr)) :
    Reader (String × List RoutineField) := do
  let unread := reads.isEmpty
  literal "pub fn "
  let flattenName ← spanBefore isNameChar (if unread then "(_input: &" else "(input: &")
  literal structName
  literal ") -> Value \x7b\n    let "
  line (if unread then "block = Block::new();" else "mut block = Block::new();")
  let fields ← reads.mapM writeReader
  literal "    Value::Block(block)\n\x7d\n"
  return (flattenName, fields)

/-- Reads the test of a routine. -/
def testReader (structName expandName flattenName : String) : Reader Unit :=
  lines
    ["#[cfg(test)]",
      "mod tests \x7b",
      "    use super::*;",
      "",
      "    #[test]",
      "    fn zero_value_round_trips() \x7b",
      "        let zero = " ++ structName ++ "::default();",
      "        let flat = " ++ flattenName ++ "(&zero);",
      "        let back = " ++ expandName ++ "(&flat).unwrap();",
      "        assert_eq!(" ++ flattenName ++ "(&back), flat);",
      "    \x7d",
      "\x7d"]

/-- Reads the module of a routine. -/
def reader (structName : String) : Reader Routine := do
  lines ["// " ++ generatedMarker, "use super::*;", ""]
  let expand ← expandReader structName
  line ""
  let flatten ← flattenReader structName expand.reads
  line ""
  testReader structName expand.expandName flatten.1
  return {
    typeId := expand.typeId
    structName := structName
    expandName := expand.expandName
    flattenName := flatten.1
    fields := flatten.2
    completes := expand.completes }

/-- The routine that a whole source text is for, given the name of its structure. -/
def ofSource? (structName text : String) : Option Routine :=
  match reader structName text.toList with
  | some (routine, []) => some routine
  | _ => none

end Routine

/-! ## Parts are read back -/

private theorem ScalarKind.reads
    (kind : ScalarKind) :
    Reads ScalarKind.reader kind.typeName kind := by
  cases kind <;> exact fun rest => rfl

private theorem reads_quotedAs (text : String) : Reads (quotedAs text) (Text.quoted text) () := by
  have reads : Reads (quotedAs text) (Text.quoted text ++ "") () := by
    refine (reads_quoted text).bind ?_
    rw [if_pos rfl]
    exact reads_pure ()
  rwa [String.append_empty] at reads

private theorem reads_field (field : String) :
    Reads fieldReader ("(" ++ (Text.quoted field ++ (", block.get(" ++
      (Text.quoted field ++ ")")))) field :=
  (reads_literal "(").bind ((reads_quoted field).bind ((reads_literal ", block.get(").bind
    ((reads_quotedAs field).bind ((reads_literal ")").map fun _ => field))))

private theorem reads_whether (yes no : String) (apart : Apart yes no) (whether : Bool) :
    Reads (whetherReader yes no) (if whether then yes else no) whether := by
  have marks : ([(yes, pure true), (no, pure false)].map
      (Prod.fst (β := Reader Bool))).Pairwise Apart :=
    List.pairwise_pair.mpr apart
  cases whether with
  | true => exact reads_choice 0 marks rfl
  | false => exact reads_choice 1 marks rfl

/-- A text of characters that names are made of. -/
def IsNameText (text : String) : Prop :=
  ∀ character ∈ text.toList, isNameChar character = true

instance (text : String) : Decidable (IsNameText text) :=
  decidable_of_iff (text.toList.all isNameChar = true) List.all_eq_true

theorem IsNameText.append
    {front back : String}
    (isFront : IsNameText front)
    (isBack : IsNameText back) :
    IsNameText (front ++ back) := by
  intro character inside
  rw [String.toList_append, List.mem_append] at inside
  exact inside.elim (isFront character) (isBack character)

private theorem isNameChar_of_isPlain {character : Char} (plain : Name.IsPlain character) :
    isNameChar character = true := by
  unfold isNameChar
  rcases plain with tail | large
  · rw [tail]
    rfl
  · simp [large]

private theorem TypeId.isNameText_stem (id : TypeId) : IsNameText id.stem :=
  fun _ member => isNameChar_of_isPlain (TypeId.isPlain_stem member)

private theorem TypeId.reads_called
    (id : TypeId)
    (direction : String)
    {stop : String}
    (ends : BeginsOther isNameChar stop) :
    Reads (calledReader direction stop) (id.stem ++ stop) (direction ++ id.stem) :=
  (reads_spanBefore ends id.isNameText_stem).map fun stem => direction ++ stem

/-! ## Expressions are read back -/

private theorem ElementReader.reads (field : String) (target : Target TypeId) :
    Reads ElementReader.reader ((ElementReader.ofTarget field target).text ++ ")?,")
      (.ofTarget field target) := by
  cases target with
  | scalar type =>
      have ending := reads_whether ").map(Into::into))?," "))?," (by decide)
        type.named.isSome
      refine .of_eq (reads_choose 0 (by decide) rfl
        (type.kind.reads.bind ((reads_literal ">(").bind ((reads_quoted field).bind
          ((reads_literal ", v").bind (ending.map _)))))) ?_
      unfold ElementReader.ofTarget ElementReader.text
      simp only [String.append_assoc]
      cases type.named.isSome <;> rfl
  | struct id =>
      refine .of_eq (reads_choose 1 (by decide) rfl
        ((id.reads_called "expand_" (by decide)).map _)) ?_
      unfold ElementReader.ofTarget ElementReader.text TypeId.expandName
      simp only [String.append_assoc]

private theorem ReadExpr.readers_apart : (ReadExpr.readers.map Prod.fst).Pairwise Apart := by
  decide

private theorem ReadExpr.reads_default :
    Reads (choose ReadExpr.readers) (ReadExpr.default.text ++ ",") .default :=
  (reads_choice 0 ReadExpr.readers_apart rfl).of_eq rfl

private theorem ReadExpr.reads_scalar (kind : ScalarKind) (converts : Bool) (field : String) :
    Reads (choose ReadExpr.readers) ((ReadExpr.scalar kind converts field).text ++ ",")
      (.scalar kind converts field) := by
  have ending := reads_whether ")?.into()," ")?," (by decide) converts
  refine .of_eq (reads_choose 1 ReadExpr.readers_apart rfl
    (kind.reads.bind ((reads_literal ">").bind ((reads_field field).bind (ending.map _))))) ?_
  unfold ReadExpr.text fieldCall lookupText
  simp only [String.append_assoc]
  cases converts <;> rfl

private theorem ReadExpr.reads_optionalScalar
    (kind : ScalarKind)
    (converts : Bool)
    (field : String) :
    Reads (choose ReadExpr.readers) ((ReadExpr.optionalScalar kind converts field).text ++ ",")
      (.optionalScalar kind converts field) := by
  have ending := reads_whether ")?.map(Into::into)," ")?," (by decide) converts
  refine .of_eq (reads_choose 2 ReadExpr.readers_apart rfl
    (kind.reads.bind ((reads_literal ">").bind ((reads_field field).bind (ending.map _))))) ?_
  unfold ReadExpr.text fieldCall lookupText
  simp only [String.append_assoc]
  cases converts <;> rfl

/-- Only the end of the text tells whether a block may be absent. -/
theorem ReadExpr.reads_block (id : TypeId) (field : String) :
    Reads (choose ReadExpr.readers) ((ReadExpr.block id.expandName field).text ++ ",")
        (.block id.expandName field) ∧
      Reads (choose ReadExpr.readers) ((ReadExpr.optionalBlock id.expandName field).text ++ ",")
        (.optionalBlock id.expandName field) := by
  have name : Reads (calledReader "expand_" ")?") (id.stem ++ ")?") id.expandName :=
    id.reads_called "expand_" (by decide)
  have ending := reads_whether ".unwrap_or_default()," "," (by decide)
  have forms := fun absent => reads_choose 3 ReadExpr.readers_apart rfl
    ((reads_field field).bind ((reads_literal ", expand_").bind
      (name.bind ((ending absent).map _))))
  constructor
  · refine (forms true).of_eq ?_
    unfold ReadExpr.text fieldCall lookupText TypeId.expandName
    simp only [String.append_assoc]
    rfl
  · refine (forms false).of_eq ?_
    unfold ReadExpr.text fieldCall lookupText TypeId.expandName
    simp only [String.append_assoc]
    rfl

private theorem ReadExpr.reads (field : String) (shape : FieldShape TypeId) :
    Reads (choose ReadExpr.readers) ((ReadExpr.ofShape field shape).text ++ ",")
      (.ofShape field shape) := by
  obtain ⟨arity, target⟩ := shape
  have element := ElementReader.reads field target
  cases arity with
  | plain =>
      cases target with
      | scalar type => exact ReadExpr.reads_scalar type.kind type.named.isSome field
      | struct id => exact (ReadExpr.reads_block id field).1
  | pointer =>
      cases target with
      | scalar type => exact ReadExpr.reads_optionalScalar type.kind type.named.isSome field
      | struct id => exact (ReadExpr.reads_block id field).2
  | list =>
      refine .of_eq (reads_choose 4 ReadExpr.readers_apart rfl
        ((reads_field field).bind ((reads_literal ", ").bind (element.map _)))) ?_
      unfold ReadExpr.ofShape ReadExpr.text fieldCall lookupText
      simp only [String.append_assoc]
      rfl
  | map =>
      refine .of_eq (reads_choose 5 ReadExpr.readers_apart rfl
        ((reads_field field).bind ((reads_literal ", ").bind (element.map _)))) ?_
      unfold ReadExpr.ofShape ReadExpr.text fieldCall lookupText
      simp only [String.append_assoc]
      rfl

/-! ## Takings are read back -/

private theorem reads_converted (place : String) (kind : ScalarKind) :
    Reads (convertedReader place kind) (place ++ ".clone()))") (.converted kind) :=
  (reads_literal place).bind ((reads_literal ".clone()))").map fun _ => Taking.converted kind)

private theorem reads_conversion
    (others : List (String × Reader Taking))
    (place : String)
    (apart : ((others ++ convertedReaders place).map Prod.fst).Pairwise Apart)
    (kind : ScalarKind) :
    Reads (choose (others ++ convertedReaders place))
      ((Taking.converted kind).text place ++ ")") (.converted kind) := by
  have stands : (others ++ convertedReaders place)[others.length + kind.ctorIdx]? =
      some (kind.typeName ++ "::from(", convertedReader place kind) := by
    rw [List.getElem?_append_right (Nat.le_add_right _ _), Nat.add_sub_cancel_left]
    cases kind <;> rfl
  refine (reads_choose _ apart stands (reads_converted place kind)).of_eq ?_
  unfold Taking.text
  simp only [String.append_assoc]
  rfl

namespace Taking

private theorem elementReaders_apart : (elementReaders.map Prod.fst).Pairwise Apart := by
  decide

private theorem optionalReaders_apart : (optionalReaders.map Prod.fst).Pairwise Apart := by
  decide

private theorem readers_apart
    (member : String) :
    ((readers member).map Prod.fst).Pairwise Apart := by
  show ["input.", "String::from(", "i64::from(", "bool::from(", "f64::from("].Pairwise Apart
  decide

private theorem reads_element (taking : Taking) :
    Reads (choose elementReaders) (taking.text taking.elementPlace ++ ")") taking := by
  cases taking with
  | plain => exact reads_choice 0 elementReaders_apart rfl
  | cloned => exact reads_choice 1 elementReaders_apart rfl
  | converted kind =>
      exact reads_conversion [("*v)", pure .plain), ("v.clone())", pure .cloned)] "v"
        elementReaders_apart kind

private theorem reads (member : String) (taking : Taking) :
    Reads (choose (readers member)) (taking.text ("input." ++ member) ++ ")") taking := by
  have endings : ([(")", pure .plain), (".clone())", pure .cloned)].map
      (Prod.fst (β := Reader Taking))).Pairwise Apart := by decide
  cases taking with
  | plain =>
      refine .of_eq (reads_choose 0 (readers_apart member) rfl
        ((reads_literal member).bind (reads_choice 0 endings rfl))) ?_
      unfold text
      simp only [String.append_assoc]
  | cloned =>
      refine .of_eq (reads_choose 0 (readers_apart member) rfl
        ((reads_literal member).bind (reads_choice 1 endings rfl))) ?_
      unfold text
      simp only [String.append_assoc]
      rfl
  | converted kind => exact reads_conversion [_] _ (readers_apart member) kind

/-- What follows the place tells how a scalar is taken that may be absent. -/
theorem reads_optional (taking : Taking) :
    Reads (choose optionalReaders) (taking.optionalText "" ++ ")") taking := by
  cases taking with
  | plain => exact reads_choice 0 optionalReaders_apart rfl
  | cloned => exact reads_choice 1 optionalReaders_apart rfl
  | converted kind =>
      refine .of_eq (reads_choose 2 optionalReaders_apart rfl
        (kind.reads.bind ((reads_literal "::from))").map _))) ?_
      unfold optionalText
      simp only [String.append_assoc]
      rfl

private theorem optionalText_eq (place : String) (taking : Taking) :
    taking.optionalText place = place ++ taking.optionalText "" := by
  cases taking <;> simp only [optionalText, String.append_assoc, String.append_empty,
    String.empty_append]

end Taking

/-! ## Writers are read back -/

private theorem ElementWriter.reads (target : Target TypeId) :
    Reads ElementWriter.reader ((ElementWriter.ofTarget target).text ++ ")")
      (.ofTarget target) := by
  cases target with
  | scalar type =>
      refine .of_eq (reads_choose 0 (by decide) rfl
        ((Taking.ofType type).reads_element.bind ((reads_literal ")").map _))) ?_
      unfold ElementWriter.ofTarget ElementWriter.text
      simp only [String.append_assoc]
  | struct id =>
      refine .of_eq (reads_choose 1 (by decide) rfl
        ((id.reads_called "flatten_" (by decide)).map _)) ?_
      unfold ElementWriter.ofTarget ElementWriter.text TypeId.flattenName
      simp only [String.append_assoc]

private theorem WriteExpr.readers_apart (member : String) :
    ((WriteExpr.readers member).map Prod.fst).Pairwise Apart := by
  show ["runtime::flatten_scalar(", "runtime::flatten_optional_scalar(input.",
    "runtime::flatten_block(&input.", "runtime::flatten_optional_block(input.",
    "runtime::flatten_list(&input.", "runtime::flatten_map(&input."].Pairwise Apart
  decide

private theorem WriteExpr.reads (member : String) (shape : FieldShape TypeId) :
    Reads (choose (WriteExpr.readers member))
      ((WriteExpr.ofShape shape).text ("input." ++ member)) (.ofShape shape) := by
  obtain ⟨arity, target⟩ := shape
  have element := ElementWriter.reads target
  have apart := WriteExpr.readers_apart member
  have place := reads_literal member
  have name : ∀ id : TypeId, Reads (calledReader "flatten_" ")") (id.stem ++ ")")
      id.flattenName := fun id => id.reads_called "flatten_" (by decide)
  cases arity with
  | plain =>
      cases target with
      | scalar type =>
          refine .of_eq (reads_choose 0 apart rfl
            (((Taking.ofType type).reads member).map _)) ?_
          unfold WriteExpr.ofShape WriteExpr.text
          simp only [String.append_assoc]
      | struct id =>
          refine .of_eq (reads_choose 2 apart rfl
            (place.bind ((reads_literal ", flatten_").bind ((name id).map _)))) ?_
          unfold WriteExpr.ofShape WriteExpr.text TypeId.flattenName
          simp only [String.append_assoc]
          rfl
  | pointer =>
      cases target with
      | scalar type =>
          refine .of_eq (reads_choose 1 apart rfl
            (place.bind ((Taking.ofType type).reads_optional.map _))) ?_
          show _ = "runtime::flatten_optional_scalar(" ++ Taking.optionalText _ _ ++ ")"
          rw [Taking.optionalText_eq ("input." ++ member)]
          simp only [String.append_assoc]
          rfl
      | struct id =>
          refine .of_eq (reads_choose 3 apart rfl
            (place.bind ((reads_literal ".as_ref(), flatten_").bind ((name id).map _)))) ?_
          unfold WriteExpr.ofShape WriteExpr.text TypeId.flattenName
          simp only [String.append_assoc]
          rfl
  | list =>
      refine .of_eq (reads_choose 4 apart rfl
        (place.bind ((reads_literal ", ").bind (element.map _)))) ?_
      unfold WriteExpr.ofShape WriteExpr.text
      simp only [String.append_assoc]
      rfl
  | map =>
      refine .of_eq (reads_choose 5 apart rfl
        (place.bind ((reads_literal ", ").bind (element.map _)))) ?_
      unfold WriteExpr.ofShape WriteExpr.text
      simp only [String.append_assoc]
      rfl

/-! ## Fields are read back -/

/-- A field whose parts are read back, each from its own text. -/
structure RoutineField.Legible (field : RoutineField) : Prop where
  member : IsNameText field.member
  read : Reads (choose ReadExpr.readers) (field.read.text ++ ",") field.read
  write : Reads (choose (WriteExpr.readers field.member))
    (field.write.text ("input." ++ field.member)) field.write

private theorem Name.isNameText_member (declared : String) :
    IsNameText (Name.member declared) := by
  have isSnake : IsNameText (Name.snake declared) := fun _ inside =>
    isNameChar_of_isPlain (Name.isPlain_snake inside)
  have escaped := Name.escapes_member declared
  generalize Name.member declared = name at escaped
  cases escaped with
  | path _ => exact isSnake.append (by decide)
  | raw _ => exact .append (by decide) isSnake
  | plain _ _ => exact isSnake

private theorem RoutineField.ofEntry_legible (entry : FieldConversion Conversion) :
    (RoutineField.ofEntry entry).Legible where
  member := by
    rw [RoutineField.ofEntry_member]
    exact Name.isNameText_member entry.declared
  read := by
    unfold RoutineField.ofEntry
    cases entry.readsInput with
    | true => exact ReadExpr.reads entry.external _
    | false => exact ReadExpr.reads_default
  write := WriteExpr.reads _ _

/-- What the function that expands says of a field. -/
def RoutineField.readHalf (field : RoutineField) : String × ReadExpr :=
  (field.member, field.read)

section Lines

variable {field : RoutineField}

private theorem Routine.reads_readLine (legible : field.Legible) :
    Reads Routine.readReader (Routine.readLine field ++ "\n") field.readHalf := by
  have member : Reads (spanBefore isNameChar ": ") (field.member ++ ": ") field.member :=
    reads_spanBefore (by decide) legible.member
  refine .of_eq ((reads_literal "        ").bind (member.bind (legible.read.bind
    ((reads_literal "\n").map fun _ => field.readHalf)))) ?_
  unfold Routine.readLine
  simp only [String.append_assoc]

private theorem Routine.reads_writeLine (legible : field.Legible) :
    Reads (Routine.writeReader field.readHalf) (Routine.writeLine field ++ "\n") field := by
  refine .of_eq ((reads_literal "    block.insert(").bind ((reads_quoted field.external).bind
    ((reads_literal ".to_string(), ").bind (legible.write.bind
      ((reads_line ");").map fun _ => field))))) ?_
  unfold Routine.writeLine
  simp only [String.append_assoc]

end Lines

/-! ## Functions are read back -/

namespace Routine

private theorem textOfLines_append (front back : List String) :
    textOfLines (front ++ back) = textOfLines front ++ textOfLines back := by
  unfold textOfLines
  rw [List.map_append, String.join_append]

private theorem textOfLines_cons (line : String) (rest : List String) :
    textOfLines (line :: rest) = line ++ ("\n" ++ textOfLines rest) := by
  unfold textOfLines
  rw [List.map_cons, String.join_cons, String.append_assoc]

private theorem textOfLines_nil : textOfLines [] = "" :=
  rfl

private theorem textOfLines_map (print : RoutineField → String) (fields : List RoutineField) :
    textOfLines (fields.map print) = String.join (fields.map fun field => print field ++ "\n") := by
  unfold textOfLines
  rw [List.map_map]
  rfl

private theorem fails_readReader (completes : Bool) :
    Fails readReader (expandEnd completes) := by
  -- Both ends begin like no member: with a dot after the indent, or with less of an indent.
  cases completes with
  | true =>
      have noName : Fails (spanBefore isNameChar ": ")
          "..Default::default()\n    \x7d)\n\x7d\n" :=
        fails_spanBefore (by decide) (by decide)
      have noLine : Fails readReader
          ("        " ++ "..Default::default()\n    \x7d)\n\x7d\n") :=
        (reads_literal "        ").fails noName.bind
      exact noLine
  | false =>
      have noIndent : Fails (literal "        ") "    \x7d)\n\x7d\n" :=
        fails_literal (by decide)
      exact noIndent.bind

private theorem reads_expandEnd (completes : Bool) :
    Reads (whetherReader (expandEnd true) (expandEnd false)) (expandEnd completes)
      completes := by
  have reads := reads_whether (expandEnd true) (expandEnd false) (by decide) completes
  cases completes <;> exact reads

/-- What the function that expands says. -/
def expandHalf (routine : Routine) : ExpandHalf where
  typeId := routine.typeId
  expandName := routine.expandName
  reads := routine.fields.map RoutineField.readHalf
  completes := routine.completes

variable {routine : Routine}

private theorem reads_expand
    (name : IsNameText routine.expandName)
    (legible : ∀ field ∈ routine.fields, field.Legible) :
    Reads (expandReader routine.structName) (textOfLines routine.expandLines)
      routine.expandHalf := by
  let print := fun read : String × ReadExpr =>
    "        " ++ read.1 ++ ": " ++ read.2.text ++ "," ++ "\n"
  have called : Reads (spanBefore isNameChar "(input: &Value) -> Result<")
      (routine.expandName ++ "(input: &Value) -> Result<") routine.expandName :=
    reads_spanBefore (by decide) name
  have structName := reads_literal routine.structName
  have unused := reads_whether "let _ = block;\n    Ok(" "Ok(" (by decide) routine.fields.isEmpty
  have ending := reads_expandEnd routine.completes
  have each : ∀ read ∈ routine.fields.map RoutineField.readHalf,
      Reads readReader (print read) read := by
    intro read inside
    obtain ⟨field, isField, rfl⟩ := List.mem_map.mp inside
    exact reads_readLine (legible field isField)
  have nonempty : ∀ read ∈ routine.fields.map RoutineField.readHalf, print read ≠ "" := by
    intro read _
    simp [print]
  apply Reads.of_eq
  · exact (reads_literal _).bind (called.bind (structName.bind ((reads_literal _).bind
      ((reads_quoted routine.typeId.text).bind ((reads_literal _).bind (unused.bind
        (structName.bind ((reads_line " \x7b").bind (.many each nonempty
          (fails_readReader routine.completes) (ending.map _))))))))))
  have lines : String.join (routine.fields.map fun field => readLine field ++ "\n") =
      String.join ((routine.fields.map RoutineField.readHalf).map print) := by
    rw [List.map_map]
    rfl
  unfold expandLines
  simp only [textOfLines_append, textOfLines_cons, textOfLines_nil, textOfLines_map, lines,
    String.append_assoc]
  cases routine.fields.isEmpty <;> cases routine.completes <;> rfl

private theorem reads_flatten
    (name : IsNameText routine.flattenName)
    (legible : ∀ field ∈ routine.fields, field.Legible) :
    Reads (flattenReader routine.structName (routine.fields.map RoutineField.readHalf))
      (textOfLines routine.flattenLines) (routine.flattenName, routine.fields) := by
  have ends : ∀ unread : Bool,
      BeginsOther isNameChar (if unread then "(_input: &" else "(input: &") := by decide
  have called := fun unread => reads_spanBefore (ends unread) name
  have fields := Reads.mapM fun field inside => reads_writeLine (legible field inside)
  apply Reads.of_eq
  · unfold flattenReader
    rw [List.isEmpty_map]
    exact (reads_literal _).bind ((called _).bind ((reads_literal _).bind ((reads_literal _).bind
      ((reads_line _).bind (fields.bind ((reads_literal _).map _))))))
  · unfold flattenLines
    simp only [textOfLines_append, textOfLines_cons, textOfLines_nil, textOfLines_map,
      String.append_assoc]
    cases routine.fields.isEmpty <;> rfl

/-- The routine is read off the text that is emitted for it. -/
theorem ofSource?_source
    (routine : Routine)
    (expandName : IsNameText routine.expandName)
    (flattenName : IsNameText routine.flattenName)
    (legible : ∀ field ∈ routine.fields, field.Legible) :
    ofSource? routine.structName routine.source = some routine := by
  have reads : Reads (reader routine.structName) routine.source routine := by
    apply Reads.of_eq
    · exact (reads_lines _).bind ((reads_expand expandName legible).bind ((reads_line _).bind
        ((reads_flatten flattenName legible).bind ((reads_line _).bind
          ((reads_lines _).map fun _ => routine)))))
    · unfold source
      simp only [textOfLines_append, String.append_assoc]
      rfl
  unfold ofSource?
  rw [← List.append_nil routine.source.toList, reads]

/-- Whatever the conversion, its routine is read off the text that is emitted for it. -/
theorem ofSource?_ofConversion (conversion : Conversion) :
    ofSource? conversion.typeId.modelName (ofConversion conversion).source =
      some (ofConversion conversion) := by
  refine ofSource?_source (ofConversion conversion) ?expand ?flatten ?fields
  case expand => exact .append (by decide) conversion.typeId.isNameText_stem
  case flatten => exact .append (by decide) conversion.typeId.isNameText_stem
  case fields =>
    intro field inside
    obtain ⟨entry, _, rfl⟩ := List.mem_map.mp inside
    exact RoutineField.ofEntry_legible entry

end Routine

end BlockSchema
