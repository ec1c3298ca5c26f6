import BlockSchema.Plan.Basic
import BlockSchema.Routine.Basic
import BlockSchema.Schema.Format
import BlockSchema.Text.Quoted

/-!
Contract: conversion routines as source text.

Each type gets a module with a function for each direction and a test that the zero
value survives both. The module over a group's types imports the helpers and the model
for all of them.
-/

set_option autoImplicit false

namespace BlockSchema

/-! ## Expressions -/

def ScalarKind.typeName : ScalarKind → String
  | .string => "String"
  | .int => "i64"
  | .bool => "bool"
  | .float => "f64"

def lookupText (field : String) : String :=
  "block.get(" ++ Text.quoted field ++ ")"

/-- A call of a helper that takes a field's name and its value. -/
def fieldCall (helper field rest : String) : String :=
  "runtime::" ++ helper ++ "(" ++ Text.quoted field ++ ", " ++ lookupText field ++ rest ++ ")?"

/-- The text of a reader of elements. -/
def ElementReader.text : ElementReader → String
  | .scalar kind converts field =>
      "|v| runtime::scalar_element::<" ++ kind.typeName ++ ">(" ++ Text.quoted field ++
        ", v)" ++ (if converts then ".map(Into::into)" else "")
  | .routine name => name

/-- The text of an expression that reads a field. -/
def ReadExpr.text : ReadExpr → String
  | .scalar kind converts field =>
      fieldCall ("expand_scalar::<" ++ kind.typeName ++ ">") field "" ++
        (if converts then ".into()" else "")
  | .optionalScalar kind converts field =>
      fieldCall ("expand_optional_scalar::<" ++ kind.typeName ++ ">") field "" ++
        (if converts then ".map(Into::into)" else "")
  | .block routine field =>
      fieldCall "expand_block" field (", " ++ routine) ++ ".unwrap_or_default()"
  | .optionalBlock routine field => fieldCall "expand_block" field (", " ++ routine)
  | .list field element => fieldCall "expand_list" field (", " ++ element.text)
  | .map field element => fieldCall "expand_map" field (", " ++ element.text)
  | .default => "Default::default()"

/-- A scalar taken out of a place as a value of its base type. -/
def Taking.text (place : String) : Taking → String
  | .plain => place
  | .cloned => place ++ ".clone()"
  | .converted kind => kind.typeName ++ "::from(" ++ place ++ ".clone())"

/-- A scalar that may be absent taken out of a place. -/
def Taking.optionalText (place : String) : Taking → String
  | .plain => place
  | .cloned => place ++ ".clone()"
  | .converted kind => place ++ ".clone()" ++ ".map(" ++ kind.typeName ++ "::from)"

/-- The place of an element behind its reference. A scalar that is copied is taken out of the
reference first. -/
def Taking.elementPlace : Taking → String
  | .plain => "*v"
  | .cloned | .converted _ => "v"

/-- The text of a writer of elements. -/
def ElementWriter.text : ElementWriter → String
  | .scalar taking => "|v| runtime::flatten_scalar(" ++ taking.text taking.elementPlace ++ ")"
  | .routine name => name

/-- The text of an expression that gives the value in a place. -/
def WriteExpr.text (place : String) : WriteExpr → String
  | .scalar taking => "runtime::flatten_scalar(" ++ taking.text place ++ ")"
  | .optionalScalar taking =>
      "runtime::flatten_optional_scalar(" ++ taking.optionalText place ++ ")"
  | .block routine => "runtime::flatten_block(&" ++ place ++ ", " ++ routine ++ ")"
  | .optionalBlock routine =>
      "runtime::flatten_optional_block(" ++ place ++ ".as_ref(), " ++ routine ++ ")"
  | .list element => "runtime::flatten_list(&" ++ place ++ ", " ++ element.text ++ ")"
  | .map element => "runtime::flatten_map(&" ++ place ++ ", " ++ element.text ++ ")"

/-! ## Modules -/

namespace Routine

def readLine (field : RoutineField) : String :=
  "        " ++ field.member ++ ": " ++ field.read.text ++ ","

def writeLine (field : RoutineField) : String :=
  "    block.insert(" ++ Text.quoted field.external ++ ".to_string(), " ++
    field.write.text ("input." ++ field.member) ++ ");"

def expandLines (routine : Routine) : List String :=
  ["pub fn " ++ routine.expandName ++ "(input: &Value) -> Result<" ++ routine.structName ++
      ", ExpandError> \x7b",
    "    let block = runtime::expect_block(" ++ Text.quoted routine.typeId.text ++
      ", input)?;"] ++
    (if routine.fields.isEmpty then ["    let _ = block;"] else []) ++
    ["    Ok(" ++ routine.structName ++ " \x7b"] ++ routine.fields.map readLine ++
    (if routine.completes then ["        ..Default::default()"] else []) ++
    ["    \x7d)", "\x7d"]

def flattenLines (routine : Routine) : List String :=
  let unread := routine.fields.isEmpty
  ["pub fn " ++ routine.flattenName ++ "(" ++ (if unread then "_input" else "input") ++ ": &" ++
      routine.structName ++ ") -> Value \x7b",
    "    let " ++ (if unread then "block" else "mut block") ++ " = Block::new();"] ++
    routine.fields.map writeLine ++
    ["    Value::Block(block)", "\x7d"]

/-- The test of the round trip of the zero value. -/
def testLines (routine : Routine) : List String :=
  ["#[cfg(test)]",
    "mod tests \x7b",
    "    use super::*;",
    "",
    "    #[test]",
    "    fn zero_value_round_trips() \x7b",
    "        let zero = " ++ routine.structName ++ "::default();",
    "        let flat = " ++ routine.flattenName ++ "(&zero);",
    "        let back = " ++ routine.expandName ++ "(&flat).unwrap();",
    "        assert_eq!(" ++ routine.flattenName ++ "(&back), flat);",
    "    \x7d",
    "\x7d"]

def textOfLines (lines : List String) : String :=
  String.join (lines.map fun line => line ++ "\n")

def markerLine : String := "// " ++ generatedMarker

def source (routine : Routine) : String :=
  textOfLines
    ([markerLine, "use super::*;", ""] ++ routine.expandLines ++ [""] ++
      routine.flattenLines ++ [""] ++ routine.testLines)

/-- The source text of the module over the types of a group. -/
def moduleSource (types : List TypeId) (settings : Settings) : String :=
  textOfLines
    ([markerLine,
        "#![allow(unused_imports)]",
        "",
        "use " ++ settings.runtimePath ++ "::convert::runtime::\x7bself, ExpandError\x7d;",
        "use " ++ settings.runtimePath ++ "::value::\x7bBlock, Value\x7d;",
        "use " ++ settings.modelPath ++ " as model;",
        ""] ++
      (types.map fun id => "mod " ++ id.stem ++ ";") ++ [""] ++
      types.map fun id => "pub use " ++ id.stem ++ "::*;")

end Routine

end BlockSchema
