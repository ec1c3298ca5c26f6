import BlockSchema.Document.Tree
import BlockSchema.Number.Shortest
import BlockSchema.Text.Quoted

/-!
Contract: reading records of the domain out of trees, with errors that say where.

A record is described by its fields in declaration order. It is read from an object,
whose entries are taken in the order of the text, or, where the format allows it, from
a list of its fields. Reading stops at the first value that does not fit.

Formats differ in few words only, and those are the parts of `Dialect`.
-/

set_option autoImplicit false

namespace BlockSchema

/-- A step from a value to one of its parts. -/
inductive Segment where
  | field (name : String)
  | index (position : Nat)
  /-- The value under a key that is no text. -/
  | unnamed
deriving DecidableEq, Repr

/-- The way from the whole document to a part, outermost step first. -/
abbrev Path := List Segment

namespace Path

def segmentText : Segment → String
  | .field name => name
  | .index position => "[" ++ toString position ++ "]"
  | .unnamed => "?"

/-- The steps after the first one: names are set off by a dot. -/
def tailText : Path → String
  | [] => ""
  | .index position :: rest => segmentText (.index position) ++ tailText rest
  | segment :: rest => "." ++ segmentText segment ++ tailText rest

/-- The text of a path; the whole document is a single dot. -/
def text : Path → String
  | [] => "."
  | segment :: rest => segmentText segment ++ tailText rest

/-- The text of a path in the form that sets a leading position off by a dot. -/
def dottedText : Path → String
  | .index position :: rest => "." ++ text (.index position :: rest)
  | path => text path

end Path

/-- A value as an error names it. -/
inductive Found where
  | null
  | bool (value : Bool)
  | number (value : Number)
  | text (value : String)
  | wide (digits : String)
  | list
  | object
  | bareVariant
  | variant
deriving DecidableEq, Repr

/-- Why a value does not fit. -/
inductive Fault where
  | wrongType (found : Found) (expected : String)
  | wrongValue (found : Found) (expected : String)
  | wrongLength (length : Nat) (expected : String)
  | unknownField (name : String) (known : List String)
  | unknownVariant (name : String) (known : List String)
  | missingField (name : String)
  | duplicateField (name : String)
deriving DecidableEq, Repr

/-- Why text could not be read as a record of the domain. `holder` is the value in
whose reading the fault came up; it can be the parent of the value at `path`. -/
inductive DecodeError where
  | malformed
  | misfit (path holder : Path) (fault : Fault)
deriving DecidableEq, Repr

/-- What formats say and allow differently. -/
structure Dialect where
  /-- The word for a null. -/
  nullWord : String
  /-- The text of a real number. -/
  realText : Binary64 → String
  /-- A record may be written as a list of its fields. -/
  rows : Bool
  /-- A list with more items than the record has fields is damaged text rather than a
  wrong value. -/
  longRowsBreak : Bool
  /-- A negative integer where a natural number belongs is a wrong value rather than a
  wrong type. -/
  knowsNegative : Bool
  /-- Errors repeat the path of the holder before their own words. -/
  restates : Bool

namespace Dialect

def document : Dialect where
  nullWord := "null"
  realText := Shortest.documentText
  rows := true
  longRowsBreak := false
  knowsNegative := true
  restates := false

def json : Dialect := { document with longRowsBreak := true }

def yaml : Dialect where
  nullWord := "unit value"
  realText := Shortest.messageText
  rows := false
  longRowsBreak := false
  knowsNegative := false
  restates := true

end Dialect

/-! ## Wording -/

def Found.words (dialect : Dialect) : Found → String
  | .null => dialect.nullWord
  | .bool value => "boolean `" ++ toString value ++ "`"
  | .number (.int value) => "integer `" ++ toString value ++ "`"
  | .number (.real value) => "floating point `" ++ dialect.realText value ++ "`"
  | .text value => "string " ++ Text.quoted value
  | .wide digits =>
      "integer `" ++ digits ++ (if digits.startsWith "-" then "` as i128" else "` as u128")
  | .list => "sequence"
  | .object => "map"
  | .bareVariant => "unit variant"
  | .variant => "enum"

def choiceWords (names : List String) : String :=
  match names.map fun name => "`" ++ name ++ "`" with
  | [] => "there are none"
  | [only] => "expected " ++ only
  | [first, second] => "expected " ++ first ++ " or " ++ second
  | many => "expected one of " ++ String.intercalate ", " many

def Fault.words (dialect : Dialect) : Fault → String
  | .wrongType found expected =>
      "invalid type: " ++ found.words dialect ++ ", expected " ++ expected
  | .wrongValue found expected =>
      "invalid value: " ++ found.words dialect ++ ", expected " ++ expected
  | .wrongLength length expected =>
      "invalid length " ++ toString length ++ ", expected " ++ expected
  | .unknownField name known => "unknown field `" ++ name ++ "`, " ++ choiceWords known
  | .unknownVariant name known => "unknown variant `" ++ name ++ "`, " ++ choiceWords known
  | .missingField name => "missing field `" ++ name ++ "`"
  | .duplicateField name => "duplicate field `" ++ name ++ "`"

def DecodeError.message (dialect : Dialect) : DecodeError → String
  | .malformed => "syntax error"
  | .misfit path holder fault =>
      let restated :=
        if dialect.restates && !holder.isEmpty then Path.dottedText holder ++ ": " else ""
      "at path " ++ Path.text path ++ " → " ++ restated ++ fault.words dialect

/-! ## Scalars -/

/-- The fault of a scalar where something else is expected. -/
def Atom.fault (atom : Atom) (expected : String) : Fault :=
  match atom.meaning with
  | .null => .wrongType .null expected
  | .bool value => .wrongType (.bool value) expected
  | .number value => .wrongType (.number value) expected
  | .text value => .wrongType (.text value) expected
  | .wide digits => .wrongType (.wide digits) expected
  | .misfit written kind => .wrongValue (.text written) kind

abbrev Decoded (α : Type) := Except DecodeError α

namespace Tree

def untagged : Tree → Tree
  | .tagged value => value.untagged
  | tree => tree

/-- Refuses a value where something else is expected. -/
def refuse {α : Type} (path : Path) (expected : String) (tree : Tree) : Decoded α :=
  match tree.untagged with
  | .atom scalar => .error (.misfit path path (scalar.fault expected))
  | .list _ _ => .error (.misfit path path (.wrongType .list expected))
  | .object _ _ => .error (.misfit path path (.wrongType .object expected))
  | .tagged _ => .error .malformed
  | .broken => .error .malformed

/-- Reads a text; `expected` names the kind of text. -/
def readTextAs (expected : String) (path : Path) (tree : Tree) : Decoded String :=
  match tree.untagged with
  | .atom scalar =>
      match scalar.text? with
      | some value => .ok value
      | none => tree.refuse path expected
  | _ => tree.refuse path expected

def readText (path : Path) (tree : Tree) : Decoded String :=
  tree.readTextAs "a string" path

def readBool (path : Path) (tree : Tree) : Decoded Bool :=
  match tree.untagged with
  | .atom scalar =>
      match scalar.bool? with
      | some value => .ok value
      | none => tree.refuse path "a boolean"
  | _ => tree.refuse path "a boolean"

def atomNumber? (scalar : Atom) : Option Number :=
  match scalar.meaning with
  | .number value => some value
  | _ => none

/-- Reads a revision number of 32 bits. An integer out of range is a wrong value, though
some dialects see a wrong type in a negative one. -/
def readRevision (dialect : Dialect) (path : Path) (tree : Tree) : Decoded UInt32 :=
  match tree.untagged with
  | .atom scalar =>
      match scalar.natural? with
      | some value =>
          if value < twoTo 32 then .ok (UInt32.ofNat value)
          else .error (.misfit path path (.wrongValue (.number (.int value)) "u32"))
      | none =>
          match dialect.knowsNegative, atomNumber? scalar with
          | true, some (.int value) =>
              .error (.misfit path path (.wrongValue (.number (.int value)) "u32"))
          | _, _ => tree.refuse path "u32"
  | _ => tree.refuse path "u32"

/-- Reads a part that may be left out by a null. -/
def readOptional
    {α : Type}
    (read : Path → Tree → Decoded α)
    (path : Path)
    (tree : Tree) :
    Decoded (Option α) :=
  match tree with
  | .atom scalar =>
      match scalar.absent? with
      | some true => .ok none
      | some false => (read path tree).map some
      | none => tree.refuse path "null"
  | _ => (read path tree).map some

/-! ## Collections -/

def readItems
    {α : Type}
    (read : Path → Tree → Decoded α)
    (path : Path)
    (position : Nat) :
    List Tree → Decoded (List α)
  | [] => .ok []
  | item :: rest => do
      let value ← read (path ++ [.index position]) item
      let values ← readItems read path (position + 1) rest
      return value :: values

def readList
    {α : Type}
    (read : Path → Tree → Decoded α)
    (path : Path)
    (tree : Tree) :
    Decoded (List α) :=
  match tree.untagged with
  | .list items whole => do
      let values ← readItems read path 0 items
      if whole then return values else .error .malformed
  | .atom scalar => if scalar.blank then .ok [] else tree.refuse path "a sequence"
  | _ => tree.refuse path "a sequence"

/-- Reads the entries of a map with text keys, put in order. -/
def readMapEntries
    {α : Type}
    (read : Path → Tree → Decoded α)
    (path : Path)
    (found : Entries α) :
    List (Key × Tree) → Decoded (Entries α)
  | [] => .ok found
  | (.text key, tree) :: rest => do
      let value ← read (path ++ [.field key]) tree
      readMapEntries read path (found.insert key value) rest
  | (.list, _) :: _ =>
      .error (.misfit (path ++ [.unnamed]) path (.wrongType .list "a string"))
  | (.object, _) :: _ =>
      .error (.misfit (path ++ [.unnamed]) path (.wrongType .object "a string"))

/-- Reads a map with text keys. A key put again keeps its place and takes the last
value. -/
def readMap
    {α : Type}
    (read : Path → Tree → Decoded α)
    (path : Path)
    (tree : Tree) :
    Decoded (Entries α) :=
  match tree.untagged with
  | .object entries whole => do
      let values ← readMapEntries read path [] entries
      if whole then return values else .error .malformed
  | .atom scalar => if scalar.blank then .ok [] else tree.refuse path "a map"
  | _ => tree.refuse path "a map"

end Tree

/-! ## Records -/

/-- One field of a record: its name, whether it may be left out, and how its value is
put into the record. -/
structure RecordField (α : Type) where
  name : String
  optional : Bool
  read : Path → Tree → α → Decoded α

/-- A record: its name and its fields in declaration order. A strict record refuses
other fields. -/
structure Record (α : Type) where
  name : String
  strict : Bool
  fields : List (RecordField α)
  /-- The record with every optional field left out. -/
  start : α

namespace Record

variable {α : Type}

def expected (record : Record α) : String :=
  "struct " ++ record.name

/-- How errors name the record written as a list. -/
def expectedRow (record : Record α) : String :=
  record.expected ++ " with " ++ toString record.fields.length ++
    (if record.fields.length = 1 then " element" else " elements")

def fieldNames (record : Record α) : List String :=
  record.fields.map RecordField.name

def field? (record : Record α) (name : String) : Option (RecordField α) :=
  record.fields.find? fun field => field.name = name

/-- Takes entries in the order of the text; `seen` lists the fields already read. -/
def readEntries (record : Record α) (path : Path) (seen : List String) (value : α) :
    List (Key × Tree) → Decoded (List String × α)
  | [] => .ok (seen, value)
  | (.text key, tree) :: rest =>
      match record.field? key with
      | some field =>
          if seen.contains key then .error (.misfit path path (.duplicateField key))
          else do
            let next ← field.read (path ++ [.field key]) tree value
            readEntries record path (key :: seen) next rest
      | none =>
          if record.strict then
            .error (.misfit (path ++ [.field key]) path
              (.unknownField key record.fieldNames))
          else readEntries record path seen value rest
  | (.list, _) :: _ =>
      .error (.misfit (path ++ [.unnamed]) path (.wrongType .list "field identifier"))
  | (.object, _) :: _ =>
      .error (.misfit (path ++ [.unnamed]) path (.wrongType .object "field identifier"))

/-- The first field that must be there and is not. -/
def missing? (record : Record α) (seen : List String) : Option String :=
  (record.fields.find? fun field => !field.optional && !seen.contains field.name).map
    RecordField.name

def readRow
    (record : Record α)
    (dialect : Dialect)
    (path : Path)
    (total : Nat)
    (whole : Bool)
    (position : Nat)
    (value : α) :
    List (RecordField α) → List Tree → Decoded α
  | [], [] => if whole then .ok value else .error .malformed
  | [], _ :: _ =>
      if dialect.longRowsBreak || !whole then .error .malformed
      else .error (.misfit path path (.wrongLength total "fewer elements in array"))
  | field :: fields, [] =>
      if !whole then .error .malformed
      else if field.optional then
        readRow record dialect path total whole (position + 1) value fields []
      else .error (.misfit path path (.wrongLength position record.expectedRow))
  | field :: fields, item :: items => do
      let next ← field.read (path ++ [.index position]) item value
      readRow record dialect path total whole (position + 1) next fields items

def read (record : Record α) (dialect : Dialect) (path : Path) (tree : Tree) : Decoded α :=
  match tree.untagged with
  | .object entries whole => do
      let (seen, value) ← readEntries record path [] record.start entries
      if !whole then .error .malformed
      else
        match record.missing? seen with
        | some name => .error (.misfit path path (.missingField name))
        | none => .ok value
  | .list items whole =>
      if dialect.rows then
        readRow record dialect path items.length whole 0 record.start record.fields items
      else tree.refuse path record.expected
  | .atom scalar =>
      if scalar.blank then
        match record.missing? [] with
        | some name => .error (.misfit path path (.missingField name))
        | none => .ok record.start
      else tree.refuse path record.expected
  | _ => tree.refuse path record.expected

end Record

/-! ## Variants -/

/-- A choice written as a name, or as an object with the name as its only key. -/
structure Choice where
  name : String
  content : Option Tree

/-- Reads a choice among known names from a finished document. -/
def Tree.readChoice (known : List String) (path : Path) (tree : Tree) : Decoded Choice :=
  let pick (name : String) (content : Option Tree) : Decoded Choice :=
    if known.contains name then .ok ⟨name, content⟩
    else .error (.misfit path path (.unknownVariant name known))
  match tree with
  | .atom scalar =>
      match scalar.text? with
      | some name => pick name none
      | none => tree.refuse path "string or map"
  | .object [(.text name, content)] _ => pick name (some content)
  | .object _ _ =>
      .error (.misfit path path (.wrongValue .object "map with a single key"))
  | _ => tree.refuse path "string or map"

/-! ## Whole documents -/

mutual

/-- Reads a tree as a document. A key put again keeps its place and takes the last
value; a real number that is not finite becomes a null. -/
def Tree.readDocument (path : Path) : Tree → Decoded Document
  | .atom scalar =>
      match scalar.meaning with
      | .null => .ok .null
      | .bool value => .ok (.bool value)
      | .number (.int value) => .ok (.number (.int value))
      | .number (.real value) =>
          if value.isFinite then .ok (.number (.real value)) else .ok .null
      | .text value => .ok (.text value)
      | _ => .error (.misfit path path (scalar.fault "any valid JSON value"))
  | .list items whole => do
      let values ← Tree.readDocuments path 0 items
      if whole then return .list values else .error .malformed
  | .object entries whole => do
      let values ← Tree.readDocumentEntries path [] entries
      if whole then return .object values else .error .malformed
  | .tagged _ => .error (.misfit path path (.wrongType .variant "any valid JSON value"))
  | .broken => .error .malformed

def Tree.readDocuments (path : Path) (position : Nat) : List Tree → Decoded (List Document)
  | [] => .ok []
  | item :: rest => do
      let value ← Tree.readDocument (path ++ [.index position]) item
      let values ← Tree.readDocuments path (position + 1) rest
      return value :: values

/-- Reads the entries of an object as documents. -/
def Tree.readDocumentEntries (path : Path) (found : Entries Document) :
    List (Key × Tree) → Decoded (Entries Document)
  | [] => .ok found
  | (.text key, tree) :: rest => do
      let value ← Tree.readDocument (path ++ [.field key]) tree
      Tree.readDocumentEntries path (found.insert key value) rest
  | (.list, _) :: _ =>
      .error (.misfit (path ++ [.unnamed]) path (.wrongType .list "a string key"))
  | (.object, _) :: _ =>
      .error (.misfit (path ++ [.unnamed]) path (.wrongType .object "a string key"))

end

end BlockSchema
