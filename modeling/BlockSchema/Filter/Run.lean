import BlockSchema.Document.Decode
import BlockSchema.Document.Json.Reader
import BlockSchema.Document.Json.Writer
import BlockSchema.Filter.Reader

/-!
Contract: what filters give.

A run gives documents in order and ends well or with a failure; what was given before a
failure stays known. Parts of objects and lists that are not there are nulls; a null
itself has no parts. What a whole filter gives has passed through text once.
-/

set_option autoImplicit false

namespace BlockSchema

/-! ## Documents as values -/

def Number.toReal : Number → Binary64
  | .int value => .ofInt value
  | .real value => value

def Number.same : Number → Number → Bool
  | .int left, .int right => left == right
  | left, right => left.toReal.agrees right.toReal

def Number.negated : Number → Number
  | .int value => .int (-value)
  | .real value => .real (.ofMagnitude (!value.isNegative) value.magnitude)

def Number.absolute : Number → Number
  | .int value => .int value.natAbs
  | .real value => .real (.ofMagnitude false value.magnitude)

namespace Document

mutual

/-- Equality of documents; the order of an object's entries does not count. -/
def same : Document → Document → Bool
  | .null, .null => true
  | .bool left, .bool right => left == right
  | .number left, .number right => left.same right
  | .text left, .text right => left == right
  | .list lefts, .list rights => sameItems lefts rights
  | .object lefts, .object rights => lefts.length == rights.length && sameEntries lefts rights
  | _, _ => false

def sameItems : List Document → List Document → Bool
  | [], [] => true
  | left :: lefts, right :: rights => left.same right && sameItems lefts rights
  | _, _ => false

/-- Whether every entry has an equal value under its key in other entries. -/
def sameEntries : List (String × Document) → List (String × Document) → Bool
  | [], _ => true
  | (key, left) :: lefts, rights =>
      match Entries.get? key rights with
      | some right => left.same right && sameEntries lefts rights
      | none => false

end

def isTrue : Document → Bool
  | .null | .bool false => false
  | _ => true

/-- The place in a list that a position means; negative positions count from the end. -/
def place? (length : Nat) (position : Int) : Option Nat :=
  if 0 ≤ position then some position.toNat
  else if -(length : Int) ≤ position then some (length + position).toNat
  else none

/-- The bound of a slice that a position means. -/
def boundOf (length : Nat) (position : Int) : Nat :=
  if 0 ≤ position then min position.toNat length
  else (length + position).toNat

def part? : Document → Document → Option Document
  | .list items, .number (.int position) =>
      some (((place? items.length position).bind fun place => items[place]?).getD .null)
  | .object entries, .text key => some ((Entries.get? key entries).getD .null)
  | _, _ => none

def parts? : Document → Option (List Document)
  | .list items => some items
  | .object entries => some (entries.map Prod.snd)
  | _ => none

/-- The position that a bound of a slice gives; one that is left out is open. -/
def slicePosition? : Option Document → Option (Option Int)
  | none => some none
  | some (.number (.int position)) => some (some position)
  | some _ => none

def between {α : Type} (low high : Option Int) (elements : List α) : List α :=
  let start := low.elim 0 (boundOf elements.length)
  let stop := high.elim elements.length (boundOf elements.length)
  (elements.drop start).take (stop - start)

/-- The slice of a document between two bounds. -/
def slice? (target : Document) (low high : Option Document) : Option Document :=
  match slicePosition? low, slicePosition? high with
  | some start, some stop =>
      match target with
      | .list items => some (.list (between start stop items))
      | .text value => some (.text (String.ofList (between start stop value.toList)))
      | _ => none
  | _, _ => none

/-- How long a document is: the size of a number, else the number of its parts. -/
def length? : Document → Option Document
  | .null => some (.nat 0)
  | .bool _ => none
  | .number value => some (.number value.absolute)
  | .text value => some (.nat value.length)
  | .list items => some (.nat items.length)
  | .object entries => some (.nat entries.length)

/-- The keys of a document: positions in order, or names in ascending order. -/
def keys? : Document → Option Document
  | .list items => some (.list ((List.range items.length).map .nat))
  | .object entries => some (.list ((Entries.keys (Entries.sortedOfList entries)).map .text))
  | _ => none

def negated? : Document → Option Document
  | .number value => some (.number value.negated)
  | _ => none

end Document

/-! ## Runs -/

/-- What a filter gives: documents in order, and whether it failed after them. -/
structure Run where
  given : List Document
  failed : Bool
deriving Repr

namespace Run

def give (documents : List Document) : Run := ⟨documents, false⟩

def fail : Run := ⟨[], true⟩

/-- A run that gives the result of an operation. -/
def ofOption : Option Document → Run
  | some document => give [document]
  | none => fail

/-- A run continued by another one, unless it failed. -/
def append (first second : Run) : Run :=
  if first.failed then first else ⟨first.given ++ second.given, second.failed⟩

/-- Runs for every document of a list, up to the first that fails. -/
def each (next : Document → Run) : List Document → Run
  | [] => give []
  | document :: rest => (next document).append (each next rest)

/-- A run whose documents are each run further. -/
def andThen (first : Run) (next : Document → Run) : Run :=
  let continued := each next first.given
  ⟨continued.given, continued.failed || first.failed⟩

def collected (run : Run) : Run :=
  if run.failed then fail else give [.list run.given]

/-- The useful documents of a run, or another run when it has none. -/
def orElse (first second : Run) : Run :=
  let useful := first.given.filter Document.isTrue
  if useful.isEmpty && !first.failed then second else ⟨useful, first.failed⟩

end Run

/-- A run for every pair of documents that two runs give, the first one's outermost. -/
def Run.pairs (left right : Run) (combine : Document → Document → Run) : Run :=
  left.andThen fun first => right.andThen fun second => combine first second

def Document.withEntry (object key value : Document) : Option Document :=
  match object, key with
  | .object entries, .text name => some (.object (Entries.insert name value entries))
  | _, _ => none

namespace Filter

mutual

def run (input : Document) : Filter → Run
  | .identity => .give [input]
  | .literal value => .give [value]
  | .index target key =>
      (run input target).pairs (run input key) fun document chosen =>
        .ofOption (document.part? chosen)
  | .slice target low high =>
      (run input target).andThen fun document =>
        (runOption input low).pairs (runOption input high) fun start stop =>
          .ofOption (document.slice? (low.map fun _ => start) (high.map fun _ => stop))
  | .parts target =>
      (run input target).andThen fun document =>
        match document.parts? with
        | some documents => .give documents
        | none => .fail
  | .pipe first second => (run input first).andThen fun document => run document second
  | .comma first second => (run input first).append (run input second)
  | .alternative first second => (run input first).orElse (run input second)
  | .equals left right =>
      (run input left).pairs (run input right) fun first second =>
        .give [.bool (first.same second)]
  | .differs left right =>
      (run input left).pairs (run input right) fun first second =>
        .give [.bool (!first.same second)]
  | .negate operand => (run input operand).andThen fun document => .ofOption document.negated?
  | .collect none => .give [.list []]
  | .collect (some content) => (run input content).collected
  | .object entries => runEntries input (.give [.object []]) entries
  | .conditional condition whenTrue whenFalse =>
      (run input condition).andThen fun document =>
        if document.isTrue then run input whenTrue else run input whenFalse
  | .call name arguments =>
      match arguments with
      | [] => runWord input name
      | [argument] =>
          if name = "select" then
            (run input argument).andThen fun document =>
              if document.isTrue then .give [input] else .give []
          else if name = "map" then
            match input.parts? with
            | some documents => (Run.each (fun part => run part argument) documents).collected
            | none => .fail
          else if name = "error" then (run input argument).andThen fun _ => .fail
          else .fail
      | _ => .fail
  | .variable _ => .fail

/-- Runs a filter that may be left out; then something stands for its result. -/
def runOption (input : Document) : Option Filter → Run
  | none => .give [.null]
  | some filter => run input filter

/-- Runs the entries of an object, each adding to the objects made so far. -/
def runEntries (input : Document) (made : Run) : List (Filter × Filter) → Run
  | [] => made
  | (key, value) :: rest =>
      runEntries input
        (made.andThen fun object =>
          (run input key).pairs (run input value) fun name document =>
            .ofOption (object.withEntry name document))
        rest

def runWord (input : Document) (name : String) : Run :=
  if name = "empty" then .give []
  else if name = "length" then .ofOption input.length?
  else if name = "keys" then .ofOption input.keys?
  else if name = "not" then .give [.bool (!input.isTrue)]
  else if name = "true" then .give [.bool true]
  else if name = "false" then .give [.bool false]
  else if name = "null" then .give [.null]
  else .fail

end

end Filter

/-- A document after it has passed through text. -/
def Document.throughText? (document : Document) : Option Document :=
  ((Json.read (Json.compact document)).readDocument []).toOption

/-- The documents that the filter of a text gives for a document. -/
def Document.filter? (document : Document) (text : String) :
    Except FilterError (List Document) :=
  match Filter.ofText? text with
  | none => .error .malformed
  | some filter =>
      if !filter.isDefined then .error .undefined
      else
        let run := filter.run document
        match run.failed, run.given.mapM Document.throughText? with
        | false, some documents => .ok documents
        | _, _ => .error .failed

end BlockSchema
