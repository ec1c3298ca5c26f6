import BlockSchema.Document.Tree
import BlockSchema.Document.Json.Token

/-!
Contract: the tree of JSON text.

Tokens are folded over a stack of open collections. The first complete value ends
the reading, whatever follows it. When the tokens end or go wrong before that, the
open collections are closed as damaged, so everything read up to there stays in the
tree.
-/

set_option autoImplicit false

namespace BlockSchema.Json

/-- What may come next inside the innermost open collection. -/
inductive Due where
  /-- A value, or the end of a collection that is still empty. -/
  | firstItem
  | item
  | firstKey
  | key
  | colon
  | value
  | separator
deriving DecidableEq, Repr

/-- An open collection with its parts latest first; an object may wait for the value
of a key. -/
inductive Frame where
  | list (items : List Tree)
  | object (entries : List (Key × Tree)) (pending : Option Key)

/-- The state of reading: under way, finished with a value, or stopped by damage. -/
inductive Progress where
  | open (stack : List Frame) (due : Due)
  | done (tree : Tree)
  | stopped (stack : List Frame)

/-- Puts a value that was just read into the innermost open collection. -/
def deliver (tree : Tree) : List Frame → Progress
  | [] => .done tree
  | .list items :: rest => .open (.list (tree :: items) :: rest) .separator
  | .object entries (some key) :: rest =>
      .open (.object ((key, tree) :: entries) none :: rest) .separator
  | .object entries none :: rest => .stopped (.object entries none :: rest)

/-- The start of a collection, refused when too many are open already. -/
def openFrame (limit : Nat) (frame : Frame) (due : Due) (stack : List Frame) : Progress :=
  if stack.length < limit then .open (frame :: stack) due else .stopped stack

def beginValue (limit : Nat) (stack : List Frame) (token : Token) : Progress :=
  match token with
  | .openList => openFrame limit (.list []) .firstItem stack
  | .openObject => openFrame limit (.object [] none) .firstKey stack
  | .null => deliver (.atom (.strict .null)) stack
  | .bool value => deliver (.atom (.strict (.bool value))) stack
  | .number value => deliver (.atom (.strict (.number value))) stack
  | .text value => deliver (.atom (.strict (.text value))) stack
  | _ => .stopped stack

/-- The end of the innermost collection, where it may end. -/
def closeFrame (stack : List Frame) (token : Token) : Progress :=
  match token, stack with
  | .closeList, .list items :: rest => deliver (.list items.reverse true) rest
  | .closeObject, .object entries none :: rest => deliver (.object entries.reverse true) rest
  | _, _ => .stopped stack

def advance (limit : Nat) (progress : Progress) (token : Token) : Progress :=
  match progress with
  | .done tree => .done tree
  | .stopped stack => .stopped stack
  | .open stack due =>
      match due with
      | .value | .item => beginValue limit stack token
      | .firstItem =>
          match token with
          | .closeList => closeFrame stack token
          | _ => beginValue limit stack token
      | .firstKey | .key =>
          match token, stack with
          | .text value, .object entries none :: rest =>
              .open (.object entries (some (.text value)) :: rest) .colon
          | .closeObject, _ => if due = .firstKey then closeFrame stack token else .stopped stack
          | _, _ => .stopped stack
      | .colon =>
          match token with
          | .colon => .open stack .value
          | _ => .stopped stack
      | .separator =>
          match token, stack with
          | .comma, .list items :: rest => .open (.list items :: rest) .item
          | .comma, .object entries none :: rest => .open (.object entries none :: rest) .key
          | _, _ => closeFrame stack token

/-- A damaged collection with the damaged part `inner` inside it, when there is one. -/
def closeDamaged (inner : Option Tree) (frame : Frame) : Tree :=
  match frame with
  | .list items => .list (items.reverse ++ inner.toList) false
  | .object entries none => .object entries.reverse false
  | .object entries (some key) => .object (((key, inner.getD .broken) :: entries).reverse) false

/-- The tree of everything read when the text went wrong. -/
def damaged (stack : List Frame) : Tree :=
  (stack.foldl (fun inner frame => some (closeDamaged inner frame)) none).getD .broken

/-- The tree of a list of tokens; at most `limit` collections may be open at once. -/
def treeOfTokens (limit : Nat) (tokens : List Token) : Tree :=
  match tokens.foldl (advance limit) (.open [] .value) with
  | .done tree => tree
  | .open stack _ => damaged stack
  | .stopped stack => damaged stack

/-- How many collections may be open at once in JSON text. -/
def depthLimit : Nat := 127

def read (text : String) : Tree :=
  treeOfTokens depthLimit (tokens text)

end BlockSchema.Json
