import BlockSchema.Document.Yaml.Event
import BlockSchema.Document.Yaml.Resolution

/-!
Contract: the tree of the first document of YAML text.

Events are folded over a stack of open collections into nodes, which name the values
that aliases stand for. Nodes are then unfolded into a tree, every alias replaced by
what it stands for. Collections may be nested to a depth of 128, and the number of
aliases replaced is bounded by a multiple of the document's size.
-/

set_option autoImplicit false

namespace BlockSchema.Yaml

/-- A value of a document, before aliases are replaced. -/
inductive Node where
  | scalar (tag : Option String) (style : Style) (text : String)
  | alias (target : Nat)
  | list (tag : Option String) (items : List Node) (whole : Bool)
  | object (tag : Option String) (entries : List (Node × Node)) (whole : Bool)
  | broken
deriving Repr, Inhabited

/-- An open collection with its parts latest first. -/
inductive Frame where
  | list (number : Option Nat) (tag : Option String) (items : List Node)
  | object (number : Option Nat) (tag : Option String) (entries : List (Node × Node))
      (pending : Option Node)
deriving Repr

/-- The state of building nodes. -/
structure Nodes where
  stack : List Frame
  root : Option Node
  /-- The anchors seen, latest first, with the numbers of their values. -/
  anchors : List (String × Nat)
  /-- The finished values that anchors stand for. -/
  values : List (Nat × Node)
  /-- An alias stands for nothing, so the document ends before it. -/
  stopped : Bool
deriving Repr

namespace Nodes

def start : Nodes := ⟨[], none, [], [], false⟩

/-- Puts a node into the innermost open collection. -/
def deliver (nodes : Nodes) (node : Node) : Nodes :=
  match nodes.stack with
  | [] => { nodes with root := some node }
  | .list number tag items :: rest =>
      { nodes with stack := .list number tag (node :: items) :: rest }
  | .object number tag entries none :: rest =>
      { nodes with stack := .object number tag entries (some node) :: rest }
  | .object number tag entries (some key) :: rest =>
      { nodes with stack := .object number tag ((key, node) :: entries) none :: rest }

def enter (nodes : Nodes) (anchor : Option String) : Option Nat × Nodes :=
  match anchor with
  | none => (none, nodes)
  | some name =>
      (some nodes.anchors.length,
        { nodes with anchors := (name, nodes.anchors.length) :: nodes.anchors })

def keep (nodes : Nodes) (number : Option Nat) (node : Node) : Nodes :=
  match number with
  | none => nodes
  | some index => { nodes with values := (index, node) :: nodes.values }

/-- The node of a frame; a part that broke off can be put into it. -/
def close (frame : Frame) (inner : Option Node) (whole : Bool) : Option Nat × Node :=
  match frame with
  | .list number tag items => (number, .list tag (items.reverse ++ inner.toList) whole)
  | .object number tag entries none =>
      (number, .object tag
        (entries.reverse ++ inner.toList.map fun key => (key, Node.broken)) whole)
  | .object number tag entries (some key) =>
      (number, .object tag ((key, inner.getD .broken) :: entries).reverse whole)

def take (nodes : Nodes) (event : Event) : Nodes :=
  if nodes.stopped then nodes
  else
    match event with
    | .scalar anchor tag style text =>
        let (number, entered) := nodes.enter anchor
        (entered.keep number (.scalar tag style text)).deliver (.scalar tag style text)
    | .alias name =>
        match nodes.anchors.lookup name with
        | some number => nodes.deliver (.alias number)
        | none => { nodes with stopped := true }
    | .openList anchor tag =>
        let (number, entered) := nodes.enter anchor
        { entered with stack := .list number tag [] :: entered.stack }
    | .openObject anchor tag =>
        let (number, entered) := nodes.enter anchor
        { entered with stack := .object number tag [] none :: entered.stack }
    | .close =>
        match nodes.stack with
        | [] => nodes
        | frame :: rest =>
            let (number, node) := close frame none true
            ({ nodes with stack := rest }.keep number node).deliver node

/-- Closes the collections that are still open as damaged, around the part inside. -/
def closeAll (inner : Option Node) (nodes : Nodes) : List Frame → Nodes
  | [] => { nodes with root := nodes.root.or inner }
  | frame :: rest =>
      let (number, node) := close frame inner false
      closeAll (some node) (nodes.keep number node) rest

end Nodes

/-! ## Unfolding -/

/-- What an alias stands for, which is no alias itself. -/
def Node.meant (values : List (Nat × Node)) (node : Node) : Node :=
  match node with
  | .alias target =>
      match values.lookup target with
      | some (.alias _) => .broken
      | some value => value
      | none => .broken
  | other => other

def Node.isAlias : Node → Bool
  | .alias _ => true
  | _ => false

/-- Applies a computation with an allowance to every element. -/
def eachWith {α β : Type} (compute : α → Nat → β × Nat) : List α → Nat → List β × Nat
  | [], allowance => ([], allowance)
  | element :: rest, allowance =>
      let (value, left) := compute element allowance
      let (values, final) := eachWith compute rest left
      (value :: values, final)

def keyOf (values : List (Nat × Node)) (node : Node) : Key :=
  match node.meant values with
  | .scalar _ _ text => .text text
  | .list _ _ _ => .list
  | .object _ _ _ => .object
  | _ => .list

/-- Marks a tree whose tag is the document's own. -/
def markTree (tag : Option String) (tree : Tree) : Tree :=
  if tag.any isOwnTag then .tagged tree else tree

/-- Unfolds a node to a tree of at most some depth, with an allowance of aliases. A
document that asks for more is damaged there. -/
def unfold (values : List (Nat × Node)) : Nat → Node → Nat → Tree × Nat
  | depth, node, allowance =>
      if node.isAlias && allowance == 0 then (.broken, 0)
      else
        let left := if node.isAlias then allowance - 1 else allowance
        match depth, node.meant values with
        | _, .scalar tag style text => (scalarTree tag style text, left)
        | depth + 1, .list tag items whole =>
            let (trees, final) := eachWith (unfold values depth) items left
            (markTree tag (.list trees whole), final)
        | depth + 1, .object tag entries whole =>
            let (trees, final) :=
              eachWith
                (fun entry rest =>
                  let (tree, later) := unfold values depth entry.2 rest
                  ((keyOf values entry.1, tree), later))
                entries left
            (markTree tag (.object trees whole), final)
        | _, _ => (.broken, left)

def depthLimit : Nat := 128

/-- How many aliases a document may unfold for each of its events. -/
def aliasesPerEvent : Nat := 100

/-- Reads YAML text. A text without a value stands for an empty scalar. -/
def read (text : String) : Source :=
  match characters? text with
  | none => .damaged
  | some characters =>
      let found := events (tokens characters)
      let nodes := found.events.foldl Nodes.take .start
      let closed := nodes.closeAll none nodes.stack
      match closed.root with
      | none =>
          if found.whole && !nodes.stopped then ⟨scalarTree none .plain "", true⟩ else .damaged
      | some root =>
          ⟨(unfold closed.values depthLimit root (aliasesPerEvent * found.events.length)).1,
            found.whole && !nodes.stopped⟩

end BlockSchema.Yaml
