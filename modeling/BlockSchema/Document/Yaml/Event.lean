import BlockSchema.Document.Yaml.Token

/-!
Contract: the events of the first document of YAML text.

Tokens are read against a stack of what is due. Events stop where the tokens end too
early or where none fits; those before that stand. Places where a value is left out
give an empty plain scalar.
-/

set_option autoImplicit false

namespace BlockSchema.Yaml

/-- An event: the document's values in the order of their openings. -/
inductive Event where
  | scalar (anchor tag : Option String) (style : Style) (text : String)
  | alias (name : String)
  | openList (anchor tag : Option String)
  | openObject (anchor tag : Option String)
  | close
deriving DecidableEq, Repr

/-- What may come next. -/
inductive Due where
  | document
  | content
  | documentEnd
  | node (block indentless : Bool)
  | blockItem
  /-- An item of a list that is not indented below its key. -/
  | flatItem
  | blockKey
  | blockValue
  | flowItem (first : Bool)
  | pairKey
  | pairValue
  | pairEnd
  | flowKey (first : Bool)
  | flowValue
  | flowNoValue
  | finished
deriving DecidableEq, Repr

/-- The state of reading events. -/
structure Grammar where
  stack : List Due
  tokens : List Token
  /-- The handles of tags that the document declares. -/
  handles : List (String × String)
deriving Repr

/-- The outcome of a step; none for the next state where the tokens do not fit. -/
abbrev Step := List Event × Option Grammar

def standardHandles : List (String × String) :=
  [("!", "!"), ("!!", "tag:yaml.org,2002:")]

def emptyScalar : Event := .scalar none none .plain ""

def stuck : Step := ([], none)

namespace Grammar

def go (grammar : Grammar) (events : List Event) (stack : List Due) (tokens : List Token) : Step :=
  (events, some { grammar with stack := stack, tokens := tokens })

/-- The full text of a tag, when its handle is known. -/
def tagText? (grammar : Grammar) (tag : TagText) : Option String :=
  if tag.handle = "" then some tag.suffix
  else (grammar.handles.lookup tag.handle).map fun meant => meant ++ tag.suffix

/-- What stands before a value. -/
structure Properties where
  anchor : Option String
  tag : Option TagText

/-- The anchor and the tag before a value, in either order. -/
def properties : List Token → Properties × List Token
  | .anchor name :: .tag text :: rest => (⟨some name, some text⟩, rest)
  | .tag text :: .anchor name :: rest => (⟨some name, some text⟩, rest)
  | .anchor name :: rest => (⟨some name, none⟩, rest)
  | .tag text :: rest => (⟨none, some text⟩, rest)
  | rest => (⟨none, none⟩, rest)

/-- Whether the tokens go on with one of some kind. -/
def goesOn (tokens : List Token) (ends : Token → Bool) : Option Bool :=
  tokens.head?.map fun token => !ends token

/-- Tokens that end a value in a block object. -/
def endsBlockValue : Token → Bool
  | .key | .value | .closeBlock => true
  | _ => false

def endsBlockItem : Token → Bool
  | .item | .closeBlock => true
  | _ => false

def endsFlatItem : Token → Bool
  | .item | .key | .value | .closeBlock => true
  | _ => false

/-- Tokens that end a value between brackets. -/
def endsListValue : Token → Bool
  | .comma | .closeList => true
  | _ => false

/-- Tokens that end a key of a pair between brackets. -/
def endsPairKey : Token → Bool
  | .value | .comma | .closeList => true
  | _ => false

def endsFlowKey : Token → Bool
  | .value | .comma | .closeObject => true
  | _ => false

def endsFlowValue : Token → Bool
  | .comma | .closeObject => true
  | _ => false

/-- Reads a value, or leaves one out where a token comes that ends it. -/
def valueOr
    (grammar : Grammar)
    (ends : Token → Bool)
    (block indentless : Bool)
    (after : Due)
    (stack : List Due)
    (tokens : List Token) :
    Step :=
  match goesOn tokens ends with
  | none => stuck
  | some true => grammar.go [] (.node block indentless :: after :: stack) tokens
  | some false => grammar.go [emptyScalar] (after :: stack) tokens

/-- Reads a value with its properties. A lone exclamation mark as the tag of a scalar
asks for nothing. -/
def node (grammar : Grammar) (block indentless : Bool) (stack : List Due) (tokens : List Token) :
    Step :=
  match tokens with
  | .alias name :: rest => grammar.go [.alias name] stack rest
  | _ =>
      let (given, rest) := properties tokens
      let tag? : Option (Option String) :=
        match given.tag with
        | none => some none
        | some text => (grammar.tagText? text).map some
      match tag?, rest with
      | none, _ => stuck
      | some _, [] => stuck
      | some tag, token :: later =>
          if indentless && token == .item then
            grammar.go [.openList given.anchor tag] (.flatItem :: stack) rest
          else
            match token with
            | .scalar style text =>
                let kept := if tag = some "!" then none else tag
                grammar.go [.scalar given.anchor kept style text] stack later
            | .openList => grammar.go [.openList given.anchor tag] (.flowItem true :: stack) later
            | .openObject =>
                grammar.go [.openObject given.anchor tag] (.flowKey true :: stack) later
            | .openBlockList =>
                if block then grammar.go [.openList given.anchor tag] (.blockItem :: stack) later
                else stuck
            | .openBlockObject =>
                if block then grammar.go [.openObject given.anchor tag] (.blockKey :: stack) later
                else stuck
            | _ =>
                if given.anchor.isSome || given.tag.isSome then
                  grammar.go [.scalar given.anchor tag .plain ""] stack rest
                else stuck

/-- Reads the directives before a document; none when they are inconsistent. -/
def directives (seenVersion : Bool) (declared : List (String × String)) :
    List Token → Option (List (String × String) × List Token)
  | .version major minor :: rest =>
      if seenVersion || major != 1 || !(minor == 1 || minor == 2) then none
      else directives true declared rest
  | .handle handle meant :: rest =>
      if (declared.lookup handle).isSome then none
      else directives seenVersion (declared ++ [(handle, meant)]) rest
  | tokens => some (declared, tokens)

def openDocument (grammar : Grammar) : Step :=
  let explicit : Bool :=
    match grammar.tokens with
    | .version _ _ :: _ | .handle _ _ :: _ | .documentStart :: _ => true
    | _ => false
  match grammar.tokens with
  | [] => stuck
  | [.finish] => grammar.go [] [.finished] [.finish]
  | tokens =>
      if explicit then
        match directives false [] tokens with
        | some (declared, .documentStart :: rest) =>
            ([], some ⟨[.content, .documentEnd], rest, declared ++ standardHandles⟩)
        | _ => stuck
      else grammar.go [] [.node true false, .documentEnd] tokens

/-- An item between brackets, after the comma. -/
def flowItem (grammar : Grammar) (stack : List Due) (tokens : List Token) : Step :=
  match tokens with
  | [] => stuck
  | .closeList :: rest => grammar.go [.close] stack rest
  | .key :: rest => grammar.go [.openObject none none] (.pairKey :: stack) rest
  | _ => grammar.go [] (.node false false :: .flowItem false :: stack) tokens

def flowKey (grammar : Grammar) (stack : List Due) (tokens : List Token) : Step :=
  match tokens with
  | [] => stuck
  | .closeObject :: rest => grammar.go [.close] stack rest
  | .key :: rest => grammar.valueOr endsFlowKey false false .flowValue stack rest
  | _ => grammar.go [] (.node false false :: .flowNoValue :: stack) tokens

def step (grammar : Grammar) (due : Due) (stack : List Due) : Step :=
  match due with
  | .document => grammar.openDocument
  | .content =>
      match grammar.tokens with
      | [] => stuck
      | token :: _ =>
          match token with
          | .version _ _ | .handle _ _ | .documentStart | .documentEnd | .finish =>
              grammar.go [emptyScalar] stack grammar.tokens
          | _ => grammar.node true false stack grammar.tokens
  | .documentEnd =>
      match grammar.tokens with
      | [] => stuck
      | tokens => grammar.go [] [.finished] tokens
  | .node block indentless => grammar.node block indentless stack grammar.tokens
  | .blockItem =>
      match grammar.tokens with
      | .item :: rest => grammar.valueOr endsBlockItem true false .blockItem stack rest
      | .closeBlock :: rest => grammar.go [.close] stack rest
      | _ => stuck
  | .flatItem =>
      match grammar.tokens with
      | [] => stuck
      | .item :: rest => grammar.valueOr endsFlatItem true false .flatItem stack rest
      | tokens => grammar.go [.close] stack tokens
  | .blockKey =>
      match grammar.tokens with
      | .key :: rest => grammar.valueOr endsBlockValue true true .blockValue stack rest
      | .closeBlock :: rest => grammar.go [.close] stack rest
      | _ => stuck
  | .blockValue =>
      match grammar.tokens with
      | [] => stuck
      | .value :: rest => grammar.valueOr endsBlockValue true true .blockKey stack rest
      | tokens => grammar.go [emptyScalar] (.blockKey :: stack) tokens
  | .flowItem first =>
      match first, grammar.tokens with
      | true, tokens => grammar.flowItem stack tokens
      | false, .comma :: rest => grammar.flowItem stack rest
      | false, .closeList :: rest => grammar.go [.close] stack rest
      | false, _ => stuck
  | .pairKey =>
      match grammar.tokens with
      | [] => stuck
      | token :: rest =>
          if endsPairKey token then grammar.go [emptyScalar] (.pairValue :: stack) rest
          else grammar.go [] (.node false false :: .pairValue :: stack) grammar.tokens
  | .pairValue =>
      match grammar.tokens with
      | [] => stuck
      | .value :: rest => grammar.valueOr endsListValue false false .pairEnd stack rest
      | tokens => grammar.go [emptyScalar] (.pairEnd :: stack) tokens
  | .pairEnd => grammar.go [.close] (.flowItem false :: stack) grammar.tokens
  | .flowKey first =>
      match first, grammar.tokens with
      | true, tokens => grammar.flowKey stack tokens
      | false, .comma :: rest => grammar.flowKey stack rest
      | false, .closeObject :: rest => grammar.go [.close] stack rest
      | false, _ => stuck
  | .flowValue =>
      match grammar.tokens with
      | [] => stuck
      | .value :: rest => grammar.valueOr endsFlowValue false false (.flowKey false) stack rest
      | tokens => grammar.go [emptyScalar] (.flowKey false :: stack) tokens
  | .flowNoValue => grammar.go [emptyScalar] (.flowKey false :: stack) grammar.tokens
  | .finished => stuck

end Grammar

/-- The events of a document, and whether the text ends with it. -/
structure DocumentEvents where
  events : List Event
  /-- The document ended, and nothing but its end follows. -/
  whole : Bool
deriving Repr

def endsText : List Token → Bool
  | .documentEnd :: rest => endsText rest
  | [.finish] => true
  | _ => false

/-- Reads events up to the end of the document or to where the tokens do not fit. A
token takes part in few steps, so a bound on their number loses nothing. -/
def eventsFrom : Nat → Grammar → DocumentEvents
  | 0, _ => ⟨[], false⟩
  | bound + 1, grammar =>
      match grammar.stack with
      | [] => ⟨[], false⟩
      | .finished :: _ => ⟨[], endsText grammar.tokens⟩
      | due :: stack =>
          match grammar.step due stack with
          | (events, none) => ⟨events, false⟩
          | (events, some next) =>
              let later := eventsFrom bound next
              ⟨events ++ later.events, later.whole⟩

/-- The events of the first document of some tokens. -/
def events (tokens : List Token) : DocumentEvents :=
  eventsFrom (4 * tokens.length + 8) ⟨[.document], tokens, standardHandles⟩

end BlockSchema.Yaml
