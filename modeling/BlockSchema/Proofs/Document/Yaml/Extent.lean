import BlockSchema.Document.Yaml.Event

/-!
Contract: what YAML text in order to its end is made of.

The steps of reading a document take tokens off the front, and none of them takes a mark that
stands between documents, but for the mark that the document itself starts with. So a text that
is in order to its end has one document, with nothing but end marks after it.
-/

set_option autoImplicit false

namespace BlockSchema.Yaml

/-! ## Marks between documents -/

/-- A mark that starts or ends a document. -/
def Token.isMark : Token → Bool
  | .documentStart | .documentEnd => true
  | _ => false

/-- Tokens are taken off the front, and no marks among them. -/
def Takes (before after : List Token) : Prop :=
  ∃ taken, before = taken ++ after ∧ ∀ token ∈ taken, token.isMark = false

namespace Takes

private theorem refl (tokens : List Token) : Takes tokens tokens :=
  ⟨[], rfl, by simp⟩

private theorem cons
    {token : Token}
    (noMark : token.isMark = false)
    {before after : List Token}
    (takes : Takes before after) :
    Takes (token :: before) after := by
  obtain ⟨taken, rfl, noMarks⟩ := takes
  exact ⟨token :: taken, rfl, List.forall_mem_cons.mpr ⟨noMark, noMarks⟩⟩

private theorem one {token : Token} (noMark : token.isMark = false) (rest : List Token) :
    Takes (token :: rest) rest :=
  .cons noMark (.refl rest)

private theorem trans
    {before between after : List Token}
    (first : Takes before between)
    (second : Takes between after) :
    Takes before after := by
  obtain ⟨taken, rfl, noMarks⟩ := first
  obtain ⟨more, rfl, noMore⟩ := second
  refine ⟨taken ++ more, (List.append_assoc _ _ _).symm, fun token member => ?_⟩
  rcases List.mem_append.mp member with inFirst | inSecond
  · exact noMarks token inFirst
  · exact noMore token inSecond

end Takes

/-- A step takes no marks from some tokens and begins no document. -/
def Stays (before : List Token) (step : Step) : Prop :=
  ∀ next, step.2 = some next → Takes before next.tokens ∧ .document ∉ next.stack

namespace Grammar

variable {grammar : Grammar} {stack : List Due} {before tokens : List Token}

private theorem stays_stuck : Stays before stuck := by
  intro next impossible
  cases impossible

private theorem stays_go
    {events : List Event}
    (takes : Takes before tokens)
    (begun : .document ∉ stack) :
    Stays before (grammar.go events stack tokens) := by
  intro next isNext
  obtain rfl := Option.some.inj isNext
  exact ⟨takes, begun⟩

private theorem stays_valueOr
    {ends : Token → Bool}
    {block indentless : Bool}
    {after : Due}
    (takes : Takes before tokens)
    (begun : .document ∉ after :: stack) :
    Stays before (grammar.valueOr ends block indentless after stack tokens) := by
  unfold valueOr
  split
  · exact stays_stuck
  · exact stays_go takes (by simpa using begun)
  · exact stays_go takes begun

private theorem takes_properties (tokens : List Token) : Takes tokens (properties tokens).2 := by
  unfold properties
  split
  · exact .cons rfl (.one rfl _)
  · exact .cons rfl (.one rfl _)
  · exact .one rfl _
  · exact .one rfl _
  · exact .refl _

private theorem stays_node
    {block indentless : Bool}
    (takes : Takes before tokens)
    (begun : .document ∉ stack) :
    Stays before (grammar.node block indentless stack tokens) := by
  unfold node
  split
  next name rest => exact stays_go (takes.trans (.one rfl rest)) begun
  next =>
    have afterProperties := takes.trans (takes_properties tokens)
    generalize properties tokens = found at afterProperties
    obtain ⟨given, rest⟩ := found
    dsimp only at afterProperties ⊢
    split
    next => exact stays_stuck
    next => exact stays_stuck
    next tag token later _ =>
      have afterToken : token.isMark = false → Takes before later := fun noMark =>
        afterProperties.trans (.one noMark later)
      split
      next => exact stays_go afterProperties (by simpa using begun)
      next =>
        split
        next => exact stays_go (afterToken rfl) begun
        next => exact stays_go (afterToken rfl) (by simpa using begun)
        next => exact stays_go (afterToken rfl) (by simpa using begun)
        next =>
          split
          next => exact stays_go (afterToken rfl) (by simpa using begun)
          next => exact stays_stuck
        next =>
          split
          next => exact stays_go (afterToken rfl) (by simpa using begun)
          next => exact stays_stuck
        next =>
          split
          next => exact stays_go afterProperties begun
          next => exact stays_stuck

private theorem stays_flowItem (takes : Takes before tokens) (begun : .document ∉ stack) :
    Stays before (grammar.flowItem stack tokens) := by
  unfold flowItem
  split
  · exact stays_stuck
  · exact stays_go (takes.trans (.one rfl _)) begun
  · exact stays_go (takes.trans (.one rfl _)) (by simpa using begun)
  · exact stays_go takes (by simpa using begun)

private theorem stays_flowKey (takes : Takes before tokens) (begun : .document ∉ stack) :
    Stays before (grammar.flowKey stack tokens) := by
  unfold flowKey
  split
  · exact stays_stuck
  · exact stays_go (takes.trans (.one rfl _)) begun
  · exact stays_valueOr (takes.trans (.one rfl _)) (by simpa using begun)
  · exact stays_go takes (by simpa using begun)

private theorem isMark_of_endsPairKey {token : Token} (ends : endsPairKey token = true) :
    token.isMark = false := by
  cases token <;> first | rfl | cases ends

/-- Once the document has begun, no step takes a mark. -/
theorem stays_step {due : Due} (begun : .document ∉ due :: stack) :
    Stays grammar.tokens (grammar.step due stack) := by
  have later : .document ∉ stack := fun member => begun (List.mem_cons_of_mem due member)
  obtain ⟨onStack, tokens, handles⟩ := grammar
  unfold step
  cases due with
  | document => exact absurd List.mem_cons_self begun
  | finished => exact stays_stuck
  | content =>
      dsimp only
      split
      · exact stays_stuck
      · split
        all_goals first
          | exact stays_go (.refl _) later
          | exact stays_node (.refl _) later
  | documentEnd =>
      dsimp only
      split
      · exact stays_stuck
      · exact stays_go (.refl _) (by simp)
  | node block indentless => exact stays_node (.refl _) later
  | blockItem =>
      dsimp only
      split
      · exact stays_valueOr (.one rfl _) (by simpa using later)
      · exact stays_go (.one rfl _) later
      · exact stays_stuck
  | flatItem =>
      dsimp only
      split
      · exact stays_stuck
      · exact stays_valueOr (.one rfl _) (by simpa using later)
      · exact stays_go (.refl _) later
  | blockKey =>
      dsimp only
      split
      · exact stays_valueOr (.one rfl _) (by simpa using later)
      · exact stays_go (.one rfl _) later
      · exact stays_stuck
  | blockValue =>
      dsimp only
      split
      · exact stays_stuck
      · exact stays_valueOr (.one rfl _) (by simpa using later)
      · exact stays_go (.refl _) (by simpa using later)
  | flowItem first =>
      dsimp only
      split
      · exact stays_flowItem (.refl _) later
      · exact stays_flowItem (.one rfl _) later
      · exact stays_go (.one rfl _) later
      · exact stays_stuck
  | pairKey =>
      dsimp only
      split
      · exact stays_stuck
      · split
        next ends => exact stays_go (.one (isMark_of_endsPairKey ends) _) (by simpa using later)
        next => exact stays_go (.refl _) (by simpa using later)
  | pairValue =>
      dsimp only
      split
      · exact stays_stuck
      · exact stays_valueOr (.one rfl _) (by simpa using later)
      · exact stays_go (.refl _) (by simpa using later)
  | pairEnd => exact stays_go (.refl _) (by simpa using later)
  | flowKey first =>
      dsimp only
      split
      · exact stays_flowKey (.refl _) later
      · exact stays_flowKey (.one rfl _) later
      · exact stays_go (.one rfl _) later
      · exact stays_stuck
  | flowValue =>
      dsimp only
      split
      · exact stays_stuck
      · exact stays_valueOr (.one rfl _) (by simpa using later)
      · exact stays_go (.refl _) (by simpa using later)
  | flowNoValue => exact stays_go (.refl _) (by simpa using later)

end Grammar

/-! ## Whole texts -/

private theorem exists_marks_of_endsText {tokens : List Token} (ends : endsText tokens = true) :
    ∃ marks, tokens = List.replicate marks .documentEnd ++ [.finish] := by
  fun_induction endsText tokens with
  | case1 rest inductionHypothesis =>
      obtain ⟨marks, rfl⟩ := inductionHypothesis ends
      exact ⟨marks + 1, rfl⟩
  | case2 => exact ⟨0, rfl⟩
  | case3 => cases ends

/-- A document that has begun takes no marks but the end marks at its end. -/
theorem eventsFrom_whole
    {bound : Nat}
    {grammar : Grammar}
    (begun : .document ∉ grammar.stack)
    (whole : (eventsFrom bound grammar).whole = true) :
    ∃ marks, Takes grammar.tokens (List.replicate marks .documentEnd ++ [.finish]) := by
  induction bound generalizing grammar with
  | zero => cases whole
  | succ bound inductionHypothesis =>
      unfold eventsFrom at whole
      split at whole
      next => cases whole
      next =>
        obtain ⟨marks, same⟩ := exists_marks_of_endsText whole
        exact ⟨marks, same ▸ .refl _⟩
      next due stack _ onStack =>
        split at whole
        next => cases whole
        next events next stepped =>
          rw [onStack] at begun
          obtain ⟨takes, begunNext⟩ := grammar.stays_step begun next (by rw [stepped])
          obtain ⟨marks, takesRest⟩ := inductionHypothesis begunNext whole
          exact ⟨marks, takes.trans takesRest⟩

/-- A directive, which stands before the start mark of a document. -/
def Token.isDirective : Token → Bool
  | .version _ _ | .handle _ _ => true
  | _ => false

/-- What stands before the content of a document: nothing, or its directives and its start
mark. -/
def IsOpening (opening : List Token) : Prop :=
  opening = [] ∨ ∃ directives, opening = directives ++ [.documentStart] ∧
    ∀ token ∈ directives, token.isDirective = true

/-- The tokens of one document: its directives and its start mark, when it has one, what it
holds, and the end marks after it. -/
def OneDocument (tokens : List Token) : Prop :=
  ∃ opening body marks,
    tokens = opening ++ body ++ (List.replicate marks .documentEnd ++ [.finish]) ∧
    IsOpening opening ∧ ∀ token ∈ body, token.isMark = false

private theorem exists_directives
    {seenVersion : Bool}
    {declared handles : List (String × String)}
    {tokens rest : List Token}
    (read : Grammar.directives seenVersion declared tokens = some (handles, rest)) :
    ∃ taken, tokens = taken ++ rest ∧ ∀ token ∈ taken, token.isDirective = true := by
  fun_induction Grammar.directives seenVersion declared tokens with
  | case1 => cases read
  | case2 seenVersion declared major minor later _ inductionHypothesis =>
      obtain ⟨taken, rfl, areDirectives⟩ := inductionHypothesis read
      exact ⟨.version major minor :: taken, rfl, List.forall_mem_cons.mpr ⟨rfl, areDirectives⟩⟩
  | case3 => cases read
  | case4 seenVersion declared handle meant later _ inductionHypothesis =>
      obtain ⟨taken, rfl, areDirectives⟩ := inductionHypothesis read
      exact ⟨.handle handle meant :: taken, rfl, List.forall_mem_cons.mpr ⟨rfl, areDirectives⟩⟩
  | case5 =>
      obtain ⟨-, rfl⟩ := Prod.mk.inj (Option.some.inj read)
      exact ⟨[], rfl, by simp⟩

/-- A document begins with its directives and its start mark, or at once. -/
theorem exists_opening
    {grammar next : Grammar}
    (opened : grammar.openDocument.2 = some next) :
    .document ∉ next.stack ∧
      ∃ opening, grammar.tokens = opening ++ next.tokens ∧ IsOpening opening := by
  unfold Grammar.openDocument at opened
  extract_lets explicit at opened
  split at opened
  next => cases opened
  next ends =>
    obtain rfl := Option.some.inj opened
    exact ⟨by simp, [], ends, .inl rfl⟩
  next =>
    split at opened
    next =>
      -- A directive or a start mark at the front asks for a start mark after the directives.
      split at opened
      next declared rest read =>
        obtain ⟨directives, isTaken, areDirectives⟩ := exists_directives read
        obtain rfl := Option.some.inj opened
        refine ⟨by simp, directives ++ [.documentStart], ?_, .inr ⟨_, rfl, areDirectives⟩⟩
        rw [isTaken, List.append_assoc]
        rfl
      next => cases opened
    next =>
      obtain rfl := Option.some.inj opened
      exact ⟨by simp, [], rfl, .inl rfl⟩

/-- Tokens that are in order to their end are those of one document. -/
theorem oneDocument_of_whole
    {tokens : List Token}
    (whole : (events tokens).whole = true) :
    OneDocument tokens := by
  unfold events eventsFrom at whole
  dsimp only at whole
  split at whole
  next => cases whole
  next events next stepped =>
    have opened : (Grammar.openDocument ⟨[.document], tokens, standardHandles⟩).2 = some next :=
      congrArg Prod.snd stepped
    obtain ⟨begun, opening, isOpening, explicit⟩ := exists_opening opened
    obtain ⟨marks, body, isBody, noMarks⟩ := eventsFrom_whole begun whole
    refine ⟨opening, body, marks, ?_, explicit, noMarks⟩
    rw [List.append_assoc, ← isBody]
    exact isOpening

end BlockSchema.Yaml
