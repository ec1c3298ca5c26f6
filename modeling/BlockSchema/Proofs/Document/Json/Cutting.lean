import BlockSchema.Proofs.Document.Json.Tokens

/-!
Contract: where JSON text can be cut without a change to its tokens.

A closing bracket ends its token, whatever stands before it, and leaves nothing in progress. So
the text after it has the tokens that it has by itself. A text without tokens is blank.
-/

set_option autoImplicit false

namespace BlockSchema.Json

/-! ## What a character gives -/

/-- A token is in progress. -/
def Mode.Busy : Mode → Prop
  | .between | .failed => False
  | _ => True

/-- What a character gives while a token is in progress, or when it begins one. -/
inductive Outcome : List Token × Mode → Prop where
  | pending {mode : Mode} (busy : mode.Busy) : Outcome ([], mode)
  | complete (token : Token) : Outcome ([token], .between)
  | refused : Outcome ([.bad], .failed)

private theorem Outcome.ite
    {condition : Prop}
    [Decidable condition]
    {first second : List Token × Mode}
    (ofFirst : Outcome first)
    (ofSecond : Outcome second) :
    Outcome (if condition then first else second) := by
  split
  · exact ofFirst
  · exact ofSecond

private theorem start_blank {character : Char} (blank : isBlank character = true) :
    start character = ([], .between) := by
  rw [start, if_pos blank]

private theorem start_outcome {character : Char} (notBlank : isBlank character = false) :
    Outcome (start character) := by
  rw [start, if_neg (by simp [notBlank])]
  repeat' apply Outcome.ite
  all_goals first
    | exact .complete _
    | exact .refused
    | exact .pending trivial

private theorem closeCode_outcome (characters : List Char) (high : Option Nat) (value : Nat) :
    Outcome (closeCode characters high value) := by
  unfold closeCode
  cases high with
  | none => exact .ite (.pending trivial) (.ite .refused (.pending trivial))
  | some first => exact .ite (.pending trivial) .refused

private theorem NumberDraft.token_eq (draft : NumberDraft) :
    draft.token = .bad ∨ ∃ value, draft.token = .number value := by
  unfold NumberDraft.token
  dsimp only
  split
  next value _ _ => exact .inr ⟨value, rfl⟩
  next => exact .inl rfl

/-- A number alone can end before a character, which then begins what it begins by itself. -/
theorem step_outcome {mode : Mode} (busy : mode.Busy) (character : Char) :
    Outcome (step mode character) ∨
      ∃ value, step mode character =
        (.number value :: (start character).1, (start character).2) := by
  cases mode with
  | between | failed => exact busy.elim
  | text characters =>
      left
      rw [step]
      exact .ite (.complete _) (.ite (.pending trivial) (.ite .refused (.pending trivial)))
  | escape characters =>
      left
      rw [step]
      refine .ite (.pending trivial) ?_
      cases escapeChar? character with
      | none => exact .refused
      | some meant => exact .pending trivial
  | code characters high count value =>
      left
      rw [step]
      cases Text.hexValue? character with
      | none => exact .refused
      | some digit =>
          exact .ite (closeCode_outcome _ _ _) (.pending trivial)
  | pairSlash characters high =>
      left
      rw [step]
      exact .ite (.pending trivial) .refused
  | pairMark characters high =>
      left
      rw [step]
      exact .ite (.pending trivial) .refused
  | number draft =>
      rw [step]
      cases draft.step character with
      | more next => exact .inl (.pending trivial)
      | malformed => exact .inl .refused
      | ended =>
          rcases draft.token_eq with bad | ⟨value, isNumber⟩
          · rw [bad]
            exact .inl .refused
          · rw [isNumber]
            exact .inr ⟨value, rfl⟩
  | word due token =>
      left
      rw [step.eq_def]
      dsimp only
      split
      · exact .refused
      · exact .ite (.complete _) .refused
      · exact .ite (.pending trivial) .refused

/-! ## Cuts -/

/-- The token of a closing bracket. -/
def Token.Closes (token : Token) : Prop :=
  token = .closeList ∨ token = .closeObject

private theorem Token.Closes.ne_bad {token : Token} (closes : token.Closes) : token ≠ .bad := by
  rintro rfl
  rcases closes with impossible | impossible <;> cases impossible

private theorem Token.Closes.ne_number {token : Token} (closes : token.Closes) (value : Number) :
    token ≠ .number value := by
  rintro rfl
  rcases closes with impossible | impossible <;> cases impossible

section Closing

variable {mode : Mode} {character : Char} {token : Token}

private theorem Outcome.eq_of_closes
    {given : List Token × Mode}
    (outcome : Outcome given)
    (closes : token.Closes)
    (member : token ∈ given.1) :
    given = ([token], .between) := by
  cases outcome with
  | pending busy => cases member
  | complete other => rw [List.mem_singleton.mp member]
  | refused => exact absurd (List.mem_singleton.mp member) closes.ne_bad

private theorem start_of_closes (closes : token.Closes) (member : token ∈ (start character).1) :
    start character = ([token], .between) := by
  cases blank : isBlank character with
  | true =>
      rw [start_blank blank] at member
      cases member
  | false => exact (start_outcome blank).eq_of_closes closes member

/-- A token of a bracket is the last one that its character gives, and nothing goes on. -/
theorem step_of_closes
    (closes : token.Closes)
    {before after : List Token}
    (given : (step mode character).1 = before ++ token :: after) :
    after = [] ∧ (step mode character).2 = .between := by
  have member : token ∈ (step mode character).1 := by simp [given]
  have alone : ∀ {front : List Token}, [token] = front ++ token :: after → after = [] := by
    intro front same
    cases front with
    | nil => exact (List.cons.inj same).2.symm
    | cons first others => simp at same
  by_cases busy : mode.Busy
  · rcases step_outcome busy character with outcome | ⟨value, number⟩
    · rw [outcome.eq_of_closes closes member] at given ⊢
      exact ⟨alone given, rfl⟩
    · rw [number] at given member ⊢
      have begun := start_of_closes closes (List.mem_of_ne_of_mem (closes.ne_number value) member)
      rw [begun] at given ⊢
      cases before with
      | nil => exact absurd (List.cons.inj given).1.symm (closes.ne_number value)
      | cons first others => exact ⟨alone (List.cons.inj given).2, rfl⟩
  · cases mode with
    | between =>
        rw [step, start_of_closes closes member] at given ⊢
        exact ⟨alone given, rfl⟩
    | failed => cases member
    | _ => exact absurd trivial busy

private theorem finish_of_busy (busy : mode.Busy) :
    finish mode = [.bad] ∨ ∃ value, finish mode = [.number value] := by
  cases mode with
  | between | failed => exact busy.elim
  | number draft =>
      rw [finish]
      rcases draft.token_eq with bad | ⟨value, isNumber⟩
      · exact .inl (by rw [bad])
      · exact .inr ⟨value, by rw [isNumber]⟩
  | _ => exact .inl rfl

private theorem not_closes_of_finish (member : token ∈ finish mode) : ¬ token.Closes := by
  intro closes
  by_cases busy : mode.Busy
  · rcases finish_of_busy busy with bad | ⟨value, number⟩
    · rw [bad] at member
      exact closes.ne_bad (List.mem_singleton.mp member)
    · rw [number] at member
      exact closes.ne_number value (List.mem_singleton.mp member)
  · cases mode with
    | between | failed => cases member
    | _ => exact busy trivial

/-- Text can be cut behind a closing bracket: what stands before the cut has the tokens up to
the bracket, whatever stands behind. -/
theorem exists_cut
    {characters : List Char}
    {before rest : List Token}
    (closes : token.Closes)
    (read : tokensFrom mode characters = before ++ token :: rest) :
    ∃ front back, characters = front ++ back ∧ rest = tokensFrom .between back ∧
      ∀ more, tokensFrom mode (front ++ more) = before ++ token :: tokensFrom .between more := by
  induction characters generalizing mode before with
  | nil =>
      have member : token ∈ finish mode := by
        change finish mode = _ at read
        simp [read]
      exact absurd closes (not_closes_of_finish member)
  | cons character others inductionHypothesis =>
      -- Either the bracket is this character, or it stands among the others.
      have further : ∀ between, before = (step mode character).1 ++ between →
          tokensFrom (step mode character).2 others = between ++ token :: rest →
          ∃ front back, character :: others = front ++ back ∧ rest = tokensFrom .between back ∧
            ∀ more, tokensFrom mode (front ++ more) =
              before ++ token :: tokensFrom .between more := by
        rintro between rfl later
        obtain ⟨front, back, rfl, isRest, kept⟩ := inductionHypothesis later
        refine ⟨character :: front, back, rfl, isRest, fun more => ?_⟩
        rw [List.cons_append, tokensFrom, kept, List.append_assoc]
      rw [tokensFrom] at read
      rcases List.append_eq_append_iff.mp read with
        ⟨between, isBefore, later⟩ | ⟨own, given, isRest⟩
      · exact further between isBefore later
      · cases own with
        | nil => exact further [] (by simpa using given.symm) (by simpa using isRest.symm)
        | cons first after =>
            obtain ⟨rfl, afterBracket⟩ := List.cons.inj isRest
            obtain ⟨rfl, nothing⟩ := step_of_closes closes given
            change rest = tokensFrom (step mode character).2 others at afterBracket
            rw [nothing] at afterBracket
            refine ⟨[character], others, rfl, afterBracket, fun more => ?_⟩
            rw [List.singleton_append, tokensFrom, given, nothing, List.append_assoc]
            rfl

end Closing

/-! ## Text without tokens -/

private theorem tokensFrom_ne_nil {mode : Mode} (busy : mode.Busy) (characters : List Char) :
    tokensFrom mode characters ≠ [] := by
  induction characters generalizing mode with
  | nil =>
      intro empty
      change finish mode = [] at empty
      rcases finish_of_busy busy with bad | ⟨value, number⟩
      · simp [bad] at empty
      · simp [number] at empty
  | cons character rest inductionHypothesis =>
      rw [tokensFrom]
      rcases step_outcome busy character with outcome | ⟨value, number⟩
      · generalize step mode character = given at outcome
        cases outcome with
        | pending later => exact inductionHypothesis later
        | complete token => exact List.cons_ne_nil _ _
        | refused => exact List.cons_ne_nil _ _
      · rw [number]
        exact List.cons_ne_nil _ _

/-- A text that has no tokens is blank, and no other one is. -/
theorem tokensFrom_eq_nil_iff {characters : List Char} :
    tokensFrom .between characters = [] ↔ ∀ character ∈ characters, isBlank character = true := by
  constructor
  · intro empty
    induction characters with
    | nil => simp
    | cons character rest inductionHypothesis =>
        rw [tokensFrom, step] at empty
        cases blank : isBlank character with
        | true =>
            rw [start_blank blank] at empty
            exact List.forall_mem_cons.mpr ⟨blank, inductionHypothesis empty⟩
        | false =>
            have outcome := start_outcome blank
            generalize start character = given at outcome empty
            cases outcome with
            | pending busy => exact absurd empty (tokensFrom_ne_nil busy rest)
            | complete token => cases empty
            | refused => cases empty
  · intro blank
    have skipped := tokensFrom_blanks blank []
    rw [List.append_nil] at skipped
    exact skipped

end BlockSchema.Json
