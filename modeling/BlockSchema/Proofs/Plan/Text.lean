import BlockSchema.Plan.Format
import BlockSchema.Proofs.Document.Json.Records
import BlockSchema.Proofs.Document.Yaml.Extent

/-!
Contract: how much of its text a plan is read from.

A plan in JSON is read from the value that its text begins with. What follows the value is not
looked at: it may be blank, another plan or no JSON at all, and the plan is the same. A plan in
YAML is read from a text of one document, which nothing but end marks follow.
-/

set_option autoImplicit false

namespace BlockSchema

/-! ## Formats -/

private theorem TextFormat.ofPath_eq_yaml_iff {path : String} :
    TextFormat.ofPath path = .yaml ↔
      FilePath.extension? path = some "yaml" ∨ FilePath.extension? path = some "yml" := by
  unfold ofPath
  cases FilePath.extension? path with
  | none => simp
  | some extension =>
      by_cases isYaml : extension = "yaml" ∨ extension = "yml" <;>
        simp [yamlExtensions, isYaml]

/-! ## Whole texts -/

/-- The whole text is one JSON value, with blanks around it at most. -/
def Json.IsValue (text : String) : Prop :=
  ∃ document, tokens text = documentTokens document

/-- A text of a list or an object stays a value only when it is continued by blanks. -/
theorem Json.isValue_append_iff
    {document : Document}
    (hasParts : (∃ items, document = .list items) ∨ ∃ entries, document = .object entries)
    {front : String}
    (spelled : tokens front = documentTokens document)
    (rest : String) :
    IsValue (front ++ rest) ↔ ∀ character ∈ rest.toList, isBlank character = true := by
  obtain ⟨blanks, areBlank, continued⟩ := tokens_append hasParts spelled rest
  constructor
  · rintro ⟨whole, isWhole⟩
    rw [isWhole] at continued
    have nothing := tokensFrom_eq_nil_iff.mp (documentTokens_append continued)
    exact fun character member => nothing character (List.mem_append_right blanks member)
  · intro restBlank
    have nothing : tokensFrom .between (blanks ++ rest.toList) = [] := by
      rw [tokensFrom_eq_nil_iff]
      intro character member
      rcases List.mem_append.mp member with inBlanks | inRest
      · exact areBlank character inBlanks
      · exact restBlank character inRest
    rw [nothing, List.append_nil] at continued
    exact ⟨document, continued⟩

/-- YAML text that is in order to its end has the tokens of one document. -/
theorem Yaml.exists_tokens_of_whole {text : String} (whole : (read text).whole = true) :
    ∃ characters, characters? text = some characters ∧ OneDocument (tokens characters) := by
  unfold read at whole
  split at whole
  next => cases whole
  next characters isText =>
    refine ⟨characters, isText, oneDocument_of_whole ?_⟩
    dsimp only at whole
    split at whole
    next =>
      split at whole
      next inOrder => exact (Bool.and_eq_true_iff.mp inOrder).1
      next => cases whole
    next => exact (Bool.and_eq_true_iff.mp whole).1

/-! ## Plans -/

namespace Plan

/-- A text is one JSON value, nested no deeper than is read, that gives a plan. -/
def WrittenAs (plan : Plan) (text : String) : Prop :=
  ∃ document, Json.tokens text = Json.documentTokens document ∧
    document.depth ≤ Json.depthLimit ∧
    (Plan.record .json).read .json [] document.toTree = .ok plan

variable {path text : String} {plan : Plan}

private theorem ofFile?_eq_ok_iff :
    Plan.ofFile? path text = .ok plan ↔ Plan.ofText? (.ofPath path) text = .ok plan := by
  unfold ofFile?
  dsimp only
  cases ofText? (.ofPath path) text with
  | error error => simp
  | ok other => simp

/-- JSON text gives a plan exactly when it begins with one that does. -/
theorem ofText?_json_iff :
    Plan.ofText? .json text = .ok plan ↔
      ∃ front rest, text = front ++ rest ∧ plan.WrittenAs front := by
  unfold ofText?
  rw [TextFormat.dialect, Record.decode_json_iff]
  constructor
  · rintro ⟨front, rest, document, place, written⟩
    exact ⟨front, rest, place, document, written⟩
  · rintro ⟨front, rest, place, document, written⟩
    exact ⟨front, rest, document, place, written⟩

/-- YAML text gives a plan only when it is in order to its end. -/
theorem whole_of_ofText?_yaml (accepted : Plan.ofText? .yaml text = .ok plan) :
    (Yaml.read text).whole = true := by
  unfold ofText? at accepted
  obtain ⟨value, _, ofValue⟩ := Results.bind_eq_ok.mp accepted
  split at ofValue
  next whole => exact whole
  next => cases ofValue

end Plan

/-- A JSON text gives a plan exactly when it begins with a value that does; whatever follows the
value, the plan is the same, and the text is one JSON value only when blanks follow. A YAML
text gives a plan only when it has one document and nothing but end marks after it. -/
theorem Plan.ofFile?_extent (path text : String) (plan : Plan) :
    (¬ (FilePath.extension? path = some "yaml" ∨ FilePath.extension? path = some "yml") →
      (Plan.ofFile? path text = .ok plan ↔
        ∃ front rest, text = front ++ rest ∧ plan.WrittenAs front) ∧
      ∀ front, plan.WrittenAs front → ∀ rest,
        Plan.ofFile? path (front ++ rest) = .ok plan ∧
        (Json.IsValue (front ++ rest) ↔
          ∀ character ∈ rest.toList, Json.isBlank character = true)) ∧
    (FilePath.extension? path = some "yaml" ∨ FilePath.extension? path = some "yml" →
      Plan.ofFile? path text = .ok plan →
      ∃ characters, Yaml.characters? text = some characters ∧
        Yaml.OneDocument (Yaml.tokens characters)) := by
  constructor
  · intro notYaml
    have isJson : TextFormat.ofPath path = .json := by
      cases format : TextFormat.ofPath path with
      | json => rfl
      | yaml => exact absurd (TextFormat.ofPath_eq_yaml_iff.mp format) notYaml
    have accepts : ∀ {text : String}, Plan.ofFile? path text = .ok plan ↔
        ∃ front rest, text = front ++ rest ∧ plan.WrittenAs front := by
      intro text
      rw [ofFile?_eq_ok_iff, isJson, ofText?_json_iff]
    refine ⟨accepts, fun front written rest => ⟨accepts.mpr ⟨front, rest, rfl, written⟩, ?_⟩⟩
    obtain ⟨document, spelled, _, isRead⟩ := written
    exact Json.isValue_append_iff (Record.exists_parts_of_read isRead) spelled rest
  · intro isYaml accepted
    rw [ofFile?_eq_ok_iff, TextFormat.ofPath_eq_yaml_iff.mpr isYaml] at accepted
    exact Yaml.exists_tokens_of_whole (whole_of_ofText?_yaml accepted)

/-! ## A plan after a plan -/

namespace Drafts

/-- A plan of one group without types. -/
def plan (name : String) : Plan :=
  ⟨.standard, [⟨name, none, false, []⟩]⟩

def document (name : String) : Document :=
  .object [("groups", .list [.object [("name", .text name)]])]

/-- The text of the document in one line. -/
def text (name : String) : String :=
  "\x7b\"groups\": [\x7b\"name\": \"" ++ name ++ "\"\x7d]\x7d"

private theorem written_old : (plan "old").WrittenAs (text "old") := by
  refine ⟨document "old", by decide +kernel, by decide, ?_⟩
  exact Results.toOption_eq_some_iff.mp (by decide +kernel)

private theorem parts_old : (∃ items, document "old" = .list items) ∨
    ∃ entries, document "old" = .object entries :=
  .inr ⟨_, rfl⟩

private theorem not_blank_new :
    ¬ ∀ character ∈ (text "new").toList, Json.isBlank character = true := by
  intro areBlank
  have opens : (text "new").toList.head? = some '\x7b' := by decide +kernel
  exact absurd (areBlank _ (List.mem_of_head? opens)) (by decide)

def yaml : String := "groups:\n- name: old\n...\n"

private theorem accepted_yaml : Plan.ofFile? "plan.yaml" yaml = .ok (plan "old") :=
  Results.toOption_eq_some_iff.mp (by decide +kernel)

end Drafts

/-- A plan is read from its draft whatever follows, another draft among others, and from YAML
text of one document. -/
theorem Plan.ofFile?_extent_drafts :
    (∀ rest, Plan.ofFile? "plan" (Drafts.text "old" ++ rest) = .ok (Drafts.plan "old")) ∧
    ¬ Json.IsValue (Drafts.text "old" ++ Drafts.text "new") ∧
    ∃ characters, Yaml.characters? Drafts.yaml = some characters ∧
      Yaml.OneDocument (Yaml.tokens characters) := by
  have notYaml : ¬ (FilePath.extension? "plan" = some "yaml" ∨
      FilePath.extension? "plan" = some "yml") := by decide +kernel
  have isYaml : FilePath.extension? "plan.yaml" = some "yaml" ∨
      FilePath.extension? "plan.yaml" = some "yml" := by decide +kernel
  obtain ⟨_, continued⟩ :=
    (ofFile?_extent "plan" (Drafts.text "old") (Drafts.plan "old")).1 notYaml
  have followed := continued (Drafts.text "old") Drafts.written_old
  refine ⟨fun rest => (followed rest).1, fun isValue => ?_, ?_⟩
  · exact Drafts.not_blank_new ((followed (Drafts.text "new")).2.mp isValue)
  · exact (ofFile?_extent "plan.yaml" Drafts.yaml (Drafts.plan "old")).2 isYaml
      Drafts.accepted_yaml

/-- The text of a draft and then of another one is accepted as the first plan, and it is not
one JSON value. -/
theorem Plan.ofFile?_extent_unread :
    ¬ (FilePath.extension? "p.json" = some "yaml" ∨ FilePath.extension? "p.json" = some "yml") ∧
    Plan.ofFile? "p.json" (Drafts.text "old" ++ Drafts.text "new") = .ok (Drafts.plan "old") ∧
    ¬ Json.IsValue (Drafts.text "old" ++ Drafts.text "new") := by
  refine ⟨by decide +kernel, ?_, fun isValue => ?_⟩
  · exact Results.toOption_eq_some_iff.mp (by decide +kernel)
  · have spelled : Json.tokens (Drafts.text "old") =
        Json.documentTokens (Drafts.document "old") := by decide +kernel
    exact Drafts.not_blank_new
      ((Json.isValue_append_iff Drafts.parts_old spelled (Drafts.text "new")).mp isValue)

end BlockSchema
