import BlockSchema.Page.Markdown
import BlockSchema.Proofs.Page.Order

/-!
Contract: the links of a doc page.

The line of a record that names a nested type ends in a link to it, and the heading of a nested
section is followed by the target for links to its type.
-/

set_option autoImplicit false

namespace BlockSchema

/-! ## Parts of a text -/

namespace Text

/-- A text has another one as a part. -/
def Contains (text part : String) : Prop :=
  ∃ before after, text = before ++ part ++ after

variable {text part other : String}

theorem Contains.trans (outer : Contains text part) (inner : Contains part other) :
    Contains text other := by
  obtain ⟨before, after, rfl⟩ := outer
  obtain ⟨first, last, rfl⟩ := inner
  exact ⟨before ++ first, last ++ after, by simp only [String.append_assoc]⟩

private theorem Contains.self (text : String) : Contains text text :=
  ⟨"", "", by simp⟩

private theorem Contains.before (contains : Contains text part) (other : String) :
    Contains (text ++ other) part := by
  obtain ⟨before, after, rfl⟩ := contains
  exact ⟨before, after ++ other, String.append_assoc⟩

private theorem Contains.after (contains : Contains text part) (other : String) :
    Contains (other ++ text) part := by
  obtain ⟨before, after, rfl⟩ := contains
  exact ⟨other ++ before, after, by simp only [String.append_assoc]⟩

private theorem Contains.join {parts : List String} (member : part ∈ parts) :
    Contains (String.join parts) part := by
  induction parts with
  | nil => cases member
  | cons first rest inductionHypothesis =>
      rw [String.join_cons]
      rcases List.mem_cons.mp member with rfl | later
      · exact (Contains.self part).before _
      · exact (inductionHypothesis later).after first

end Text

/-! ## Links and their targets -/

/-- The link to the section of a type. -/
def TypeId.link (id : TypeId) : String :=
  " See [`" ++ id.name ++ "`](#" ++ id.anchor ++ ") below."

/-- What a link to a type leads to. -/
def TypeId.linkTarget (id : TypeId) : String :=
  "<a id=\"" ++ id.anchor ++ "\"></a>"

theorem DocRecord.line_contains_link
    {record : DocRecord}
    {id : TypeId}
    (names : record.nested = some id) :
    Text.Contains record.line id.link := by
  unfold DocRecord.line
  rw [names]
  exact ((Text.Contains.self id.link).after _).before "\n"

theorem DocSection.titledLines_contains_target (docSection : DocSection) :
    Text.Contains docSection.titledLines docSection.typeId.linkTarget := by
  refine ⟨"\n### " ++ docSection.typeId.name ++ "\n\n", "\n\n" ++ docSection.lines, ?_⟩
  simp only [titledLines, TypeId.linkTarget, String.append_assoc]
  rfl

namespace DocPage

variable {page : DocPage} (readOnly : Bool)

/-- A page shows its nested sections with their headings. -/
theorem render_contains_titledLines {docSection : DocSection} (member : docSection ∈ page.nested) :
    Text.Contains (page.render readOnly) docSection.titledLines := by
  have joined : Text.Contains (String.join (page.nested.map DocSection.titledLines))
      docSection.titledLines := Text.Contains.join (List.mem_map_of_mem member)
  unfold render
  exact (joined.after _).before _

private theorem render_contains_lines
    {docSection : DocSection}
    (member : docSection ∈ page.sections) :
    Text.Contains (page.render readOnly) docSection.lines := by
  rcases List.mem_cons.mp member with rfl | isNested
  · unfold render
    exact ((((Text.Contains.self page.root.lines).after _).before _).before _).before _
  · apply (render_contains_titledLines readOnly isNested).trans
    exact (Text.Contains.self docSection.lines).after _

/-- A page shows every record of every section. -/
theorem render_contains_line
    {docSection : DocSection}
    (isSection : docSection ∈ page.sections)
    {record : DocRecord}
    (isRecord : record ∈ docSection.records) :
    Text.Contains (page.render readOnly) record.line := by
  apply (render_contains_lines readOnly isSection).trans
  exact Text.Contains.join (List.mem_map_of_mem isRecord)

end DocPage

end BlockSchema
