import BlockSchema.Page.Basic
import BlockSchema.Schema.Format

/-!
Contract: doc pages as Markdown text.

A page has the marker, the header, the root's records, the nested sections under a
heading of their own, and the footer. Header and footer lose the white space at their
end and are left out when empty.
-/

set_option autoImplicit false

namespace BlockSchema

/-! ## White space -/

namespace Unicode

/-- Inclusive ranges of white space characters, in ascending order. -/
def blankRanges : List (Nat × Nat) :=
  [(0x09, 0x0D), (0x20, 0x20), (0x85, 0x85), (0xA0, 0xA0), (0x1680, 0x1680), (0x2000, 0x200A),
   (0x2028, 0x2029), (0x202F, 0x202F), (0x205F, 0x205F), (0x3000, 0x3000)]

def isBlank (character : Char) : Bool :=
  blankRanges.any fun range => range.1 ≤ character.toNat && character.toNat ≤ range.2

/-- A text without the white space at its end. -/
def trimEnd (text : String) : String :=
  String.ofList (text.toList.reverse.dropWhile isBlank).reverse

end Unicode

/-! ## Pages -/

def TypeId.anchor (id : TypeId) : String :=
  "nested-" ++ String.ofList (id.stem.toList.map fun character =>
    if character = '_' then '-' else character)

def DocRecord.line (record : DocRecord) : String :=
  "- `" ++ record.name ++ "` - (" ++ record.classLabel ++ ") `" ++ record.kind ++ "`." ++
    (match record.description with
      | none => ""
      | some description => if description = "" then "" else " " ++ description) ++
    (match record.nested with
      | none => ""
      | some nested => " See [`" ++ nested.name ++ "`](#" ++ nested.anchor ++ ") below.") ++
    "\n"

def DocSection.lines (docSection : DocSection) : String :=
  String.join (docSection.records.map DocRecord.line)

/-- A nested section with its heading and its link target. -/
def DocSection.titledLines (docSection : DocSection) : String :=
  "\n### " ++ docSection.typeId.name ++ "\n\n" ++
    "<a id=\"" ++ docSection.typeId.anchor ++ "\"></a>\n\n" ++ docSection.lines

def DocPage.title (readOnly : Bool) : String :=
  if readOnly then "Attribute Reference" else "Argument Reference"

def DocPage.render (page : DocPage) (readOnly : Bool) : String :=
  "<!-- " ++ generatedMarker ++ " -->\n" ++
    (if page.wrapper.header = "" then ""
      else Unicode.trimEnd page.wrapper.header ++ "\n") ++
    "\n## " ++ DocPage.title readOnly ++ "\n\n" ++ page.root.lines ++
    (if page.nested.isEmpty then "" else "\n## Nested Blocks\n") ++
    String.join (page.nested.map DocSection.titledLines) ++
    (if page.wrapper.footer = "" then ""
      else "\n" ++ Unicode.trimEnd page.wrapper.footer ++ "\n")

end BlockSchema
