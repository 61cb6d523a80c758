import StatementSegments.Span

/-!
Statement texts. Offsets count characters, while the text is held in bytes; the table of
boundaries leads from one to the other. The slice at a span is the text of its characters.
-/
namespace StatementSegments

/-- Byte offset of every character, followed by the offset behind the last one. -/
def boundariesFrom (offset : Nat) : List Char → List Nat
  | [] => [offset]
  | c :: cs => offset :: boundariesFrom (offset + c.utf8Size) cs

theorem length_boundariesFrom (offset : Nat) (cs : List Char) :
    (boundariesFrom offset cs).length = cs.length + 1 := by
  induction cs generalizing offset with
  | nil => rfl
  | cons c cs ih => simp [boundariesFrom, ih]

structure StatementText where
  content : String
  boundaries : Array Nat
  boundaries_eq : boundaries = (boundariesFrom 0 content.toList).toArray

namespace StatementText

def ofString (content : String) : StatementText where
  content := content
  boundaries := (boundariesFrom 0 content.toList).toArray
  boundaries_eq := rfl

def length (text : StatementText) : Nat :=
  text.boundaries.size - 1

theorem length_eq (text : StatementText) : text.length = text.content.length := by
  simp [length, text.boundaries_eq, length_boundariesFrom, String.length_toList]

/-- The characters of a span; none if a boundary is missing or splits a character. -/
def slice? (text : StatementText) (span : Span) : Option String := do
  let first ← text.boundaries[span.start]?
  let last ← text.boundaries[span.stop + 1]?
  String.fromUTF8? (text.content.toUTF8.extract first last)

end StatementText

end StatementSegments
