/-
Readings and reports worked out on byte offsets.

The definitions of this library take texts apart character by character, so no step of theirs can go wrong. Here the same
results are worked out on byte offsets, and each step can: a part of a text is taken between two offsets and may not be
there (`Text.slice?`), a smaller size is taken from a larger one and may be the larger (`Offset.difference?`), a line is
filled up to a width and may be too wide for it (`Diagnostic.fill`), and a sum of offsets may be no offset any more
(`Offset.add`). A step of the first two kinds that goes wrong leaves no result at all, `none`; the other two are faults.
-/
import VarDecl.Diagnostic.Report
import VarDecl.Text.Bytes
import VarDecl.Tree.Reading

namespace VarDecl

/-! ## Steps that may go wrong -/

/-- the number of bytes by which one size exceeds another, if it does not fall short of it -/
def Offset.difference? (a b : Nat) : Option Nat := if b ≤ a then some (a - b) else none

theorem Offset.difference?_add (a b : Nat) : difference? (a + b) b = some a := by
  rw [difference?, if_pos (Nat.le_add_left b a), Nat.add_sub_cancel]

section Steps

variable {ε α β : Type}

/-- a part that is there is passed on -/
theorem part_bind {x : Option α} {a : α} (h : x = some a) (k : α → ExceptT ε Option β) :
    ((liftM x : ExceptT ε Option α) >>= k) = k a := by
  rw [h]
  rfl

/-- a step that leaves a result leaves one together with steps that do -/
theorem outcome_bind (x : Except ε α) {k : α → ExceptT ε Option β} {g : α → Except ε β}
    (h : ∀ a, k a = ExceptT.mk (some (g a))) :
    ((liftM x : ExceptT ε Option α) >>= k) = ExceptT.mk (some (x >>= g)) := by
  cases x with
  | error e => rfl
  | ok a => exact h a

end Steps

/-! ## Pieces -/

/-- lays texts one after another, with every sum of offsets checked -/
def Piece.layBytewise (offset : Nat) : List Text → Except Fault (List Piece)
  | [] => return []
  | t :: ts => do
    let next ← Offset.add offset (← Offset.add t.byteLength separator.utf8Size)
    let pieces ← layBytewise next ts
    return ⟨t, offset⟩ :: pieces

/-! ## Declarations and programs -/

/-- the name in a text: its identifier and its type are the parts before and behind the first colon -/
def Name.bytewise (left : Text) : Option Name := do
  let parts : Text := left.filter (· != ' ')
  match parts.firstOf? ':' with
  | none => return ⟨parts, none⟩
  | some colon =>
    let identifier ← parts.slice? 0 colon
    let typeName ← parts.slice? (colon + 1) parts.byteLength
    return ⟨identifier, some typeName⟩

/-- the declarator of a text: the name and the value are the parts before and behind the first assignment sign -/
def Declarator.bytewise (setting : Setting) (text : Text) (offset : Nat) : ExceptT Failure Option Declarator := do
  let some assignment := text.firstOf? '=' | throw (setting.rejection (.missingAssignment text) offset)
  let raw ← text.slice? (assignment + 1) text.byteLength
  let literalOffset ← Offset.advance (← Offset.advance offset assignment) 1
  let literal ← Literal.read setting raw literalOffset
  let name ← Name.bytewise (← text.slice? 0 assignment)
  if let some cause := setting.strictness.nameCause? name then throw (setting.rejection cause offset)
  let stop ← Offset.advance offset text.byteLength
  return ⟨name, literal, .ofOffsets setting.label offset stop⟩

/-- the declaration of a piece, whose statement begins behind as many bytes as the piece without its first blanks is
shorter -/
def Declaration.bytewise (setting : Setting) (piece : Piece) : ExceptT Failure Option Declaration := do
  let statement := piece.text.trim Text.isBlank
  let blanks ← Offset.difference? piece.text.byteLength (Text.byteLength (piece.text.dropWhile Text.isBlank))
  let start ← Offset.advance piece.offset blanks
  let some (keyword, text) := statement.cutAt? ' ' | throw (setting.rejection (.missingKeyword statement) start)
  unless setting.strictness.admitsKeyword keyword do throw (setting.rejection (.unknownKeyword keyword) start)
  let offset ← Offset.advance (← Offset.advance start keyword.byteLength) 1
  let declarator ← Declarator.bytewise setting text offset
  let stop ← Offset.advance start statement.byteLength
  return ⟨keyword, declarator, .ofOffsets setting.label start stop⟩

/-- the program of a source: its pieces are laid, and then read one after another -/
def Program.bytewise (setting : Setting) (source : Text) : ExceptT Failure Option Program := do
  let pieces ← (Piece.layBytewise 0 (source.splitOn Piece.separator)).mapError Failure.fault
  let body ← pieces.mapM (Declaration.bytewise setting)
  return ⟨body, .ofOffsets setting.label 0 source.byteLength⟩

/-! ## Lines and reports -/

/-- the line and column of an offset: the line lies between the last line feed in front and the first one behind -/
def SourceLine.bytewise (source : Text) (offset : Nat) : Option SourceLine := do
  let place ← source.boundaryUpTo? (min offset source.byteLength)
  let before ← source.slice? 0 place
  let start := (before.lastOf? '\n').elim 0 (· + 1)
  let rest ← source.slice? start source.byteLength
  let stop := (rest.firstOf? '\n').elim source.byteLength (start + ·)
  let text ← source.slice? start stop
  let lead ← source.slice? start place
  return ⟨before.count '\n' + 1, text, lead.length⟩

namespace Diagnostic

/-- a text filled up in front to a width, if the width can be told in 16 bits -/
def fill (width : Nat) (c : Char) (t : Text) : Except Fault Text :=
  if width ≤ widthLimit then .ok (List.leftpad width c t) else .error .columnTooWide

/-- the report on a diagnostic about a source: the shown line is cut behind as many bytes as there are characters in the
indentation -/
def bytewise (d : Diagnostic) (source : Text) : ExceptT Fault Option Text := do
  let line ← SourceLine.bytewise source d.position.offset.toNat
  let number := Text.Decimal.ofNat line.number
  let gutter ← fill (number.byteLength + 2) ' ' "|".toList
  let indentation := (line.text.takeWhile indents).length
  let unindented ← line.text.slice? indentation line.text.byteLength
  let caret ← fill (line.column - indentation + 1) '-' "^".toList
  return List.intercalate "\n".toList
    [d.heading,
     "-> ".toList ++ d.position.label,
     gutter,
     number ++ " | ".toList ++ Text.trim Text.isBlank unindented,
     gutter ++ ' ' :: caret]

end Diagnostic

end VarDecl
