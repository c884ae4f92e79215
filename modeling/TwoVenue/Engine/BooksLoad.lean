import TwoVenue.Engine.Error
import TwoVenue.Market.BooksFile

/-!
# Loading files of books

A file is there or not, and has to be UTF-8. `Books.load` is the books of a file.
-/

namespace TwoVenue

/-- The bytes of a file, or why there are none. -/
abbrev FileContents := Except FileError ByteArray

/-- The text of a file. -/
def FileContents.text (file : FileContents) : Except FileError String := do
  let bytes ← file
  match String.fromUTF8? bytes with
  | some text => return text
  | none => throw .notText

/-- The bytes of a text are read back as this text. -/
theorem FileContents.text_toUTF8 (text : String) : FileContents.text (.ok text.toUTF8) = .ok text := by
  have htext : String.fromUTF8? text.toUTF8 = some text := dif_pos text.isValidUTF8
  show (match String.fromUTF8? text.toUTF8 with
    | some text => Except.ok text
    | none => .error FileError.notText) = _
  rw [htext]

/-- The books of a file. -/
def Books.load (file : FileContents) : Except EngineError Books :=
  match file.text with
  | .error e => .error (.file e)
  | .ok text =>
    match Books.ofText? text with
    | some books => .ok books
    | none => .error .json

/-- A file with a text has the books of the text. -/
theorem Books.load_toUTF8 {text : String} {books : Books} (h : Books.ofText? text = some books) :
    Books.load (.ok text.toUTF8) = .ok books := by
  unfold Books.load
  rw [FileContents.text_toUTF8]
  dsimp only
  rw [h]

end TwoVenue
