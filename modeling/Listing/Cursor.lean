import Listing.Base64
import Listing.Error
import Listing.Json.Parser
import Listing.Row
import Listing.Sort

/-! Cursors: where the next page starts. A cursor is the Base64 of a JSON list of strings, one for each
sort key, taken from the last row of a page. -/
namespace Listing
namespace Cursor

def encode (values : List String) : String :=
  .ofList (Base64.encode (Json.ofStrings values).text.toUTF8.data.toList)

/-- A symbol of the common alphabet as one that is safe in addresses. -/
def safeSymbol (c : Char) : Char :=
  if c = '+' then '-' else if c = '/' then '_' else c

/-- A cursor as this library writes it: without blanks around it, without padding, in safe symbols. -/
def normalized (s : String) : String :=
  .ofList ((Text.dropTrailing (· = '=') (Text.trimChars s.toList)).map safeSymbol)

def ofBytes? (bs : List UInt8) : Option (List String) :=
  ((String.fromUTF8? ⟨bs.toArray⟩).bind Json.parse?).bind Json.asStrings?

/-- The texts of a cursor. A text of the alphabet that stands for no JSON list of strings is refused with one word,
whatever is wrong with it: the words of the JSON reader are not told apart. -/
def decode (s : String) : Except Error (List String) :=
  match Base64.decode (normalized s).toUTF8.data.toList with
  | .error fault => .error (.invalidCursor fault.message)
  | .ok bs =>
    match ofBytes? bs with
    | some values => .ok values
    | none => .error (.invalidCursor "<json>")

/-- Whatever is wrong with a text that is no cursor, it is blamed on the cursor. -/
theorem exists_of_decode_eq_error {s : String} {e : Error} (h : decode s = .error e) :
    ∃ message, e = .invalidCursor message := by
  unfold decode at h
  split at h
  · cases h
    exact ⟨_, rfl⟩
  · split at h
    · nomatch h
    · cases h
      exact ⟨_, rfl⟩

/-- The texts of the sort keys' columns in a row. -/
def valuesOf (ss : Selectors) (keys : List SortKey) (row : Row) : Except Error (List String) :=
  keys.mapM fun k =>
    let column := ss.columnOf row k.field
    match row.text? column with
    | some s => .ok s
    | none => .error (.missingRowProperty column)

/-- The cursor of the page that starts behind a row. -/
def after (ss : Selectors) (keys : List SortKey) (row : Row) : Except Error String :=
  (valuesOf ss keys row).map encode

end Cursor
end Listing
