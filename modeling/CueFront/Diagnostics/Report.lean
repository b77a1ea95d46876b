import CueFront.Decimal
import CueFront.Diagnostics.Record

/-!
# Reports

The text report has one line for each problem: the file, the line, the column and the
message.  The JSON report is an array with one object for each problem, indented by two
spaces, its keys in alphabetical order.
-/

namespace CueFront

namespace Diagnostics

/-- The line of one problem. -/
def Record.render (record : Record) : Bytes :=
  record.file ++ Byte.colon :: Decimal.signed record.line ++ Byte.colon ::
    Decimal.signed record.column ++ Byte.colon :: Byte.space :: record.message ++ [Byte.lineFeed]

/-- The report of a list of problems, in order. -/
def renderText (records : List Record) : Bytes := records.flatMap Record.render

/-! ## JSON -/

/-- A byte inside a JSON string. -/
def jsonByte (b : UInt8) : Bytes :=
  match b with
  | Byte.doubleQuote => utf8 "\\\""
  | Byte.backslash => utf8 "\\\\"
  | Byte.backspace => utf8 "\\b"
  | Byte.formFeed => utf8 "\\f"
  | Byte.lineFeed => utf8 "\\n"
  | Byte.carriageReturn => utf8 "\\r"
  | Byte.tab => utf8 "\\t"
  | b =>
    if b < 32 then
      utf8 "\\u00" ++ [Byte.hexDigit (b.toNat / 16), Byte.hexDigit (b.toNat % 16)]
    else [b]

/-- A JSON string. -/
def jsonString (text : Bytes) : Bytes :=
  Byte.doubleQuote :: text.flatMap jsonByte ++ [Byte.doubleQuote]

/-- The object of one problem. -/
def Record.renderJson (record : Record) : Bytes :=
  let entry (key : String) (value : Bytes) : Bytes := utf8 "    " ++ jsonString (utf8 key) ++
    utf8 ": " ++ value
  utf8 "  \x7b\n" ++ Bytes.joinWith (utf8 ",\n")
    [entry "column" (Decimal.signed record.column), entry "file" (jsonString record.file),
      entry "line" (Decimal.signed record.line), entry "message" (jsonString record.message)] ++
    utf8 "\n  \x7d"

/-- The array of a list of problems, in order. -/
def renderJson (records : List Record) : Bytes :=
  if records.isEmpty then utf8 "[]"
  else utf8 "[\n" ++ Bytes.joinWith (utf8 ",\n") (records.map Record.renderJson) ++ utf8 "\n]"

end Diagnostics

end CueFront
