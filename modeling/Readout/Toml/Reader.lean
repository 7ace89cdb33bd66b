import Readout.Text.Escape
import Readout.Text.Key
import Readout.Toml.Document
import Readout.Toml.Moment

/-!
# Reading a TOML document

`read?` reads the text of a TOML document into a table.  A text that is not a
TOML document is refused as a whole.
-/

namespace Readout.Toml

open Settings (Value)
open Text

/-- Lists and inline tables nest to fewer levels than this, and a dotted key has
fewer parts. -/
def nestingLimit : Nat := 80

def isGap (character : Char) : Bool :=
  character == ' ' || character == '\t'

def gaps : Scan Unit := do
  let _ ← Scan.span isGap

def newline : Scan Unit :=
  Scan.text "\n" <|> Scan.text "\r\n"

def comment : Scan Unit := do
  let _ ← Scan.char '#'
  let _ ← Scan.span fun character => !isForbiddenControl character

/-- What may stand behind a statement: gaps, a comment, and the end of the line
or of the text. -/
def endOfStatement : Scan Unit := do
  gaps
  let _ ← Scan.optional comment
  newline <|> Scan.atEnd

def loose : Scan Unit := do
  let _ ← Scan.many ((do let _ ← Scan.spanOne isGap) <|> newline <|> comment)

def isLiteral (character : Char) : Bool :=
  !isForbiddenControl character && character != '\''

def literalText : Scan String := do
  let _ ← Scan.char '\''
  let characters ← Scan.span isLiteral
  let _ ← Scan.char '\''
  return String.ofList characters

/-- One or two quotes that are not part of a longer run. -/
def innerQuotes (quote : Char) : Scan (List Char) := fun input =>
  let run := input.takeWhile (· == quote)
  if run.length = 1 ∨ run.length = 2 then some (run, input.dropWhile (· == quote))
  else none

/-- Three quotes that end a text of several lines, after up to two quotes that
belong to the text. -/
def closingQuotes (quote : Char) : Scan (List Char) := fun input =>
  let run := input.takeWhile (· == quote)
  if 3 ≤ run.length ∧ run.length ≤ 5 then
    some (run.drop 3, input.dropWhile (· == quote))
  else none

def innerNewline : Scan (List Char) := do
  newline
  return ['\n']

/-- A backslash at the end of a line, with all blank space behind it. -/
def lineContinuation : Scan (List Char) := do
  let _ ← Scan.char '\\'
  gaps
  newline
  let _ ← Scan.many ((do let _ ← Scan.spanOne isGap) <|> newline)
  return []

/-- A text of several lines between triple quotes; a line end right behind the
opening quotes does not belong to it. -/
def longText (quote : Char) (piece : Scan (List Char)) : Scan String := do
  Scan.exactly [quote, quote, quote]
  let _ ← Scan.optional newline
  let pieces ← Scan.many (piece <|> innerNewline <|> innerQuotes quote)
  let rest ← closingQuotes quote
  return String.ofList (pieces.flatten ++ rest)

def longQuotedText : Scan String :=
  longText '"' (lineContinuation <|> (do return [← quotedChar]))

def longLiteralText : Scan String :=
  longText '\'' (Scan.spanOne isLiteral)

def simpleKey : Scan String :=
  quotedText <|> literalText <|> bareKey

def key : Scan (List String) := do
  let parts ← Scan.separated (gaps *> simpleKey <* gaps) (Scan.char '.')
  if parts.length < nestingLimit then return parts else failure

def simpleValue : Scan Value :=
  (do return .text (← longQuotedText))
    <|> (do return .text (← longLiteralText))
    <|> (do return .text (← quotedText))
    <|> (do return .text (← literalText))
    <|> (do Scan.text "true"; return .flag true)
    <|> (do Scan.text "false"; return .flag false)
    <|> moment
    <|> number

def list (item : Scan Value) : Scan Value := do
  let _ ← Scan.char '['
  loose
  let items ← Scan.optional do
    let items ← Scan.separated (loose *> item <* loose) (Scan.char ',')
    let _ ← Scan.optional (Scan.char ',' *> loose)
    return items
  let _ ← Scan.char ']'
  return .list (items.getD [])

/-- A table on one line, without a comma at its end. -/
def inlineTable (item : Scan Value) : Scan Value := do
  let _ ← Scan.char '{'
  gaps
  let entries ← Scan.optional do
    Scan.separated
      (do
        let keys ← key
        let _ ← Scan.char '='
        let value ← gaps *> item <* gaps
        return (keys, value))
      (Scan.char ',')
  let _ ← Scan.char '\x7d'
  StateT.lift (Document.inlineTable (entries.getD []))

/-- A value that contains other values at most a number of levels deep. -/
def value : (levels : Nat) → Scan Value
  | 0 => simpleValue
  | levels + 1 => simpleValue <|> list (value levels) <|> inlineTable (value levels)

def statement : Scan Statement :=
  (do
    Scan.text "[["
    let path ← key
    Scan.text "]]"
    endOfStatement
    return .elementHeader path)
  <|> (do
    let _ ← Scan.char '['
    let path ← key
    let _ ← Scan.char ']'
    endOfStatement
    return .tableHeader path)
  <|> (do
    let keys ← key
    let _ ← Scan.char '='
    gaps
    let item ← value (nestingLimit - 1)
    endOfStatement
    return .entry keys item)

def line : Scan (Option Statement) := do
  gaps
  (do newline; return none)
    <|> (do comment; newline <|> Scan.atEnd; return none)
    <|> (do return some (← statement))

/-- The statements of a document, which may start with a byte order mark. -/
def document : Scan (List Statement) := do
  let _ ← Scan.optional (Scan.char '\uFEFF')
  let lines ← Scan.many line
  gaps
  return lines.filterMap id

def read? (text : String) : Option Settings.Table :=
  (Scan.whole? document text.toList).bind Document.ofStatements

end Readout.Toml
