/-!
What can be wrong with a relaxed JSON text, and where. Places are shown as a line and a column, both
counted from 1; only a line feed starts a line.
-/

namespace LineLimit.Json.Relaxed

inductive Fault
  | unexpectedToken
  | unexpectedTokenInObject
  | unexpectedWord
  | unexpectedComma
  | unexpectedColon
  | unexpectedCloseBrace
  | unexpectedCloseBracket
  | unterminatedObject
  | unterminatedArray
  | unterminatedString
  | unterminatedComment
  | expectedColon
  | expectedValue
  | expectedDigit
  | expectedDigitAfterSign
  | expectedExponent
  | secondValue
  | invalidEscape
  | escapedDoubleQuote
  | escapedSingleQuote
  | expectedFourHexDigits
  /-- An escaped surrogate without its partner: its digits, and what is missing. -/
  | loneSurrogate (digits reason : String)
  deriving DecidableEq, Repr

namespace Fault

def message : Fault → String
  | unexpectedToken => "Unexpected token"
  | unexpectedTokenInObject => "Unexpected token in object"
  | unexpectedWord => "Unexpected word"
  | unexpectedComma => "Unexpected comma"
  | unexpectedColon => "Unexpected colon"
  | unexpectedCloseBrace => "Unexpected close brace"
  | unexpectedCloseBracket => "Unexpected close bracket"
  | unterminatedObject => "Unterminated object"
  | unterminatedArray => "Unterminated array"
  | unterminatedString => "Unterminated string literal"
  | unterminatedComment => "Unterminated comment block"
  | expectedColon => "Expected colon after the string or word in object property"
  | expectedValue => "Expected value after colon in object property"
  | expectedDigit => "Expected digit"
  | expectedDigitAfterSign => "Expected digit following negative sign"
  | expectedExponent => "Expected plus, minus, or digit in number literal"
  | secondValue => "Text cannot contain more than one JSON value"
  | invalidEscape => "Invalid escape"
  | escapedDoubleQuote => "Invalid escape in single quote string"
  | escapedSingleQuote => "Invalid escape in double quote string"
  | expectedFourHexDigits => "Expected four hex digits"
  | loneSurrogate digits reason =>
    s!"Invalid unicode escape sequence. '{digits} ({reason})' is not a valid UTF8 character"

end Fault

/-- A fault and the text from its place on. -/
structure FaultAt where
  fault : Fault
  rest : List Char
  deriving DecidableEq, Repr

def place (before : List Char) : Nat × Nat :=
  before.foldl (fun (line, column) c => if c = '\n' then (line + 1, 1) else (line, column + 1)) (1, 1)

def FaultAt.message (f : FaultAt) (source : String) : String :=
  let s := source.toList
  let (line, column) := place (s.take (s.length - f.rest.length))
  s!"{f.fault.message} on line {line} column {column}"

end LineLimit.Json.Relaxed
