import LineLimit.Json.Number
import LineLimit.Json.Relaxed.Fault
import LineLimit.Unicode.Alphanumeric
import LineLimit.Unicode.Blank
/-!
The smallest parts of a relaxed JSON text. Between them blanks and comments are skipped. Strings have
either quote, numbers may have a plus sign or be hexadecimal, and names need no quotes.
-/

namespace LineLimit.Json.Relaxed

inductive Lexeme
  | openBrace
  | closeBrace
  | openBracket
  | closeBracket
  | comma
  | colon
  | str (s : String)
  | word (s : String)
  | bool (b : Bool)
  | null
  /-- A number: its text and its value. -/
  | number (text : String) (value : Json)
  deriving Repr

abbrev Step := Except FaultAt (Lexeme × List Char)

def faultAt {α : Type} (fault : Fault) (s : List Char) : Except FaultAt α := .error ⟨fault, s⟩

/-- The character that a single letter after a backslash stands for. -/
def simpleEscape? : Char → Option Char
  | '"' => some '"'
  | '\'' => some '\''
  | '\\' => some '\\'
  | '/' => some '/'
  | 'b' => some (Char.ofNat 8)
  | 'f' => some (Char.ofNat 12)
  | 'n' => some '\n'
  | 'r' => some '\r'
  | 't' => some '\t'
  | _ => none

def hex4? (a b c d : Char) : Option Nat := do
  let a ← Number.hexDigit? a
  let b ← Number.hexDigit? b
  let c ← Number.hexDigit? c
  let d ← Number.hexDigit? d
  return ((a * 16 + b) * 16 + c) * 16 + d

def isHighSurrogate (n : Nat) : Bool := decide (0xD800 ≤ n ∧ n < 0xDC00)

def isLowSurrogate (n : Nat) : Bool := decide (0xDC00 ≤ n ∧ n < 0xE000)

def joinSurrogates (high low : Nat) : Char :=
  Char.ofNat (0x10000 + (high - 0xD800) * 0x400 + (low - 0xDC00))

/-- Reads a string up to its closing quote. `opened` is the text from its opening quote on, `done` what has
been read, last character first. -/
def scanString (quote : Char) (opened done : List Char) :
    List Char → Except FaultAt (String × List Char)
  | [] => faultAt .unterminatedString opened
  | ['\\'] => faultAt .unterminatedString opened
  | '\\' :: 'u' :: a :: b :: c :: d :: rest =>
    let escape := '\\' :: 'u' :: a :: b :: c :: d :: rest
    let digits := String.ofList [a, b, c, d]
    match hex4? a b c d with
    | none => faultAt .expectedFourHexDigits escape
    | some n =>
      if isHighSurrogate n then
        match rest with
        | '\\' :: 'u' :: e :: f :: g :: h :: more =>
          match hex4? e f g h with
          | none => faultAt .expectedFourHexDigits escape
          | some m =>
            if isLowSurrogate m then scanString quote opened (joinSurrogates n m :: done) more
            else faultAt (.loneSurrogate digits "high surrogate not followed by low surrogate") escape
        | '\\' :: 'u' :: _ => faultAt .expectedFourHexDigits escape
        | _ => faultAt (.loneSurrogate digits "unpaired high surrogate") escape
      else if isLowSurrogate n then
        faultAt (.loneSurrogate digits "unpaired low surrogate") escape
      else scanString quote opened (Char.ofNat n :: done) rest
  | '\\' :: c :: rest =>
    let escape := '\\' :: c :: rest
    if c = 'u' then faultAt .expectedFourHexDigits escape
    else if c = '"' ∧ quote ≠ '"' then faultAt .escapedDoubleQuote escape
    else if c = '\'' ∧ quote ≠ '\'' then faultAt .escapedSingleQuote escape
    else
      match simpleEscape? c with
      | none => faultAt .invalidEscape escape
      | some e => scanString quote opened (e :: done) rest
  | c :: rest =>
    if c = quote then .ok (String.ofList done.reverse, rest)
    else scanString quote opened (c :: done) rest

def isSign (c : Char) : Bool := c == '-' || c == '+'

def isHexDigit (c : Char) : Bool := (Number.hexDigit? c).isSome

/-- A number of that text; one that is too large has its own text for a value. -/
def numberOf (text : List Char) (value : Option Json) : Lexeme :=
  let text := String.ofList text
  .number text (value.getD (.str text))

def scanSign : List Char → List Char × List Char
  | c :: rest => if isSign c then ([c], rest) else ([], c :: rest)
  | [] => ([], [])

/-- The digits before the point: a zero, or digits of which the first is none. -/
def scanWhole : List Char → Except FaultAt (List Char × List Char)
  | '0' :: rest => .ok (['0'], rest)
  | s =>
    match s.span Char.isDigit with
    | ([], _) => faultAt .expectedDigitAfterSign s
    | found => .ok found

/-- The digits after the point, if a point comes next. -/
def scanFraction : List Char → Except FaultAt (Option (List Char) × List Char)
  | '.' :: rest =>
    match rest.span Char.isDigit with
    | ([], _) => faultAt .expectedDigit rest
    | (ds, rest) => .ok (some ds, rest)
  | s => .ok (none, s)

/-- The power of ten, if one comes next: its text and its value. -/
def scanExponent : List Char → Except FaultAt (Option (List Char × Int) × List Char)
  | e :: rest =>
    if e = 'e' ∨ e = 'E' then
      let (sign, more) := scanSign rest
      match more.span Char.isDigit with
      | ([], _) => faultAt (if sign.isEmpty then .expectedExponent else .expectedDigit) more
      | (ds, rest) =>
        let size : Int := Number.decimal ds
        .ok (some (e :: sign ++ ds, if sign = ['-'] then -size else size), rest)
    else .ok (none, e :: rest)
  | [] => .ok (none, [])

def scanDecimal (sign s : List Char) : Step := do
  let (whole, s) ← scanWhole s
  let (fraction, s) ← scanFraction s
  let (exponent, s) ← scanExponent s
  let fractionText := match fraction with
    | some ds => '.' :: ds
    | none => []
  let exponentText := match exponent with
    | some (text, _) => text
    | none => []
  let value := Number.Parts.value? ⟨sign = ['-'], whole, fraction, exponent.map (·.2)⟩
  return (numberOf (sign ++ whole ++ fractionText ++ exponentText) value, s)

def scanNumber (s : List Char) : Step :=
  let (sign, body) := scanSign s
  match body with
  | '0' :: x :: rest =>
    if x = 'x' ∨ x = 'X' then
      match rest.span isHexDigit with
      | ([], _) => faultAt .expectedDigit rest
      | (ds, rest) => .ok (numberOf (sign ++ '0' :: x :: ds) (Number.hexValue? (sign = ['-']) ds), rest)
    else scanDecimal sign body
  | _ => scanDecimal sign body

/-- The word that starts a text: it runs up to a blank or a colon and holds letters, numbers, hyphens and
underscores only. -/
def scanWord (s : List Char) : Step :=
  let word := s.takeWhile fun c => !(Unicode.isBlank c || c == ':')
  if !word.isEmpty && word.all fun c => Unicode.isAlphanumeric c || c == '-' || c == '_' then
    .ok (.word (String.ofList word), s.drop word.length)
  else faultAt .unexpectedToken s

def keywords : List (String × Lexeme) :=
  [("true", .bool true), ("false", .bool false), ("null", .null)]

/-- A keyword that starts a text and is not the start of a longer word. -/
def keyword? (s : List Char) : Option (Lexeme × List Char) :=
  keywords.findSome? fun (name, lexeme) =>
    let rest := s.drop name.length
    if name.toList.isPrefixOf s && !(rest.head?.map Unicode.isAlphanumeric).getD false then
      some (lexeme, rest)
    else none

def afterComment? : List Char → Option (List Char)
  | '*' :: '/' :: rest => some rest
  | _ :: rest => afterComment? rest
  | [] => none

/-- The text without the blanks and comments at its start. Each comment that is skipped uses up fuel. -/
def skip : Nat → List Char → Except FaultAt (List Char)
  | 0, s => .ok s
  | fuel + 1, s =>
    match s.dropWhile Unicode.isBlank with
    | '/' :: '/' :: rest => skip fuel (rest.dropWhile (· ≠ '\n'))
    | '/' :: '*' :: rest =>
      match afterComment? rest with
      | some rest => skip fuel rest
      | none => faultAt .unterminatedComment ('/' :: '*' :: rest)
    | s => .ok s

/-- The lexeme that starts a text which does not start with a blank or a comment. -/
def scanLexeme (s : List Char) : Step :=
  match s with
  | [] => faultAt .unexpectedToken []
  | c :: rest =>
    if c = '\x7b' then .ok (.openBrace, rest)
    else if c = '\x7d' then .ok (.closeBrace, rest)
    else if c = '[' then .ok (.openBracket, rest)
    else if c = ']' then .ok (.closeBracket, rest)
    else if c = ',' then .ok (.comma, rest)
    else if c = ':' then .ok (.colon, rest)
    else if c = '"' ∨ c = '\'' then
      (scanString c s [] rest).map fun (text, rest) => (.str text, rest)
    else if c = '/' then faultAt .unexpectedToken s
    else if isSign c || c.isDigit then scanNumber s
    else
      match keyword? s with
      | some step => .ok step
      | none => scanWord s

/-- The text from a lexeme on, with the lexeme, or with the fault that stands where the next one should. -/
structure Token where
  start : List Char
  content : Except Fault Lexeme

/-- The lexemes of a text up to the first fault. Every lexeme uses up fuel. -/
def tokens : Nat → List Char → List Token
  | 0, _ => []
  | fuel + 1, s =>
    match skip (fuel + 1) s with
    | .error f => [⟨f.rest, .error f.fault⟩]
    | .ok [] => []
    | .ok s =>
      match scanLexeme s with
      | .error f => [⟨f.rest, .error f.fault⟩]
      | .ok (lexeme, rest) => ⟨s, .ok lexeme⟩ :: tokens fuel rest

end LineLimit.Json.Relaxed
