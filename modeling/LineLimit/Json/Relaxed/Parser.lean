import LineLimit.Json.Relaxed.Lexeme
/-!
Values from a relaxed JSON text. Commas may be missing or stand after the last part, names of members need no
quotes, and of several members of one name the last one counts. A text without lexemes has no value.
-/

namespace LineLimit.Json.Relaxed

namespace Input

/-- What is left of a text, from its next token on. -/
def rest (i : List Token) : List Char :=
  match i with
  | t :: _ => t.start
  | [] => []

def fail {α : Type} (i : List Token) (fault : Fault) : Except FaultAt α := faultAt fault (rest i)

def peek : List Token → Except FaultAt (Option Lexeme)
  | [] => .ok none
  | t :: _ =>
    match t.content with
    | .ok lexeme => .ok (some lexeme)
    | .error fault => faultAt fault t.start

def skipComma (i : List Token) : Except FaultAt (List Token) := do
  match ← peek i with
  | some .comma => return i.tail
  | _ => return i

end Input

def memberName? : Lexeme → Option String
  | .str s => some s
  | .word s => some s
  | .number text _ => some text
  | _ => none

mutual

/-- The value that comes next. Every token uses up fuel. -/
def parseValue : Nat → List Token → Except FaultAt (Json × List Token)
  | 0, i => Input.fail i .unexpectedToken
  | fuel + 1, i => do
    match ← Input.peek i with
    | none => Input.fail i .expectedValue
    | some (.str s) => return (.str s, i.tail)
    | some (.bool b) => return (.bool b, i.tail)
    | some .null => return (.null, i.tail)
    | some (.number _ value) => return (value, i.tail)
    | some .openBrace => do
      let (members, i) ← parseMembers fuel (Input.rest i) [] i.tail
      return (.object members, i)
    | some .openBracket => do
      let (items, i) ← parseItems fuel (Input.rest i) [] i.tail
      return (.arr items, i)
    | some .closeBrace => Input.fail i .unexpectedCloseBrace
    | some .closeBracket => Input.fail i .unexpectedCloseBracket
    | some .comma => Input.fail i .unexpectedComma
    | some .colon => Input.fail i .unexpectedColon
    | some (.word _) => Input.fail i .unexpectedWord

/-- The members up to the closing brace of the object that was opened at `opened`; those read before are
in `done`, the last one first. -/
def parseMembers : Nat → List Char → List (String × Json) → List Token →
    Except FaultAt (List (String × Json) × List Token)
  | 0, _, _, i => Input.fail i .unexpectedToken
  | fuel + 1, opened, done, i => do
    match ← Input.peek i with
    | none => faultAt .unterminatedObject opened
    | some .closeBrace => return (done.reverse, i.tail)
    | some lexeme =>
      match memberName? lexeme with
      | none => Input.fail i .unexpectedTokenInObject
      | some name => do
        match ← Input.peek i.tail with
        | some .colon =>
          let (v, i) ← parseValue fuel i.tail.tail
          let i ← Input.skipComma i
          parseMembers fuel opened ((name, v) :: done) i
        | _ => Input.fail i.tail .expectedColon

/-- The items up to the closing bracket of the array that was opened at `opened`. -/
def parseItems : Nat → List Char → List Json → List Token → Except FaultAt (List Json × List Token)
  | 0, _, _, i => Input.fail i .unexpectedToken
  | fuel + 1, opened, done, i => do
    match ← Input.peek i with
    | none => faultAt .unterminatedArray opened
    | some .closeBracket => return (done.reverse, i.tail)
    | some _ => do
      let (v, i) ← parseValue fuel i
      let i ← Input.skipComma i
      parseItems fuel opened (v :: done) i

end

/-- The value of a relaxed JSON text, none if the text holds only blanks and comments. -/
def parse (source : String) : Except FaultAt (Option Json) := do
  let s := source.toList
  let i := tokens (s.length + 1) s
  match ← Input.peek i with
  | none => return none
  | some _ => do
    let (v, i) ← parseValue (2 * i.length + 2) i
    match ← Input.peek i with
    | none => return some v
    | some _ => Input.fail i .secondValue

end LineLimit.Json.Relaxed
