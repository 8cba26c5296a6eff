/-!
Command lines. Arguments are options, flags, or other words; options can be written long or by a letter, and
letters can share one hyphen. Two hyphens alone make all that follows other words.
-/

namespace LineLimit.Command

/-- An option or a flag of a command: its names, and whether it takes a value. -/
structure Switch where
  long : String
  letter : Option Char := none
  takesValue : Bool := false
  deriving DecidableEq, Repr

inductive Item
  | flag (long : String)
  | option (long value : String)
  /-- A word that belongs to no option, with the arguments after it. -/
  | word (s : String) (after : List String)
  /-- An argument that cannot be understood. -/
  | bad (arg : String)
  deriving DecidableEq, Repr

/-- Whether an argument cannot be the value of the option before it. A single hyphen can. -/
def looksLikeSwitch (arg : String) : Bool :=
  match arg.toList with
  | ['-'] => false
  | '-' :: _ => true
  | _ => false

/-- The items of letters that share a hyphen, and the option that still needs a value. -/
def readLetters (switches : List Switch) (arg : String) : List Char → List Item × Option String
  | [] => ([], none)
  | c :: rest =>
    match switches.find? (·.letter == some c) with
    | none => ([.bad arg], none)
    | some s =>
      if s.takesValue then
        match rest with
        | [] => ([], some s.long)
        | '=' :: value => ([.option s.long (String.ofList value)], none)
        | value => ([.option s.long (String.ofList value)], none)
      else
        let (items, pending) := readLetters switches arg rest
        (.flag s.long :: items, pending)

/-- The items of an argument that begins with two hyphens, and the option that still needs a value. -/
def readLong (switches : List Switch) (arg : String) (body : List Char) : List Item × Option String :=
  let name := String.ofList (body.takeWhile (· ≠ '='))
  let value : Option String := match body.dropWhile (· ≠ '=') with
    | _ :: value => some (String.ofList value)
    | [] => none
  match switches.find? (·.long == name), value with
  | none, _ => ([.bad arg], none)
  | some s, some value => if s.takesValue then ([.option s.long value], none) else ([.bad arg], none)
  | some s, none => if s.takesValue then ([], some s.long) else ([.flag s.long], none)

/-- The items of arguments. `pending` is an option that needs the next argument for its value; after two
hyphens alone `literal` holds. -/
def read (switches : List Switch) (pending : Option String) (literal : Bool) : List String → List Item
  | [] => (pending.map Item.bad).toList
  | arg :: rest =>
    match pending with
    | some long =>
      if looksLikeSwitch arg then [.bad arg] else .option long arg :: read switches none literal rest
    | none =>
      if literal then .word arg rest :: read switches none true rest
      else
        match arg.toList with
        | ['-', '-'] => read switches none true rest
        | '-' :: '-' :: body =>
          let (items, pending) := readLong switches arg body
          items ++ read switches pending false rest
        | ['-'] => .word arg rest :: read switches none false rest
        | '-' :: letters =>
          let (items, pending) := readLetters switches arg letters
          items ++ read switches pending false rest
        | _ => .word arg rest :: read switches none false rest

/-- Options and flags that have been given, in order, and the other words. -/
structure Given where
  flags : List String := []
  options : List (String × String) := []
  words : List String := []
  deriving DecidableEq, Repr

namespace Given

def has (g : Given) (long : String) : Bool :=
  g.flags.contains long || g.options.any (·.1 == long)

def value? (g : Given) (long : String) : Option String :=
  (g.options.find? (·.1 == long)).map (·.2)

/-- Adds an item. Nothing may be given twice. -/
def add (g : Given) : Item → Option Given
  | .flag long => if g.has long then none else some { g with flags := g.flags ++ [long] }
  | .option long value =>
    if g.has long then none else some { g with options := g.options ++ [(long, value)] }
  | .word s _ => some { g with words := g.words ++ [s] }
  | .bad _ => none

/-- What arguments give, none if they are not understood. -/
def ofItems (items : List Item) : Option Given := items.foldlM add {}

end Given

end LineLimit.Command
