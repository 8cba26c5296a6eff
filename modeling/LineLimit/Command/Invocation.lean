import LineLimit.Command.Line
import LineLimit.Rule.Check
/-!
What the program is asked to do: to lint files, to write a first configuration, to list the rules, or to
tell its version. Options for all commands can stand before and after the command's name.
-/

namespace LineLimit

inductive Format
  | text
  | json
  deriving DecidableEq, Repr

/-- Options of the command line that go before those of the configuration. -/
structure Overrides where
  lineLength : Option UInt64 := none
  noIgnoreCodeBlocks : Bool := false
  noIgnoreTables : Bool := false
  noIgnoreLinks : Bool := false
  noIgnoreLinkPunctuation : Bool := false
  deriving DecidableEq, Repr

def Overrides.apply (x : Overrides) (s : Settings) : Settings :=
  let o := s.options
  { s with
    options := {
      lineLength := x.lineLength.getD o.lineLength
      ignoreCodeBlocks := o.ignoreCodeBlocks && !x.noIgnoreCodeBlocks
      ignoreTables := o.ignoreTables && !x.noIgnoreTables
      ignoreLinks := o.ignoreLinks && !x.noIgnoreLinks
      ignoreLinkPunctuation := o.ignoreLinkPunctuation && !x.noIgnoreLinkPunctuation } }

namespace Command

inductive Action
  | lint (patterns : List String) (format : Format) (overrides : Overrides)
  | init (force : Bool)
  | rules (format : Format)
  | version
  | help
  deriving DecidableEq, Repr

/-- What to do, and with which configuration file if one is given. -/
structure Invocation where
  action : Action
  config : Option String := none
  deriving DecidableEq, Repr

/-- Switches that stand before or after the name of a command. -/
def everywhere : List Switch :=
  [{ long := "config", letter := some 'c', takesValue := true }, { long := "verbose", letter := some 'v' },
    { long := "help", letter := some 'h' }]

def formatSwitch : Switch := { long := "format", letter := some 'f', takesValue := true }

def topSwitches : List Switch := { long := "version", letter := some 'V' } :: everywhere

def lintSwitches : List Switch :=
  [formatSwitch, { long := "line-length", takesValue := true }, { long := "no-ignore-code-blocks" },
    { long := "no-ignore-tables" }, { long := "no-ignore-links" },
    { long := "no-ignore-link-punctuation" }] ++ everywhere

def initSwitches : List Switch := { long := "force" } :: everywhere

def rulesSwitches : List Switch := formatSwitch :: everywhere

/-- The format that was given, text if none was. -/
def formatOf (g : Given) : Option Format :=
  match g.value? "format" with
  | none => some .text
  | some "text" => some .text
  | some "json" => some .json
  | some _ => none

/-- A number of 64 bits, written in digits after at most one plus sign. -/
def readNumber (s : String) : Option UInt64 :=
  let ds := match s.toList with
    | '+' :: rest => rest
    | cs => cs
  if ds.isEmpty ∨ !ds.all Char.isDigit then none
  else
    let n := ds.foldl (fun n d => 10 * n + (d.toNat - '0'.toNat)) 0
    if n < UInt64.size then some (.ofNat n) else none

def overridesOf (g : Given) : Option Overrides := do
  let lineLength ← match g.value? "line-length" with
    | none => some none
    | some s => (readNumber s).map some
  return {
    lineLength
    noIgnoreCodeBlocks := g.has "no-ignore-code-blocks"
    noIgnoreTables := g.has "no-ignore-tables"
    noIgnoreLinks := g.has "no-ignore-links"
    noIgnoreLinkPunctuation := g.has "no-ignore-link-punctuation" }

/-- The configuration file that was given; its path must not be empty. -/
def configOf (g : Given) : Option (Option String) :=
  match g.value? "config" with
  | some "" => none
  | path => some path

/-- What a command is asked to do by its arguments, together with its configuration file. -/
def readCommand (name : String) (args : List String) : Option Invocation :=
  let given (switches : List Switch) : Option Given := Given.ofItems (read switches none false args)
  match name with
  | "lint" => do
    let g ← given lintSwitches
    let config ← configOf g
    let format ← formatOf g
    let overrides ← overridesOf g
    if g.has "help" then return ⟨.help, config⟩
    if g.words.isEmpty then none
    return ⟨.lint g.words format overrides, config⟩
  | "init" => do
    let g ← given initSwitches
    let config ← configOf g
    if g.has "help" then return ⟨.help, config⟩
    if !g.words.isEmpty then none
    return ⟨.init (g.has "force"), config⟩
  | "rules" => do
    let g ← given rulesSwitches
    let config ← configOf g
    let format ← formatOf g
    if g.has "help" then return ⟨.help, config⟩
    if !g.words.isEmpty then none
    return ⟨.rules format, config⟩
  | _ => none

/-- Goes through the items before the name of the command. -/
def readTop (g : Given) : List Item → Option Invocation
  | [] => none
  | .flag "version" :: _ => some ⟨.version, none⟩
  | .flag "help" :: _ => some ⟨.help, none⟩
  | .word name args :: _ => do
    let outer ← configOf g
    let call ← readCommand name args
    return { call with config := call.config <|> outer }
  | item :: rest => do
    let g ← g.add item
    let _ ← configOf g
    readTop g rest

/-- What the arguments of the program ask for, none if they are not understood. -/
def Invocation.parse (args : List String) : Option Invocation := readTop {} (read topSwitches none false args)

end Command

end LineLimit
