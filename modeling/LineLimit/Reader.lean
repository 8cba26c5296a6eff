import LineLimit.Document
/-!
Readers of documents. A reader knows the extensions of its files and makes a document from a text, or tells what is
wrong with the text.
-/

namespace LineLimit

/-- What is wrong with a text that is read for its outline. -/
inductive ParseError
  | invalidSource (text : String) (line : Option UInt64)
  | internal (text : String)
  deriving DecidableEq, Repr

namespace ParseError

def message : ParseError → String
  | invalidSource text _ => s!"Invalid source: {text}"
  | internal text => s!"Internal parser error: {text}"

def line? : ParseError → Option UInt64
  | invalidSource _ line => line
  | internal _ => none

end ParseError

/-- A notation for documents. Its extensions are written without a dot. -/
structure Reader where
  name : String
  extensions : List String
  read : String → Except ParseError Document

end LineLimit
