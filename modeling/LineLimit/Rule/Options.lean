/-!
The options of the line length rule. A line may have `lineLength` characters; lines in code blocks, in
tables and lines that end in a link can be left out.
-/

namespace LineLimit

structure Options where
  lineLength : UInt64 := 120
  ignoreCodeBlocks : Bool := true
  ignoreTables : Bool := true
  ignoreLinks : Bool := true
  ignoreLinkPunctuation : Bool := true
  deriving DecidableEq, Repr, Inhabited

/-- The smallest number of characters that is too many, as far as words go. -/
def Options.effectiveLimit (o : Options) : UInt64 :=
  if o.lineLength = .ofNat (UInt64.size - 1) then o.lineLength else o.lineLength + 1

end LineLimit
