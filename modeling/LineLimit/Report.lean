import LineLimit.Diagnostic
/-!
The outcome of checking a file, and the counts over many files. Only diagnostics of severity `error`
count as errors.
-/

namespace LineLimit

/-- What was found in one file, line by line. -/
structure Report where
  path : String
  diagnostics : List Diagnostic
  deriving DecidableEq, Repr

namespace Report

def errorCount (r : Report) : Nat := r.diagnostics.countP (·.severity == .error)

def hasErrors (r : Report) : Bool := decide (0 < r.errorCount)

theorem hasErrors_iff {r : Report} :
    r.hasErrors = true ↔ ∃ d ∈ r.diagnostics, d.severity = .error := by
  simp [hasErrors, errorCount, List.countP_pos_iff]

end Report

structure Summary where
  files : Nat
  diagnostics : Nat
  filesWithErrors : Nat
  deriving DecidableEq, Repr

def Summary.ofReports (rs : List Report) : Summary where
  files := rs.length
  diagnostics := rs.foldr (fun r n => r.diagnostics.length + n) 0
  filesWithErrors := rs.countP (·.hasErrors)

end LineLimit
