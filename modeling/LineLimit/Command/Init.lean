import LineLimit.Config.Basic
/-!
Writing a first configuration file. A file that stands there already is replaced only when that is asked for,
and a directory never is.
-/

namespace LineLimit.Command.Init

def defaultText : String :=
"\x7b
  // MY000 / stricter-line-length
  \"options\": \x7b
    \"stricter-line-length\": \x7b
      \"severity\": \"error\",
      \"line_length\": 120,
      \"ignore_code_blocks\": true,
      \"ignore_tables\": true,
      \"ignore_links\": true,
      \"ignore_link_punctuation\": true
    \x7d
  \x7d,
  \"include\": [],
  \"exclude\": [\"node_modules/**\"]
\x7d
"

def fileName : String := ".strictlen.jsonc"

inductive Error
  /-- Something stands there already, and it is not to be replaced. -/
  | occupied
  | io (cause : FileError)
  deriving DecidableEq, Repr

def Error.message : Error → String
  | occupied => "Config file already exists. Use --force to overwrite."
  | io cause => cause.message

/-- What one attempt at creating the file comes to: the file is written, there is an error, or the old file is removed
and another attempt is to be made. Each goes with the tree that is left. -/
inductive Attempt
  | written (t : FileTree)
  | failed (t : FileTree) (e : Error)
  | again (t : FileTree)

def attempt (force : Bool) (t : FileTree) : Attempt :=
  match t.createNew fileName defaultText.toUTF8 with
  | .ok t => .written t
  | .error .alreadyExists =>
    if !force then .failed t .occupied
    else
      match t.removeFile fileName with
      | .ok t => .again t
      | .error .notFound => .again t
      | .error e => .failed t (.io e)
  | .error e => .failed t (.io e)

/-- Another attempt is made only after something has been removed. -/
theorem of_attempt_eq_again {force : Bool} {t t' : FileTree} (h : attempt force t = .again t') :
    (t.root.get? (t.placeOf fileName)).isSome = true ∧ (t'.root.get? (t'.placeOf fileName)).isSome = false := by
  unfold attempt at h
  split at h
  · nomatch h
  · next hcreate =>
      have hsome := FileTree.isSome_of_createNew hcreate
      split at h
      · nomatch h
      · split at h
        · next hremove =>
            cases h
            rw [FileTree.get?_of_removeFile hremove]
            exact ⟨hsome, rfl⟩
        · next hremove =>
            rw [FileTree.get?_of_removeFile_notFound hremove] at hsome
            nomatch hsome
        · nomatch h
  · nomatch h

/-- What is left in the end: the tree, and the error if the file has not been written. -/
structure Result where
  tree : FileTree
  error : Option Error

/-- Makes attempts until the file is written or there is an error. -/
def init (force : Bool) (t : FileTree) : Result :=
  match _h : attempt force t with
  | .written t' => ⟨t', none⟩
  | .failed t' e => ⟨t', some e⟩
  | .again t' => init force t'
  termination_by (t.root.get? (t.placeOf fileName)).isSome.toNat
  decreasing_by
    obtain ⟨hsome, hnone⟩ := of_attempt_eq_again _h
    rw [hsome, hnone]
    decide

end LineLimit.Command.Init
