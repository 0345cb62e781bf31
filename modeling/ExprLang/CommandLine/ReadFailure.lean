/-!
# Files that cannot be read

## Main definitions

* `ReadFailure`, `ReadFailure.message` — why a path leads to no text, and the words for it.

## References

The files that the reference's `load_config` and `build_context` read.
-/

namespace ExprLang

/-- Why a path leads to no text. -/
inductive ReadFailure
  | missing
  | denied
  /-- A name is to be followed from what is a file. -/
  | notFolder
  /-- The path ends at a folder. -/
  | isFolder
  | nameTooLong
  deriving DecidableEq, Repr

/-- The words in which the system gives the reason. -/
def ReadFailure.message : ReadFailure → String
  | missing => "No such file or directory (os error 2)"
  | denied => "Permission denied (os error 13)"
  | notFolder => "Not a directory (os error 20)"
  | isFolder => "Is a directory (os error 21)"
  | nameTooLong => "File name too long (os error 36)"

end ExprLang
