/-!
# Failures of the file system

Why a file cannot be read or a directory cannot be made.

## Main definitions

* `FileFault`, `FileFault.message`.
-/

namespace ClusterDeploy

/-- Why a file cannot be read or a directory cannot be made. -/
inductive FileFault where
  /-- There is nothing at the path. -/
  | notFound
  /-- There is a file where a directory was to be made. -/
  | alreadyExists
  /-- A part of the path before its end is a file. -/
  | notDirectory
  /-- There is a directory where a file was to be read. -/
  | isDirectory
  /-- The path or a name in it is too long. -/
  | nameTooLong
  /-- There is a NUL in the path. -/
  | invalidName
  /-- The file may not be read. -/
  | permissionDenied
  /-- The system has no content to give. -/
  | inputOutput
  /-- Another reason, as the system words it. -/
  | other (reason : String)
  deriving DecidableEq, Repr

/-- What is said about a failure. -/
def FileFault.message : FileFault → String
  | .notFound => "No such file or directory (os error 2)"
  | .alreadyExists => "File exists (os error 17)"
  | .notDirectory => "Not a directory (os error 20)"
  | .isDirectory => "Is a directory (os error 21)"
  | .nameTooLong => "File name too long (os error 36)"
  | .invalidName => "file name contained an unexpected NUL byte"
  | .permissionDenied => "Permission denied (os error 13)"
  | .inputOutput => "Input/output error (os error 5)"
  | .other reason => reason

end ClusterDeploy
