/-!
# Errors of the file system
-/

namespace EnvBootstrap.Files

inductive Error where
  | notFound
  | notExecutable
  | denied
  | notDirectory
  | isDirectory
  | nameTooLong
  | tooManyLinks
  | innerNul
  | other (reason : String)
  deriving DecidableEq

namespace Error

def summary : Error → String
  | .notFound => "No such file or directory"
  | .notExecutable => "Exec format error"
  | .denied => "Permission denied"
  | .notDirectory => "Not a directory"
  | .isDirectory => "Is a directory"
  | .nameTooLong => "File name too long"
  | .tooManyLinks => "Too many levels of symbolic links"
  | .innerNul => "file name contained an unexpected NUL byte"
  | .other reason => reason

def number? : Error → Option Nat
  | .notFound => some 2
  | .notExecutable => some 8
  | .denied => some 13
  | .notDirectory => some 20
  | .isDirectory => some 21
  | .nameTooLong => some 36
  | .tooManyLinks => some 40
  | .innerNul | .other _ => none

def message (error : Error) : String :=
  match error.number? with
  | some number => error.summary ++ " (os error " ++ toString number ++ ")"
  | none => error.summary

end Error

end EnvBootstrap.Files
