import EnvBootstrap.Shell.Basic
import EnvBootstrap.Text.Utf8

/-!
# Statements that set a variable

A value is written between single quotes, so that the shell takes every other character of it
literally.  The name is written as it is.
-/

namespace EnvBootstrap.Shell

def replaceEach (c : Char) (form : List Char) (text : List Char) : List Char :=
  text.flatMap fun d => if d = c then form else [d]

/-- Between single quotes.  A single quote inside closes the quotes, stands behind a backslash,
and opens them again. -/
def quoteSingle (text : List Char) : List Char :=
  '\'' :: replaceEach '\'' ['\'', '\\', '\'', '\''] text ++ ['\'']

/-- Between single quotes, with a backslash in front of each backslash and then of each single
quote. -/
def quoteFish (text : List Char) : List Char :=
  '\'' :: replaceEach '\'' ['\\', '\''] (replaceEach '\\' ['\\', '\\'] text) ++ ['\'']

/-- The statement that sets a variable for the shell and the programs it starts.  Bytes of the
value that are no UTF-8 are replaced. -/
def statement (shell : Shell) (name : String) (value : Bytes) : String :=
  let text := (Utf8.lossy value).toList
  match shell with
  | .posix => "export " ++ name ++ "=" ++ String.ofList (quoteSingle text) ++ "\n"
  | .csh => "setenv " ++ name ++ " " ++ String.ofList (quoteSingle text) ++ ";\n"
  | .fish => "set -gx " ++ name ++ " " ++ String.ofList (quoteFish text) ++ ";\n"

end EnvBootstrap.Shell
