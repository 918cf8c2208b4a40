import EnvBootstrap.Log.Directive

/-!
# Filters

Which log messages are shown: a filter is a list of directives, and the most specific one that is
about a message decides.
-/

namespace EnvBootstrap.Log

/-- Directives by falling specificity, no two of them about the same messages. -/
abbrev Filter := List Directive

namespace Filter

/-- With a directive added; it replaces an earlier one about the same messages. -/
def add (filter : Filter) (directive : Directive) : Filter :=
  let others := filter.filter fun other =>
    other.target ≠ directive.target || other.span ≠ directive.span ||
      other.fields ≠ directive.fields
  others.takeWhile (·.covers directive) ++ directive :: others.dropWhile (·.covers directive)

def shows (filter : Filter) (event : Event) : Bool :=
  match event.level?, filter.find? (·.applies event) with
  | some level, some directive => (Verbosity.ofLevel level).rank ≤ directive.verbosity.rank
  | _, _ => false

def parts (text : String) : List String :=
  ((text.toList.splitOn ',').filter (· ≠ [])).map String.ofList

/-- The filter that a text describes, with the directives that are ignored.  Where nothing is left
of the text, everything is shown up to the default.  There is no filter if a directive would be cut
inside a character. -/
def ofText? (text : String) (default : Verbosity) :
    Option (List (String × DirectiveFault) × Filter) :=
  let directives := (parts text).map fun part => (part, Directive.ofText part)
  let ignored := directives.filterMap fun (part, read) =>
    match read with
    | .error fault => some (part, fault)
    | .ok _ => none
  let kept := directives.filterMap fun (_, read) => read.toOption
  let filter := kept.foldl add []
  if ignored.any (·.2 = .brokenCharacter) then none
  else some (ignored, if filter.isEmpty then [{ verbosity := default }] else filter)

end Filter

end EnvBootstrap.Log
