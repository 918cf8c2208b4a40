import EnvBootstrap.Log.Filter

/-!
# Lines of the log

How the events of a run stand on standard error.
-/

namespace EnvBootstrap.Log

/-- A control character that a terminal could obey is written as an escape. -/
def harmless (c : Char) : String :=
  let n := c.toNat
  if n = 0x1B then "\\x1b"
  else if n = 0x07 then "\\x07"
  else if n = 0x08 then "\\x08"
  else if n = 0x0C then "\\x0c"
  else if n = 0x7F then "\\x7f"
  else if 0x80 ≤ n ∧ n ≤ 0x9F then "\\u\x7b" ++ Text.hexadecimal n ++ "\x7d"
  else String.singleton c

def Level.tag (coloured : Bool) : Level → String
  | .info => if coloured then "\x1b[32m INFO\x1b[0m" else " INFO"
  | .debug => if coloured then "\x1b[34mDEBUG\x1b[0m" else "DEBUG"

def Event.line? (filter : Filter) (coloured : Bool) (event : Event) : Option String :=
  match event.level? with
  | none => some (event.message ++ "\n")
  | some level =>
    if filter.shows event then
      some (level.tag coloured ++ " " ++ String.join (event.message.toList.map harmless) ++ "\n")
    else none

def lines (filter : Filter) (coloured : Bool) (events : List Event) : String :=
  String.join (events.filterMap (Event.line? filter coloured))

end EnvBootstrap.Log
