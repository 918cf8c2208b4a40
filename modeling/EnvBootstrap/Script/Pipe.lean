/-!
# Pipes

Texts on their way from one process to another.  A writer runs to its end before its reader begins,
so a pipe takes whatever is written; only where there might be no end to that, it takes so much and
no more, and knows whether anybody has missed the rest.
-/

namespace EnvBootstrap.Script

structure Pipe where
  front : List Char := []
  back : List (List Char) := []
  /-- How many characters are still taken; absent if all are. -/
  room : Option Nat := none
  isCut : Bool := false
  isMissed : Bool := false
  deriving DecidableEq

namespace Pipe

def content (pipe : Pipe) : List Char :=
  if pipe.back.isEmpty then pipe.front else pipe.front ++ pipe.back.reverse.flatten

/-- With a text written to it, and whether all of the text is taken. -/
def write (pipe : Pipe) (text : List Char) : Pipe × Bool :=
  match pipe.room with
  | none => ({ pipe with back := text :: pipe.back }, true)
  | some room =>
    if text.length ≤ room then
      ({ pipe with back := text :: pipe.back, room := some (room - text.length) }, true)
    else
      ({ pipe with back := text.take room :: pipe.back, room := some 0, isCut := true }, false)

def drop (pipe : Pipe) (count : Nat) : Pipe :=
  { pipe with front := pipe.content.drop count, back := [] }

def reachEnd (pipe : Pipe) : Pipe := { pipe with isMissed := pipe.isMissed || pipe.isCut }

/-- How far a writer may be ahead of a reader. -/
def capacity : Nat := 65536

end Pipe

end EnvBootstrap.Script
