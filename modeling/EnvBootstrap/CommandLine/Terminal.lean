import EnvBootstrap.Text.Utf8

/-!
# Terminal sequences

A text for a terminal may hold control sequences.  Where the output is no terminal they are left
out, together with all control characters but blanks.
-/

namespace EnvBootstrap.CommandLine

inductive SequenceState where
  | outside
  | escape
  | intermediate
  | control
  | device
  /-- In a string that goes on to the next escape character or to the byte for its end. -/
  | string
  /-- In a string that goes on to the next escape character or to a bell. -/
  | command
  deriving DecidableEq

namespace SequenceState

def stringEnd : UInt8 := 0x9C

def isText (c : Char) : Bool :=
  let n := c.toNat
  n = 0x09 || n = 0x0A || n = 0x0C || n = 0x0D || (0x20 ≤ n && n ≠ 0x7F)

def step (state : SequenceState) (c : Char) : SequenceState × Bool :=
  let n := c.toNat
  let isBlank := n < 0x20 && isText c
  if n = 0x18 || n = 0x1A then (outside, false)
  else if n = 0x1B then (escape, false)
  else match state with
    | outside => (outside, isText c)
    | escape =>
      if n < 0x20 || 0x7E < n then (escape, isBlank)
      else if n < 0x30 then (intermediate, false)
      else match c with
        | '[' => (control, false)
        | ']' => (command, false)
        | 'P' => (device, false)
        | 'X' | '^' | '_' => (string, false)
        | _ => (outside, false)
    | intermediate => if 0x30 ≤ n && n ≤ 0x7E then (outside, false) else (intermediate, isBlank)
    | control => if 0x40 ≤ n && n ≤ 0x7E then (outside, false) else (control, isBlank)
    | device => (if 0x40 ≤ n && n ≤ 0x7E then string else device, false)
    | string =>
      (if (Utf8.encode (String.singleton c)).contains stringEnd then outside else string, false)
    | command => (if n = 0x07 then outside else command, false)

/-- The characters that are text.  A blank inside a sequence is text, and so is what follows up to
the next control character; there the sequence goes on, unless a character that is not ASCII stands
between. -/
def visible : Bool → SequenceState → List Char → List Char
  | _, _, [] => []
  | isShowing, state, c :: rest =>
    if isShowing && isText c then
      c :: visible true (if c.toNat < 0x80 then state else outside) rest
    else match state.step c with
      | (next, true) => c :: visible true next rest
      | (next, false) => visible false next rest

end SequenceState

def withoutSequences (text : String) : String :=
  String.ofList (SequenceState.outside.visible false text.toList)

end EnvBootstrap.CommandLine
