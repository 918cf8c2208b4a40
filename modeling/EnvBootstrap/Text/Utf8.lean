/-!
# UTF-8

Byte strings are lists of bytes, with no assumption that they are text.  One decoder,
`segments`, cuts a byte string into scalar values and maximal broken parts; strict reading
(`decode?`) and reading with replacement (`lossy`) are two views of its result.
-/

namespace EnvBootstrap

/-- A byte string: a path, the value of a variable, or the contents of a file. -/
abbrev Bytes := List UInt8

namespace Utf8

/-- An unfinished sequence: the bytes read, the bits they carry, how many bytes follow the next
one, and the range in which the next one has to lie. -/
structure Pending where
  read : Bytes
  value : Nat
  more : Nat
  low : UInt8
  high : UInt8
  deriving DecidableEq

inductive Lead where
  | scalar (value : Char)
  | sequence (pending : Pending)
  | broken
  deriving DecidableEq

/-- The well-formed sequences by their first byte.  The narrowed ranges after `E0`, `ED`, `F0`
and `F4` exclude overlong forms, surrogates and values past `U+10FFFF`. -/
def lead (b : UInt8) : Lead :=
  if b < 0x80 then .scalar (Char.ofNat b.toNat)
  else if b < 0xC2 then .broken
  else if b < 0xE0 then .sequence ⟨[b], b.toNat % 32, 0, 0x80, 0xBF⟩
  else if b < 0xF0 then
    .sequence
      ⟨[b], b.toNat % 16, 1, if b = 0xE0 then 0xA0 else 0x80, if b = 0xED then 0x9F else 0xBF⟩
  else if b < 0xF5 then
    .sequence
      ⟨[b], b.toNat % 8, 2, if b = 0xF0 then 0x90 else 0x80, if b = 0xF4 then 0x8F else 0xBF⟩
  else .broken

/-- A piece of a byte string: one scalar value, or a maximal part that is no UTF-8. -/
inductive Segment where
  | scalar (value : Char)
  | broken (bytes : Bytes)
  deriving DecidableEq

def start (b : UInt8) : List Segment × Option Pending :=
  match lead b with
  | .scalar c => ([.scalar c], none)
  | .sequence p => ([], some p)
  | .broken => ([.broken [b]], none)

/-- One byte read.  A byte that cannot continue a sequence ends it as broken and opens anew. -/
def step : Option Pending → UInt8 → List Segment × Option Pending
  | none, b => start b
  | some p, b =>
    if p.low ≤ b ∧ b ≤ p.high then
      let value := p.value * 64 + b.toNat % 64
      match p.more with
      | 0 => ([.scalar (Char.ofNat value)], none)
      | more + 1 => ([], some ⟨p.read ++ [b], value, more, 0x80, 0xBF⟩)
    else (.broken p.read :: (start b).1, (start b).2)

def segmentsFrom : Option Pending → Bytes → List Segment
  | none, [] => []
  | some p, [] => [.broken p.read]
  | state, b :: rest => (step state b).1 ++ segmentsFrom (step state b).2 rest

def segments (bytes : Bytes) : List Segment := segmentsFrom none bytes

def Segment.shown : Segment → Char
  | .scalar c => c
  | .broken _ => '\uFFFD'

def Segment.scalar? : Segment → Option Char
  | .scalar c => some c
  | .broken _ => none

/-- The text of a byte string, each maximal broken part replaced by `U+FFFD`. -/
def lossy (bytes : Bytes) : String := String.ofList ((segments bytes).map Segment.shown)

def decode? (bytes : Bytes) : Option String :=
  ((segments bytes).mapM Segment.scalar?).map String.ofList

def encode (text : String) : Bytes := text.toList.flatMap String.utf8EncodeChar

end Utf8

end EnvBootstrap
