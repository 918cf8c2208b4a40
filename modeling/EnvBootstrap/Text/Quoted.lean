import EnvBootstrap.Text.Hexadecimal
import EnvBootstrap.Text.Shape
import EnvBootstrap.Text.Utf8

/-!
# Quoted forms

Texts and byte strings as diagnostics show them: between double quotes, with escapes for quotes,
backslashes and everything without a shape of its own.
-/

namespace EnvBootstrap.Text

def escaped (c : Char) : String :=
  if c = '\x00' then "\\0"
  else if c = '\t' then "\\t"
  else if c = '\r' then "\\r"
  else if c = '\n' then "\\n"
  else if c = '"' then "\\\""
  else if c = '\\' then "\\\\"
  else if hasShape c then String.singleton c
  else "\\u\x7b" ++ hexadecimal c.toNat ++ "\x7d"

def quoted (text : String) : String :=
  "\"" ++ String.join (text.toList.map escaped) ++ "\""

def escapedByte (b : UInt8) : String :=
  let digits := (Nat.toDigits 16 b.toNat).map Char.toUpper
  "\\x" ++ String.ofList (if b < 16 then '0' :: digits else digits)

def escapedSegment : Utf8.Segment → String
  | .scalar c => escaped c
  | .broken bytes => String.join (bytes.map escapedByte)

def quotedBytes (bytes : Bytes) : String :=
  "\"" ++ String.join ((Utf8.segments bytes).map escapedSegment) ++ "\""

end EnvBootstrap.Text
