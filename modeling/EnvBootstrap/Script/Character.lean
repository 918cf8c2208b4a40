import EnvBootstrap.Text.Utf8

/-!
# Characters of a script

The text of a script is a list of characters with one character for each byte.
-/

namespace EnvBootstrap.Script

def ofBytes (bytes : Bytes) : List Char := bytes.map fun b => Char.ofNat b.toNat

def toBytes (text : List Char) : Bytes := text.map fun c => UInt8.ofNat c.toNat

def isSpace (c : Char) : Bool := c = ' ' || c = '\t'

def isBlank (c : Char) : Bool := isSpace c || ('\n' ≤ c && c ≤ '\r')

def isDigit (c : Char) : Bool := '0' ≤ c && c ≤ '9'

def isLetter (c : Char) : Bool := ('a' ≤ c && c ≤ 'z') || ('A' ≤ c && c ≤ 'Z') || c = '_'

def isNameChar (c : Char) : Bool := isLetter c || isDigit c

def isName : List Char → Bool
  | [] => false
  | c :: rest => isLetter c && rest.all isNameChar

def isSpecial (c : Char) : Bool := "#?$!-*@".toList.contains c || isDigit c

def digitsOf (n : Nat) : List Char := Nat.toDigits 10 n

def decimalOf (n : Int) : List Char :=
  if n < 0 then '-' :: digitsOf n.natAbs else digitsOf n.natAbs

/-- A number in decimal digits; other characters are passed over. -/
def decimal (digits : List Char) : Nat :=
  Nat.ofDigitChars 10 (digits.filter isDigit) 0

end EnvBootstrap.Script
