import EnvBootstrap.Decimal.Floating
import EnvBootstrap.Script.Escape
import EnvBootstrap.Script.Quoting

/-!
# Formatted text

What `printf` makes of a format and its arguments, inside the shell and as a program of its own.
-/

namespace EnvBootstrap.Script

structure Shape where
  left : Bool := false
  plus : Bool := false
  space : Bool := false
  alternate : Bool := false
  zeros : Bool := false
  /-- Whether digits may be grouped, which they are not. -/
  groups : Bool := false
  width : Nat := 0
  precision : Option Nat := none

def largestMeasure : Nat := 2147483647

namespace Shape

def isTooLarge (shape : Shape) : Bool :=
  shape.width > largestMeasure || shape.precision.any (· > largestMeasure)

def pad (shape : Shape) (text : List Char) : List Char :=
  let blanks := List.replicate (shape.width - text.length) ' '
  if shape.left then text ++ blanks else blanks ++ text

/-- A text, cut to the precision. -/
def text (shape : Shape) (text : List Char) : List Char :=
  shape.pad (match shape.precision with
    | some n => text.take n
    | none => text)

def sign (shape : Shape) (isNegative : Bool) : List Char :=
  if isNegative then ['-'] else if shape.plus then ['+'] else if shape.space then [' '] else []

/-- Filled with zeros behind the sign up to the width. -/
def fill (shape : Shape) (sign digits : List Char) : List Char :=
  shape.pad (sign ++ List.replicate (shape.width - sign.length - digits.length) '0' ++ digits)

def number (shape : Shape) (sign digits : List Char) : List Char :=
  match shape.precision with
  | some n =>
    let digits := if n = 0 && digits = ['0'] then [] else digits
    shape.pad (sign ++ List.replicate (n - digits.length) '0' ++ digits)
  | none =>
    if shape.zeros && !shape.left then shape.fill sign digits else shape.pad (sign ++ digits)

def integer (shape : Shape) (letter : Char) (value : Int) : List Char :=
  if letter = 'd' || letter = 'i' then
    shape.number (shape.sign (value < 0)) (Nat.toDigits 10 value.natAbs)
  else
    let value := (value % UInt64.size).toNat
    match letter with
    | 'u' => shape.number [] (Nat.toDigits 10 value)
    | 'o' =>
      let digits := Nat.toDigits 8 value
      let isShort :=
        digits.length ≥ shape.precision.getD 0 && (value ≠ 0 || shape.precision = some 0)
      let least := if shape.alternate && isShort then some (digits.length + 1) else none
      if least.isSome && value = 0 then shape.pad ['0']
      else if least.isSome && shape.precision.isSome then
        { shape with precision := least }.number [] digits
      else shape.number [] (if least.isSome then '0' :: digits else digits)
    | 'x' =>
      shape.number (if shape.alternate && value ≠ 0 then ['0', 'x'] else []) (Nat.toDigits 16 value)
    | _ =>
      shape.number (if shape.alternate && value ≠ 0 then ['0', 'X'] else [])
        ((Nat.toDigits 16 value).map Char.toUpper)

def floating (shape : Shape) (format : BinaryFormat) (letter : Char) (value : Floating) :
    List Char :=
  let layout : Floating.Layout :=
    match letter.toLower with
    | 'a' => .binary
    | 'e' => .scientific
    | 'f' => .fixed
    | _ => .general
  let (isNegative, text) := value.text format layout shape.alternate shape.precision
  let text := if letter.isUpper then text.map Char.toUpper else text
  let isFinite :=
    match value with
    | .finite .. => true
    | _ => false
  let sign := shape.sign isNegative
  if shape.zeros && !shape.left && isFinite then
    let front := if layout = .binary then 2 else 0
    shape.fill (sign ++ text.take front) (text.drop front)
  else shape.pad (sign ++ text)

end Shape

inductive Complaint where
  | notNumber (argument : List Char)
  | notWhole (argument : List Char)
  | outOfRange (argument : List Char)
  | following (characters : List Char)
  | noConversion (directive : List Char)
  | noLetter
  | noDigits
  | badWidth (argument : List Char)
  | badPrecision (argument : List Char)
  | tooLarge
  | excess (argument : List Char)

namespace Complaint

def message (dialect : Dialect) (complaint : Complaint) : List Char :=
  let isShell := dialect = .shell
  let about (argument : List Char) (inShell inProgram : String) : List Char :=
    (if isShell then argument else shown argument) ++ ": ".toList ++
      (if isShell then inShell else inProgram).toList
  match complaint with
  | .notNumber argument => about argument "expected numeric value" "expected a numeric value"
  | .notWhole argument => about argument "not completely converted" "value not completely converted"
  | .outOfRange argument =>
    about argument "Numerical result out of range" "Numerical result out of range"
  | .following characters =>
    "warning: ".toList ++ characters ++
      ": character(s) following character constant have been ignored".toList
  | .noConversion directive =>
    directive ++
      (if isShell then ": invalid directive" else ": invalid conversion specification").toList
  | .noLetter => "missing format character".toList
  | .noDigits => "missing hexadecimal number in escape".toList
  | .badWidth argument => "invalid field width: ".toList ++ shown argument
  | .badPrecision argument => "invalid precision: ".toList ++ shown argument
  | .tooLarge => (if isShell then "xvsnprintf failed" else "write error").toList
  | .excess argument =>
    "warning: ignoring excess arguments, starting with ".toList ++ shown argument

def isHarmless : Complaint → Bool
  | .following _ | .excess _ => true
  | _ => false

end Complaint

inductive Ending where
  | cut
  | mistaken
  deriving DecidableEq

inductive Piece where
  | text (text : List Char)
  | complaint (complaint : Complaint)
  | lost

namespace Piece

def isComplaint : Piece → Bool
  | complaint _ => true
  | _ => false

def isLost : Piece → Bool
  | lost => true
  | _ => false

end Piece

structure Formatted where
  pieces : List Piece := []
  rest : List (List Char)
  ending : Option Ending := none

namespace Formatted

def written (formatted : Formatted) : List Char :=
  formatted.pieces.flatMap fun piece =>
    match piece with
    | .text text => text
    | _ => []

def complaints (formatted : Formatted) : List Complaint :=
  formatted.pieces.filterMap fun piece =>
    match piece with
    | .complaint complaint => some complaint
    | _ => none

def behind (pieces : List Piece) (formatted : Formatted) : Formatted :=
  { formatted with pieces := pieces ++ formatted.pieces }

end Formatted

/-! ### Arguments -/

def characterArgument? (dialect : Dialect) (argument : List Char) : Option (Nat × List Complaint) :=
  match argument with
  | q :: c :: more =>
    if q = '\'' || q = '"' then
      some (c.toNat, if dialect = .shell || more = [] then [] else [.following more])
    else none
  | [q] => if (q = '\'' || q = '"') && dialect = .shell then some (0, []) else none
  | [] => none

/-- Complaints about an argument of which a part in front is a number. -/
def complaintsAbout (dialect : Dialect) (argument rest : List Char) (isNumber fits : Bool) :
    List Complaint :=
  if !isNumber then if argument = [] then [] else [.notNumber argument]
  else if !fits && (rest = [] || dialect = .printfProgram) then [.outOfRange argument]
  else if rest ≠ [] then [.notWhole argument]
  else []

def integerArgument (dialect : Dialect) (isSigned : Bool) (argument : List Char) :
    Int × List Complaint :=
  match characterArgument? dialect argument with
  | some (value, complaints) => (value, complaints)
  | none =>
    match integer? argument with
    | none => (0, complaintsAbout dialect argument [] false true)
    | some (value, rest) =>
      let nearest : Int :=
        if isSigned then
          if value < Int64.minValue.toInt then Int64.minValue.toInt
          else if value ≤ Int64.maxValue.toInt then value
          else Int64.maxValue.toInt
        else if value.natAbs < UInt64.size then value
        else (UInt64.size - 1 : Nat)
      (nearest, complaintsAbout dialect argument rest true (nearest = value))

/-- Digits in a base with a point among them: their value, how many there are, how many of them
stand behind the point, and what follows. -/
def pointedDigits (base : Nat) (text : List Char) : Nat × Nat × Nat × List Char :=
  let (whole, n, rest) := digits base text 0 0
  match rest with
  | '.' :: behind =>
    let (value, m, rest) := digits base behind whole 0
    if n + m = 0 then (0, 0, 0, text) else (value, n + m, m, rest)
  | _ => (whole, n, 0, rest)

def exponentBehind (letter : Char) (text : List Char) : Int × List Char :=
  match text with
  | c :: rest =>
    if c.toLower = letter then
      match signed? (naturalIn? 10) rest with
      | some (value, rest) => (value, rest)
      | none => (0, text)
    else (0, text)
  | [] => (0, [])

def beginsWith (word : String) (text : List Char) : Bool :=
  (text.take word.length).map Char.toLower = word.toList

def magnitude? (format : BinaryFormat) (isNegative : Bool) (text : List Char) :
    Option (Floating.Rounding × List Char) :=
  let decimal : Option (Floating.Rounding × List Char) :=
    match pointedDigits 10 text with
    | (_, 0, _, _) => none
    | (value, _, places, rest) =>
      let (exponent, rest) := exponentBehind 'e' rest
      some (Floating.ofDecimal format isNegative value (exponent - places), rest)
  if beginsWith "infinity" text then some ({ value := .infinite isNegative }, text.drop 8)
  else if beginsWith "inf" text then some ({ value := .infinite isNegative }, text.drop 3)
  else if beginsWith "nan" text then some ({ value := .notANumber isNegative }, text.drop 3)
  else if beginsWith "0x" text then
    match pointedDigits 16 (text.drop 2) with
    | (_, 0, _, _) => decimal
    | (value, _, places, rest) =>
      let (exponent, rest) := exponentBehind 'p' rest
      some (Floating.ofBinary format isNegative value (exponent - 4 * places), rest)
  else decimal

def Dialect.binaryFormat (dialect : Dialect) : BinaryFormat :=
  if dialect = .shell then .double else .extended

def floatingArgument (dialect : Dialect) (argument : List Char) : Floating × List Complaint :=
  match characterArgument? dialect argument with
  | some (value, complaints) => (.finite false value 1, complaints)
  | none =>
    let format := dialect.binaryFormat
    let text := argument.dropWhile isBlank
    let found :=
      match text with
      | '-' :: rest => magnitude? format true rest
      | '+' :: rest => magnitude? format false rest
      | _ => magnitude? format false text
    match found with
    | none => (.finite false 0 1, complaintsAbout dialect argument [] false true)
    | some (found, rest) =>
      (found.value, complaintsAbout dialect argument rest true found.fits)

/-! ### Formats -/

def flags (dialect : Dialect) : Shape → List Char → Shape × List Char
  | shape, '-' :: rest => flags dialect { shape with left := true } rest
  | shape, '+' :: rest => flags dialect { shape with plus := true } rest
  | shape, ' ' :: rest => flags dialect { shape with space := true } rest
  | shape, '#' :: rest => flags dialect { shape with alternate := true } rest
  | shape, '0' :: rest => flags dialect { shape with zeros := true } rest
  | shape, c :: rest =>
    if (c = '\'' || c = 'I') && dialect ≠ .shell then
      flags dialect { shape with groups := true } rest
    else (shape, c :: rest)
  | shape, [] => (shape, [])

structure Conversion where
  shape : Shape
  text : List Char
  arguments : List (List Char)
  complaints : List Complaint := []

namespace Conversion

/-- The width or the precision that the next argument says.  The shell has it in 32 bits. -/
def measured (dialect : Dialect) (isWidth : Bool) (conversion : Conversion) : Int × Conversion :=
  match conversion.arguments with
  | [] => (0, conversion)
  | argument :: arguments =>
    let (value, complaints) := integerArgument dialect true argument
    let isBad := if isWidth then value.natAbs > largestMeasure else value > largestMeasure
    let conversion :=
      { conversion with arguments, complaints := conversion.complaints ++ complaints }
    if dialect = .shell then (value.bmod UInt32.size, conversion)
    else if isBad then
      let complaint := if isWidth then Complaint.badWidth argument else .badPrecision argument
      (0, { conversion with complaints := conversion.complaints ++ [complaint] })
    else (value, conversion)

def measure (dialect : Dialect) (isWidth : Bool) (conversion : Conversion) : Int × Conversion :=
  match conversion.text with
  | '*' :: text => measured dialect isWidth { conversion with text }
  | text =>
    (decimal (text.takeWhile isDigit), { conversion with text := text.dropWhile isDigit })

def isHopeless (conversion : Conversion) : Bool :=
  conversion.complaints.any fun complaint =>
    match complaint with
    | .badWidth _ | .badPrecision _ => true
    | _ => false

def ofText (dialect : Dialect) (text : List Char) (arguments : List (List Char)) : Conversion :=
  let (shape, text) := flags dialect {} text
  let (width, conversion) := measure dialect true { shape, text, arguments }
  let shape := { shape with width := width.natAbs, left := shape.left || width < 0 }
  let conversion :=
    match conversion.text with
    | '.' :: text =>
      if conversion.isHopeless then conversion
      else
        let (precision, conversion) := measure dialect false { conversion with text }
        let precision := if precision < 0 then none else some precision.toNat
        { conversion with shape := { shape with precision } }
    | _ => { conversion with shape }
  if dialect = .shell then conversion
  else { conversion with text := conversion.text.dropWhile "lLhjtz".toList.contains }

end Conversion

/-- Whether the program knows a conversion in a shape; `isBare` says that nothing stands between
its percent sign and its letter. -/
def isKnown (dialect : Dialect) (shape : Shape) (isBare : Bool) (letter : Char) : Bool :=
  if dialect = .shell then "bcsdiouxXaAeEfFgG".toList.contains letter
  else
    match letter with
    | 'b' | 'q' => isBare
    | 'c' => !(shape.groups || shape.alternate || shape.zeros || shape.precision.isSome)
    | 's' => !(shape.groups || shape.alternate || shape.zeros)
    | 'd' | 'i' | 'u' => !shape.alternate
    | 'a' | 'A' | 'o' | 'x' | 'X' | 'e' | 'E' => !shape.groups
    | 'f' | 'F' | 'g' | 'G' => true
    | _ => false

/-- What an argument comes to in a conversion, and why all output ends.  An argument that is missing
is empty, but is not shown between quotes. -/
def converted (dialect : Dialect) (shape : Shape) (letter : Char)
    (found : Option (List Char)) : List Piece × Option Ending :=
  let argument := found.getD []
  let number (complaints : List Complaint) (text : List Char) : List Piece × Option Ending :=
    (complaints.map Piece.complaint ++ [.text text], none)
  match letter with
  | 's' => ([.text (shape.text argument)], none)
  | 'q' => ([.text (found.elim [] (quotedIfNeeded false))], none)
  | 'c' => ([.text (shape.pad (if argument = [] then ['\x00'] else argument.take 1))], none)
  | 'b' =>
    match unescaped dialect (argument.length + 1) argument with
    | (written, none) => ([.text (shape.text written)], none)
    | (written, some .mistaken) =>
      ([.text (shape.text written), .complaint .noDigits], some .mistaken)
    | (written, some _) => ([.text (shape.text written)], some .cut)
  | 'd' | 'i' | 'o' | 'u' | 'x' | 'X' =>
    let (value, complaints) :=
      integerArgument dialect (letter = 'd' || letter = 'i') argument
    number complaints (shape.integer letter value)
  | _ =>
    let (value, complaints) := floatingArgument dialect argument
    number complaints (shape.floating dialect.binaryFormat letter value)

def format (dialect : Dialect) : Nat → List Char → List (List Char) → Formatted
  | 0, _, arguments => { rest := arguments }
  | _, [], arguments => { rest := arguments }
  | fuel + 1, '\\' :: text, arguments =>
    match escapeIn dialect text with
    | (.text written, text) => (format dialect fuel text arguments).behind [.text written]
    | (.cut, _) => { rest := [], ending := some .cut }
    | (.mistaken, _) => { rest := [], pieces := [.complaint .noDigits], ending := some .mistaken }
  | fuel + 1, '%' :: '%' :: text, arguments =>
    (format dialect fuel text arguments).behind [.text ['%']]
  | fuel + 1, '%' :: text, arguments =>
    let conversion := Conversion.ofText dialect text arguments
    let shape := conversion.shape
    let argument := conversion.arguments.head?
    let about := conversion.complaints.map Piece.complaint
    match conversion.text with
    | [] =>
      let complaint := if dialect = .shell then Complaint.noLetter else .noConversion ('%' :: text)
      { rest := [], pieces := about ++ [.complaint complaint], ending := some .mistaken }
    | letter :: behind =>
      let directive := '%' :: text.take (text.length - behind.length)
      if conversion.isHopeless then { rest := [], pieces := about, ending := some .mistaken }
      else if !isKnown dialect shape (directive.length = 2) letter then
        let complaint := Complaint.noConversion directive
        { rest := [], pieces := about ++ [.complaint complaint], ending := some .mistaken }
      else if shape.isTooLarge then
        let (pieces, _) := converted dialect {} letter argument
        let pieces := about ++ pieces.filter Piece.isComplaint
        if dialect = .shell then
          { rest := [], pieces := pieces ++ [.complaint .tooLarge], ending := some .mistaken }
        else (format dialect fuel behind (conversion.arguments.drop 1)).behind (pieces ++ [.lost])
      else
        let (pieces, ending) := converted dialect shape letter argument
        if ending.isSome then { pieces := about ++ pieces, rest := [], ending }
        else
          (format dialect fuel behind (conversion.arguments.drop 1)).behind (about ++ pieces)
  | fuel + 1, c :: text, arguments => (format dialect fuel text arguments).behind [.text [c]]

/-- A format used again and again until no argument is left, and at least once. -/
def formatted (dialect : Dialect) (text : List Char) : Nat → List (List Char) → Formatted
  | 0, _ => { rest := [] }
  | fuel + 1, arguments =>
    let once := format dialect (text.length + 1) text arguments
    if once.ending.isSome || once.rest.isEmpty || once.rest.length = arguments.length then once
    else (formatted dialect text fuel once.rest).behind once.pieces

def printed (dialect : Dialect) (text : List Char) (arguments : List (List Char)) : Formatted :=
  let all := formatted dialect text (arguments.length + 1) arguments
  let about : List Complaint :=
    match all.rest with
    | first :: _ => if dialect = .shell then [] else [.excess first]
    | [] => []
  let about := if all.pieces.any Piece.isLost then about ++ [.tooLarge] else about
  { all with pieces := all.pieces ++ about.map Piece.complaint }

end EnvBootstrap.Script
