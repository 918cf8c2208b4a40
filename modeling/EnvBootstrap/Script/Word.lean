import EnvBootstrap.Script.Source

/-!
# Reading words

A word goes on through quotes, braces and arithmetic, which may stand in each other.  What
surrounds the next character is a stack of frames.
-/

namespace EnvBootstrap.Script

inductive Quoting where
  | none
  | double
  | single
  | arithmetic
  deriving DecidableEq

structure Frame where
  quoting : Quoting
  /-- Whether double quotes are in force, also around the frame. -/
  isDouble : Bool := false
  isInner : Bool := false
  braces : Nat := 0
  doubleBraces : Nat := 0
  parentheses : Nat := 0
  isBraces : Bool := false

inductive Open where
  | parameter (name : List Char) (use : Use) (orEmpty : Bool)
  | value

def Open.close (parts : List Part) : Open → Part
  | .parameter name use orEmpty => .parameter name use orEmpty parts
  | .value => .value parts

/-- A word that is read up to here; lists are in reverse. -/
structure Draft where
  frame : Frame
  outer : List Frame := []
  parts : List Part := []
  opened : List (Open × List Part) := []
  isQuoted : Bool := false

namespace Draft

def add (draft : Draft) (part : Part) : Draft := { draft with parts := part :: draft.parts }

def «open» (draft : Draft) (opening : Open) : Draft :=
  { draft with parts := [], opened := (opening, draft.parts) :: draft.opened }

def close (draft : Draft) : Draft :=
  match draft.opened with
  | (opening, parts) :: opened =>
    { draft with parts := opening.close draft.parts.reverse :: parts, opened }
  | [] => draft

def push (draft : Draft) (frame : Frame) : Draft :=
  { draft with frame, outer := draft.frame :: draft.outer }

def pop (draft : Draft) : Draft :=
  match draft.outer with
  | frame :: outer => { draft with frame, outer }
  | [] => draft

def withFrame (draft : Draft) (change : Frame → Frame) : Draft :=
  { draft with frame := change draft.frame }

/-- With quotes that begin or end; a document does not keep them. -/
def withMark (draft : Draft) (isDocument : Bool) : Draft :=
  if isDocument then draft else draft.add .mark

def word (draft : Draft) : Word :=
  (draft.opened.foldl (fun parts (opening, before) => opening.close parts.reverse :: before)
    draft.parts).reverse

end Draft

def isTamed (quoting : Quoting) (c : Char) : Bool :=
  match quoting with
  | .double => "!*?[=~:/-]".toList.contains c
  | .single => "!*?[=~:/-]\\".toList.contains c
  | _ => false

def isSeparator (c : Char) : Bool := " \t\n<>();&|".toList.contains c

structure Inner where
  whole : Reader (Option Command)
  enclosed : Reader (Option Command)

namespace Reader

def useOf? : Char → Option Use
  | '\x7d' => some .value
  | '-' => some .orDefault
  | '+' => some .instead
  | '?' => some .orFail
  | '=' => some .orAssign
  | _ => none

def use : Reader (Use × Bool) := do
  let trimmed (c : Char) (made : Bool → Use) : Reader (Use × Bool) := do
    pass
    return (made (← accept c), false)
  match ← peek with
  | some '%' => trimmed '%' .withoutBack
  | some '#' => trimmed '#' .withoutFront
  | some ':' =>
    pass
    let next ← peek
    pass
    return ((next.bind useOf?).getD .mistaken, true)
  | next =>
    pass
    return ((next.bind useOf?).getD .mistaken, false)

def longName : Reader (List Char) := do
  match ← peek with
  | some c =>
    if isLetter c then run isNameChar (← patience) else run isDigit (← patience)
  | none => return []

/-- A parameter between braces, the first of which is passed: its name, what is made of it, and
whether an empty one counts as not set. -/
def braced : Reader (List Char × Use × Bool) := do
  match ← peek with
  | none => return ([], .mistaken, false)
  | some c =>
    if isNameChar c then
      let name ← longName
      return (name, ← use)
    else if c = '\x7d' then return ([], .mistaken, false)
    else
      pass
      if c = '#' then
        match ← peek with
        | some d =>
          if isNameChar d then
            let name ← longName
            return (name, if (← peek) = some '\x7d' then .length else .mistaken, false)
          pass
          let isEnd := d ≠ '\x7d' && (← peek) = some '\x7d'
          if isEnd then
            return if isSpecial d then ([d], .length, false) else ([], .mistaken, false)
          modify fun source => { source with rest := d :: source.rest }
          return ([c], ← use)
        | none => return ([c], .mistaken, false)
      else if isSpecial c then return ([c], ← use)
      else return ([], .mistaken, false)

/-- With the parameter behind a dollar sign; braces stay open until their end is read. -/
def parameter (draft : Draft) : Reader Draft := do
  match ← peek with
  | some '\x7b' =>
    pass
    let (name, use, orEmpty) ← braced
    if use = .value && !orEmpty then return draft.add (.parameter name .value false [])
    let quoting :=
      match use with
      | .withoutBack _ | .withoutFront _ => .none
      | _ =>
        if draft.frame.quoting = .arithmetic then .double else draft.frame.quoting
    let draft := draft.open (.parameter name use orEmpty)
    let draft :=
      if quoting ≠ draft.frame.quoting || draft.frame.isInner then
        draft.push { quoting, isDouble := quoting ≠ .none, isBraces := true }
      else draft
    return draft.withFrame fun frame =>
      { frame with
        braces := frame.braces + 1
        doubleBraces := frame.doubleBraces + if frame.isDouble then 1 else 0 }
  | some c =>
    if isLetter c then return draft.add (.parameter (← longName) .value false [])
    else
      pass
      return draft.add (.parameter [c] .value false [])
  | none => return draft

/-- The text between back quotes; a backslash in front of some characters is left out. -/
def backquoted (isDouble : Bool) : Nat → Reader (List Char)
  | 0 => fault .unterminatedSubstitution
  | fuel + 1 => do
    match ← peek with
    | none => fault .unterminatedSubstitution
    | some '`' =>
      pass
      return []
    | some '\\' =>
      pass
      match ← look with
      | none => fault .unterminatedSubstitution
      | some c =>
        pass
        let isProtected := c = '\\' || c = '`' || c = '$' || (isDouble && c = '"')
        let rest ← backquoted isDouble fuel
        return if isProtected then c :: rest else '\\' :: c :: rest
    | some c =>
      if c = '\n' then passLine else pass
      return c :: (← backquoted isDouble fuel)

/-- What commands are read from another text, as if the script were this text alone. -/
def within (text : List Char) (commands : Reader (Option Command)) : Reader (Option Command) := do
  let before ← get
  set { before with rest := text, interrupted := [], spent := [], line := 1, announced := [] }
  let found ← commands
  modify fun source =>
    { source with
      rest := before.rest, interrupted := before.interrupted, spent := before.spent
      line := before.line, announced := before.announced, isPushedBack := false }
  return found

def dollar (inner : Inner) (draft : Draft) : Reader Draft := do
  if (← get).checks.ending then return draft.add (.plain '$')
  match ← peek with
  | some '(' =>
    pass
    if ← accept '(' then
      return (draft.open .value).push { quoting := .arithmetic, isDouble := true }
    let announced := (← get).announced
    modify fun source => { source with announced := [] }
    let commands ← inner.enclosed
    modify fun source => { source with announced }
    return draft.add (.output commands)
  | some c =>
    if c = '\x7b' || isLetter c || isSpecial c then parameter draft
    else return draft.add (.plain '$')
  | none => return draft.add (.plain '$')

def backslash (isDocument : Bool) (draft : Draft) : Reader Draft := do
  match ← look with
  | none => return draft.add (.escaped '\\')
  | some c =>
    pass
    let frame := draft.frame
    let isKept :=
      frame.isDouble && c ≠ '\\' && c ≠ '`' && c ≠ '$' &&
        (c ≠ '"' || (isDocument && frame.braces = 0)) && (c ≠ '\x7d' || frame.braces = 0)
    let draft := if isKept then draft.add (.escaped '\\') else draft
    return { draft.add (.escaped c) with isQuoted := true }

def closeQuote (isDocument : Bool) (c : Char) (draft : Draft) : Draft :=
  if isDocument && draft.frame.braces = 0 then draft.add (.plain c)
  else
    let draft := { draft with isQuoted := true }
    let draft :=
      if draft.frame.doubleBraces = 0 then
        draft.withFrame fun frame => { frame with quoting := .none, isDouble := false }
      else draft
    let draft :=
      if c = '"' && draft.frame.braces > 0 then
        draft.withFrame fun frame => { frame with isInner := !frame.isInner }
      else draft
    draft.withMark isDocument

def openDouble (isDocument : Bool) (draft : Draft) : Draft :=
  (draft.withFrame fun frame =>
    { frame with
      quoting := .double, isDouble := true
      isInner := if frame.braces > 0 then !frame.isInner else frame.isInner }).withMark isDocument

def closeBrace (draft : Draft) : Draft :=
  let frame := draft.frame
  if frame.isInner || frame.braces = 0 then draft.add (.plain '\x7d')
  else
    let draft := draft.withFrame fun frame => { frame with braces := frame.braces - 1 }
    let draft :=
      if frame.braces = 1 && frame.isBraces then draft.pop
      else draft.withFrame fun frame => { frame with doubleBraces := frame.doubleBraces - 1 }
    draft.close

def closeParenthesis (draft : Draft) : Reader Draft := do
  if draft.frame.parentheses > 0 then
    return (draft.withFrame fun frame => { frame with parentheses := frame.parentheses - 1 }).add
      (.plain ')')
  else if ← accept ')' then return draft.close.pop
  else return draft.add (.plain ')')

def passTabs : Nat → Reader Bool
  | 0 => return false
  | fuel + 1 => do
    if (← look) = some '\t' then
      pass
      discard (passTabs fuel)
      return true
    else return false

/-- Whether a document ends with the line that begins here; if it does, the line is passed. -/
def atEnding (ending : List Char) : Reader Bool := do
  let text := (← get).rest
  if !ending.isPrefixOf text then return false
  match text.drop ending.length with
  | [] =>
    modify fun source => { source with rest := [], line := source.line + 1 }
    return true
  | '\n' :: rest =>
    modify fun source => { source with rest, line := source.line + 1 }
    return true
  | _ => return false

mutual

/-- The parts of a word or a document behind a draft.  `isRaw` says that the next character is not
joined to the one in front of it. -/
def parts (inner : Inner) (document : Option Announcement) :
    Nat → Bool → Draft → Reader Draft
  | 0, _, draft => return draft
  | fuel + 1, isRaw, draft => do
    let isDocument := document.isSome
    let frame := draft.frame
    match ← if isRaw || frame.quoting = .single then look else peek with
    | none => return draft
    | some c =>
      let goOn := parts inner document fuel false
      let pastOne (draft : Draft) : Reader Draft := do
        pass
        goOn draft
      if c = '\n' then
        if frame.quoting = .none && frame.braces = 0 then return draft
        passLine
        lineStart inner document fuel (draft.add (.plain c))
      else if isTamed frame.quoting c then
        pastOne (draft.add (if isDocument && !frame.isDouble && frame.braces = 0 then .plain c
          else .escaped c))
      else if frame.quoting = .single then
        if c = '\'' then pastOne (closeQuote isDocument c draft) else pastOne (draft.add (.plain c))
      else if c = '\\' then
        pass
        goOn (← backslash isDocument draft)
      else if c = '$' then
        pass
        goOn (← dollar inner draft)
      else if c = '`' then
        pass
        if (← get).checks.ending then goOn (draft.add (.plain c))
        else
          let text ← backquoted frame.isDouble (← patience)
          goOn (draft.add (.output (← within text inner.whole)))
      else if c = '\x7d' then pastOne (closeBrace draft)
      else if c = '"' && frame.quoting = .double then pastOne (closeQuote isDocument c draft)
      else if c = '"' && frame.quoting = .none then pastOne (openDouble isDocument draft)
      else if c = '\'' && frame.quoting = .none then
        let quoted := draft.withFrame fun frame => { frame with quoting := .single }
        pastOne (quoted.withMark isDocument)
      else if c = '(' && frame.quoting = .arithmetic then
        pastOne ((draft.withFrame fun frame =>
          { frame with parentheses := frame.parentheses + 1 }).add (.plain c))
      else if c = ')' && frame.quoting = .arithmetic then
        pass
        goOn (← closeParenthesis draft)
      else if frame.quoting = .none && isSeparator c && frame.braces = 0 then return draft
      else pastOne (draft.add (.plain c))

def lineStart (inner : Inner) (document : Option Announcement) :
    Nat → Draft → Reader Draft
  | 0, draft => return draft
  | fuel + 1, draft => do
    match document with
    | none => parts inner document fuel false draft
    | some announcement =>
      if announcement.isExpanded then discard peek
      let isRaw ← if announcement.isStripped then passTabs (← patience) else pure false
      let isEnded ←
        match announcement.ending with
        | none => pure false
        | some ending => atEnding ending
      if isEnded then return draft else parts inner document fuel isRaw draft

end

def finished (isDocument : Bool) (draft : Draft) : Reader Word := do
  if draft.frame.quoting = .arithmetic then fault .missingParentheses
  if draft.frame.quoting ≠ .none && !isDocument then fault .unterminatedQuote
  if draft.frame.braces ≠ 0 then fault .missingBrace
  return draft.word

def document (inner : Inner) (announcement : Announcement) :
    Reader Word := do
  let frame : Frame :=
    if announcement.isExpanded then { quoting := .double, isDouble := true }
    else { quoting := .single }
  let draft ← lineStart inner (some announcement) (4 * (← patience)) { frame }
  finished true draft

def documents (inner : Inner) : Reader Unit := do
  let announced := (← get).announced
  modify fun source => { source with announced := [] }
  for announcement in announced do
    let word ← document inner announcement
    modify fun source =>
      { source with documents := (announcement.number, word) :: source.documents }

def redirection (digit : Option Nat) : Reader Unit := do
  let isOutput ← accept '>'
  let operator : Operator ←
    if isOutput then do
      let descriptor := digit.getD 1
      if ← accept '>' then pure (.file descriptor .append)
      else if ← accept '|' then pure (.file descriptor (.replace true))
      else if ← accept '&' then pure (.copy descriptor)
      else pure (.file descriptor (.replace false))
    else do
      pass
      let descriptor := digit.getD 0
      if ← accept '<' then pure (.document descriptor (← accept '-'))
      else if ← accept '&' then pure (.copy descriptor)
      else if ← accept '>' then pure (.file descriptor .both)
      else pure (.file descriptor .read)
  modify fun source => { source with operator, token := .redirection }

def wordToken (inner : Inner) : Reader Unit := do
  let draft ← parts inner none (4 * (← patience)) false { frame := { quoting := .none } }
  let word ← finished false draft
  let digit? : Option (Option Nat) :=
    match word with
    | [] => some none
    | [.plain c] => if isDigit c then some (some (decimal [c])) else none
    | _ => none
  let next ← peek
  match digit?, draft.isQuoted, next = some '<' || next = some '>' with
  | some digit, false, true => redirection digit
  | _, _, _ =>
    modify fun source => { source with word, isQuoted := draft.isQuoted, token := .word }

def comment : Nat → Reader Unit
  | 0 => return
  | fuel + 1 => do
    match ← look with
    | none | some '\n' => return
    | some _ =>
      pass
      comment fuel

def bareToken (inner : Inner) : Nat → Reader Token
  | 0 => return .endOfFile
  | fuel + 1 => do
    if (← get).isPushedBack then
      modify fun source => { source with isPushedBack := false }
      return (← get).token
    let found (token : Token) : Reader Token := do
      modify fun source => { source with token }
      return token
    let sign (single : Token) (c : Char) (double : Token) : Reader Token := do
      pass
      found (if ← accept c then double else single)
    match ← peek with
    | none => found .endOfFile
    | some ' ' | some '\t' =>
      pass
      bareToken inner fuel
    | some '#' =>
      comment (← patience)
      bareToken inner fuel
    | some '\n' =>
      passLine
      found .newline
    | some '&' => sign .background '&' .and
    | some '|' => sign .pipe '|' .or
    | some ';' => sign .semicolon ';' .endOfCase
    | some '(' => do
      pass
      found .leftParenthesis
    | some ')' => do
      pass
      found .rightParenthesis
    | some _ =>
      wordToken inner
      return (← get).token

def tokenPastLines (inner : Inner) : Nat → Reader Token
  | 0 => return .endOfFile
  | fuel + 1 => do
    let token ← bareToken inner (← patience)
    if token = .newline then
      documents inner
      check {}
      tokenPastLines inner fuel
    else return token

/-- The next token, compared with keywords and aliases where that is asked for.  The value of an
alias is read in its place. -/
def token (inner : Inner) : Nat → Checks → Reader Token
  | 0, _ => return .endOfFile
  | fuel + 1, before => do
    let found ←
      if before.newlines then tokenPastLines inner (← patience)
      else bareToken inner (← patience)
    let source ← get
    let checks : Checks :=
      { before with
        keywords := before.keywords || source.checks.keywords
        aliases := before.aliases || source.checks.aliases }
    check {}
    if found ≠ .word || source.isQuoted then return found
    match Word.plain? source.word with
    | none => return found
    | some text =>
      match if checks.keywords then Keyword.ofText? text else none with
      | some keyword =>
        modify fun source => { source with token := .keyword keyword }
        return .keyword keyword
      | none =>
        let isKnown := checks.aliases && !source.isReading text
        match if isKnown then source.aliases.lookup text else none with
        | none => return found
        | some value =>
          unless value = [] do
            modify fun source =>
              { source with
                rest := value
                spent := []
                interrupted :=
                  { name := text
                    endsBlank := value.getLast?.any isSpace
                    rest := source.rest
                    spent := source.spent } :: source.interrupted }
          token inner fuel checks

def nextToken (inner : Inner) : Reader Token := do
  token inner 10000 (← get).checks

end Reader

end EnvBootstrap.Script
