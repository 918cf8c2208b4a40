import EnvBootstrap.Script.Standing
import EnvBootstrap.Script.Word

/-!
# Reading commands

The grammar of commands over the tokens of a script.  A script is read command by command, since
each one can change how the next one is read.
-/

namespace EnvBootstrap.Script

inductive Extent where
  | line
  /-- At a token that ends lists, behind one command at least. -/
  | commands
  | anyCommands
  deriving DecidableEq

def Checks.command : Checks := { keywords := true, aliases := true }

def Checks.commandPastLines : Checks := { newlines := true, keywords := true, aliases := true }

def Word.arguments : Word := [.mark, .parameter ['@'] .value false [], .mark]

namespace Reader

def tokenWith (inner : Inner) (checks : Checks) : Reader Token := do
  check checks
  nextToken inner

def expect (inner : Inner) (wanted : Token) : Reader Unit := do
  unless (← nextToken inner) = wanted do refuse (some wanted)

def operand (inner : Inner) : Reader Redirection := do
  let operator := (← get).operator
  match operator with
  | .document .. => check { ending := true }
  | _ => pure ()
  unless (← nextToken inner) = .word do refuse none
  let source ← get
  match operator with
  | .file descriptor access => return .file descriptor access source.word
  | .copy descriptor => return .copy descriptor source.word
  | .document descriptor isStripped =>
    let announcement : Announcement :=
      { number := source.fresh, ending := some source.word.unquoted
        isExpanded := !source.isQuoted, isStripped }
    modify fun source =>
      { source with
        announced := source.announced ++ [announcement], fresh := source.fresh + 1 }
    return .document descriptor announcement.number

def redirections (inner : Inner) : Nat → Reader (List Redirection)
  | 0 => return []
  | fuel + 1 => do
    if (← nextToken inner) = .redirection then
      let first ← operand inner
      return first :: (← redirections inner fuel)
    else
      pushBack
      return []

def loopWords (inner : Inner) : Nat → Reader (List Word)
  | 0 => return []
  | fuel + 1 => do
    match ← nextToken inner with
    | .word =>
      let word := (← get).word
      return word :: (← loopWords inner fuel)
    | .newline | .semicolon => return []
    | _ => refuse none

def patterns (inner : Inner) : Nat → Reader (List Word)
  | 0 => return []
  | fuel + 1 => do
    let word := (← get).word
    match ← nextToken inner with
    | .pipe =>
      discard (nextToken inner)
      return word :: (← patterns inner fuel)
    | .rightParenthesis => return [word]
    | _ => refuse (some .rightParenthesis)

/-- A command of words, of which the parts in front are given in reverse. -/
def simple (inner : Inner) (function : List Char → Reader Command) (line : Nat) :
    Nat → List Word → List Word → List Redirection → Reader Command
  | 0, assignments, words, redirected =>
    return .simple line assignments.reverse words.reverse redirected.reverse
  | fuel + 1, assignments, words, redirected => do
    check { aliases := words.isEmpty }
    match ← nextToken inner with
    | .word =>
      let word := (← get).word
      if words.isEmpty && word.isAssignment then
        simple inner function line fuel (word :: assignments) words redirected
      else simple inner function line fuel assignments (word :: words) redirected
    | .redirection =>
      let more ← operand inner
      simple inner function line fuel assignments words (more :: redirected)
    | found =>
      match words, found with
      | [name], .leftParenthesis =>
        if assignments.isEmpty && redirected.isEmpty then
          expect inner .rightParenthesis
          match Word.plain? name with
          | none => fault .badFunction
          | some name =>
            if !isName name || (standing? name).any (·.isSpecial) then fault .badFunction
            check .commandPastLines
            function name
        else finish assignments words redirected
      | _, _ => finish assignments words redirected
where
  finish (assignments words : List Word) (redirected : List Redirection) : Reader Command := do
    pushBack
    return .simple line assignments.reverse words.reverse redirected.reverse

mutual

def list : Nat → Extent → Option Command → Reader (Option Command)
  | 0, _, before => return before
  | fuel + 1, extent, before => do
    let inner : Inner := ⟨list fuel .anyCommands none, enclosed fuel⟩
    let isLine := extent = .line
    let isInner := extent = .anyCommands || (extent = .commands && before.isSome)
    match ← tokenWith inner (if isLine then .command else .commandPastLines) with
    | .newline =>
      documents inner
      return before
    | .endOfFile =>
      documents inner
      pushBack
      modify fun source => { source with token := .endOfFile }
      return before
    | found =>
      pushBack
      if isInner && found.endsList then return before
      let next ← andOr fuel
      let separator ← nextToken inner
      let next :=
        if separator ≠ .background then next
        else match next with
          | .pipeline commands _ => .pipeline commands true
          | .redirected line command redirections => .background line command redirections
          | _ => .background 0 next []
      let all :=
        match before with
        | none => next
        | some before => .sequence before next
      match separator with
      | .endOfFile =>
        documents inner
        pushBack
        modify fun source => { source with token := .endOfFile }
        return some all
      | .newline =>
        pushBack
        list fuel extent (some all)
      | .background | .semicolon => list fuel extent (some all)
      | _ =>
        if isLine then refuse none
        pushBack
        return some all

/-- Commands up to a closing parenthesis; documents that begin behind the last line are empty. -/
def enclosed : Nat → Reader (Option Command)
  | 0 => return none
  | fuel + 1 => do
    let inner : Inner := ⟨list fuel .anyCommands none, enclosed fuel⟩
    let found ← list fuel .anyCommands none
    expect inner .rightParenthesis
    modify fun source =>
      { source with
        announced := []
        documents := source.announced.map (fun text => (text.number, [])) ++ source.documents }
    return found

def block : Nat → Token → Reader Command
  | 0, wanted => refuse (some wanted)
  | fuel + 1, wanted => do
    match ← list fuel .commands none with
    | some found => return found
    | none =>
      discard (nextToken ⟨list fuel .anyCommands none, enclosed fuel⟩)
      refuse (some wanted)

def andOr : Nat → Reader Command
  | 0 => refuse none
  | fuel + 1 => do andOrBehind fuel (← pipeline fuel)

def andOrBehind : Nat → Command → Reader Command
  | 0, left => return left
  | fuel + 1, left => do
    match ← nextToken ⟨list fuel .anyCommands none, enclosed fuel⟩ with
    | .and =>
      check .commandPastLines
      andOrBehind fuel (.both left (← pipeline fuel))
    | .or =>
      check .commandPastLines
      andOrBehind fuel (.either left (← pipeline fuel))
    | _ =>
      pushBack
      return left

def pipeline : Nat → Reader Command
  | 0 => refuse none
  | fuel + 1 => do
    let isNegated :=
      (← nextToken ⟨list fuel .anyCommands none, enclosed fuel⟩) = .keyword .not
    if isNegated then check .command else pushBack
    let first ← command fuel
    let rest ← pipelineBehind fuel
    let all := if rest.isEmpty then first else .pipeline (first :: rest) false
    return if isNegated then .negated all else all

def pipelineBehind : Nat → Reader (List Command)
  | 0 => return []
  | fuel + 1 => do
    if (← nextToken ⟨list fuel .anyCommands none, enclosed fuel⟩) = .pipe then
      check .commandPastLines
      let next ← command fuel
      return next :: (← pipelineBehind fuel)
    else
      pushBack
      return []

def command : Nat → Reader Command
  | 0 => refuse none
  | fuel + 1 => do
    let inner : Inner := ⟨list fuel .anyCommands none, enclosed fuel⟩
    let line := (← get).line
    match ← nextToken inner with
    | .word | .redirection =>
      pushBack
      let line := (← get).line
      simple inner (fun name => do return .function name (← command fuel)) line
        (← patience) [] [] []
    | .leftParenthesis =>
      let body ← block fuel .rightParenthesis
      expect inner .rightParenthesis
      check .command
      return .subshell line body (← redirections inner (← patience))
    | .keyword keyword =>
      let found ← compound fuel keyword
      check .command
      let redirections ← redirections inner (← patience)
      return if redirections.isEmpty then found else found.redirectedTo line redirections
    | _ => refuse none

def compound : Nat → Keyword → Reader Command
  | 0, _ => refuse none
  | fuel + 1, keyword => do
    let inner : Inner := ⟨list fuel .anyCommands none, enclosed fuel⟩
    let line := (← get).line
    match keyword with
    | .leftBrace =>
      let body ← block fuel (.keyword .rightBrace)
      expect inner (.keyword .rightBrace)
      return body
    | .if =>
      let found ← choice fuel
      expect inner (.keyword .fi)
      return found
    | .while | .until =>
      let condition ← block fuel (.keyword .do)
      expect inner (.keyword .do)
      let body ← block fuel (.keyword .done)
      expect inner (.keyword .done)
      return .loop (keyword = .until) condition body
    | .for =>
      let isWord := (← nextToken inner) = .word
      let source ← get
      match if isWord && !source.isQuoted then Word.plain? source.word else none with
      | none => fault .badVariable
      | some name =>
        if !isName name then fault .badVariable
        check .commandPastLines
        let words ←
          match ← nextToken inner with
          | .keyword .in => loopWords inner (← patience)
          | .semicolon => pure [Word.arguments]
          | _ => do
            pushBack
            pure [Word.arguments]
        check .commandPastLines
        expect inner (.keyword .do)
        let body ← block fuel (.keyword .done)
        expect inner (.keyword .done)
        return .each line name words body
    | .case =>
      expect inner .word
      let word := (← get).word
      check .commandPastLines
      expect inner (.keyword .in)
      return .selection line word (← cases fuel)
    | _ => refuse none

def choice : Nat → Reader Command
  | 0 => refuse none
  | fuel + 1 => do
    let inner : Inner := ⟨list fuel .anyCommands none, enclosed fuel⟩
    let condition ← block fuel (.keyword .then)
    expect inner (.keyword .then)
    let yes ← block fuel (.keyword .fi)
    match ← nextToken inner with
    | .keyword .elif => return .choice condition yes (some (← choice fuel))
    | .keyword .else => return .choice condition yes (some (← block fuel (.keyword .fi)))
    | _ =>
      pushBack
      return .choice condition yes none

def cases : Nat → Reader (List (List Word × Option Command))
  | 0 => refuse none
  | fuel + 1 => do
    let inner : Inner := ⟨list fuel .anyCommands none, enclosed fuel⟩
    let first ← tokenWith inner { newlines := true, keywords := true }
    if first = .keyword .esac then return []
    if first = .leftParenthesis then discard (nextToken inner)
    let patterns ← patterns inner (← patience)
    let body ← list fuel .anyCommands none
    match ← tokenWith inner { newlines := true, keywords := true } with
    | .keyword .esac => return [(patterns, body)]
    | .endOfCase => return (patterns, body) :: (← cases fuel)
    | _ => refuse (some .endOfCase)

end

def depth : Reader Nat := return 8 * (← patience) + 100000

def inner : Reader Inner := do
  let fuel ← depth
  return ⟨list fuel .anyCommands none, enclosed fuel⟩

def next : Reader (Option (Option Command)) := do
  modify fun source => { source with isPushedBack := false, checks := {}, announced := [] }
  let found ← list (← depth) .line none
  return if found.isNone && (← get).token = .endOfFile then none else some found

end Reader

end EnvBootstrap.Script
