import EnvBootstrap.Script.Command

/-!
# Tokens and faults

The tokens of a script, and why a text is none.
-/

namespace EnvBootstrap.Script

inductive Keyword where
  | not
  | «case»
  | «do»
  | done
  | elif
  | «else»
  | esac
  | fi
  | «for»
  | «if»
  | «in»
  | «then»
  | «until»
  | «while»
  | leftBrace
  | rightBrace
  deriving DecidableEq

def Keyword.all : List Keyword :=
  [.not, .case, .do, .done, .elif, .else, .esac, .fi, .for, .if, .in, .then, .until, .while,
    .leftBrace, .rightBrace]

def Keyword.text : Keyword → String
  | .not => "!"
  | .case => "case"
  | .do => "do"
  | .done => "done"
  | .elif => "elif"
  | .else => "else"
  | .esac => "esac"
  | .fi => "fi"
  | .for => "for"
  | .if => "if"
  | .in => "in"
  | .then => "then"
  | .until => "until"
  | .while => "while"
  | .leftBrace => "\x7b"
  | .rightBrace => "\x7d"

def Keyword.ofText? (text : List Char) : Option Keyword :=
  Keyword.all.find? fun keyword => keyword.text.toList = text

inductive Token where
  | endOfFile
  | newline
  | semicolon
  | background
  | and
  | or
  | pipe
  | leftParenthesis
  | rightParenthesis
  | endOfCase
  | redirection
  | word
  | keyword (k : Keyword)
  deriving DecidableEq

def Token.shown : Token → String
  | .endOfFile => "end of file"
  | .newline => "newline"
  | .semicolon => "\";\""
  | .background => "\"&\""
  | .and => "\"&&\""
  | .or => "\"||\""
  | .pipe => "\"|\""
  | .leftParenthesis => "\"(\""
  | .rightParenthesis => "\")\""
  | .endOfCase => "\";;\""
  | .redirection => "redirection"
  | .word => "word"
  | .keyword k => "\"" ++ k.text ++ "\""

def Token.endsList : Token → Bool
  | .endOfFile | .rightParenthesis | .endOfCase => true
  | .keyword k => [.do, .done, .elif, .else, .esac, .fi, .then, .rightBrace].contains k
  | _ => false

inductive Fault where
  | unexpected (token : Token) (wanted : Option Token)
  | unterminatedQuote
  | unterminatedSubstitution
  | missingBrace
  | missingParentheses
  | badVariable
  | badFunction
  | badDescriptor

def Fault.message (fault : Fault) : List Char :=
  let reason :=
    match fault with
    | .unexpected token none => token.shown ++ " unexpected"
    | .unexpected token (some wanted) =>
      token.shown ++ " unexpected (expecting " ++ wanted.shown ++ ")"
    | .unterminatedQuote => "Unterminated quoted string"
    | .unterminatedSubstitution => "EOF in backquote substitution"
    | .missingBrace => "Missing '\x7d'"
    | .missingParentheses => "Missing '))'"
    | .badVariable => "Bad for loop variable"
    | .badFunction => "Bad function name"
    | .badDescriptor => "Bad fd number"
  ("Syntax error: " ++ reason).toList

end EnvBootstrap.Script
