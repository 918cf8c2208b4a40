import EnvBootstrap.Files.Error
import EnvBootstrap.Text.Quoted

/-!
# Faults of a configuration

Each way in which a configuration file can be refused, with the one place for its wording.
-/

namespace EnvBootstrap.Config

inductive Found where
  | integer (value : Int)
  /-- An integer of more than 64 bits that fits 128 bits, with or without a sign. -/
  | wideInteger (value : Int) (signed : Bool)
  | float (text : String)
  | boolean (value : Bool)
  | text (value : String)
  | sequence
  | map
  deriving DecidableEq

def Found.message : Found → String
  | .integer value => "integer `" ++ toString value ++ "`"
  | .wideInteger value signed =>
    "integer `" ++ toString value ++ "` as " ++ (if signed then "i128" else "u128")
  | .float shown => "floating point `" ++ shown ++ "`"
  | .boolean value => "boolean `" ++ (if value then "true" else "false") ++ "`"
  | .text value => "string " ++ Text.quoted value
  | .sequence => "sequence"
  | .map => "map"

inductive Mismatch where
  | wrongType (found : Found) (wanted : String)
  | wrongValue (found : Found) (wanted : String)
  | unknownField (name : String) (fields : List String)
  | unknownVariant (name : String) (variants : List String)
  | integerTooLarge
  | floatTooLarge
  | noVariant
  | noKey
  | manyKeys
  | notEmptyKind (found : String)
  | tableNotEmpty
  | arrayNotEmpty
  deriving DecidableEq

def alternatives (names : List String) : String :=
  let marked := names.map fun name => "`" ++ name ++ "`"
  match marked with
  | [a] => a
  | [a, b] => a ++ " or " ++ b
  | _ => "one of " ++ ", ".intercalate marked

def Mismatch.message : Mismatch → String
  | .wrongType found wanted => "invalid type: " ++ found.message ++ ", expected " ++ wanted
  | .wrongValue found wanted => "invalid value: " ++ found.message ++ ", expected " ++ wanted
  | .unknownField name fields => "unknown field `" ++ name ++ "`, expected " ++ alternatives fields
  | .unknownVariant name variants =>
    "unknown variant `" ++ name ++ "`, expected " ++ alternatives variants
  | .integerTooLarge => "integer number overflowed"
  | .floatTooLarge => "floating-point number overflowed"
  | .noVariant => "wanted string or table"
  | .noKey => "wanted exactly 1 element, found 0 elements"
  | .manyKeys => "wanted exactly 1 element, more than 1 element"
  | .notEmptyKind found => "expected table, found " ++ found
  | .tableNotEmpty => "expected empty table"
  | .arrayNotEmpty => "expected empty array"

inductive Fault where
  | unreadable (error : Files.Error)
  | notText
  | malformed
  | mismatch (mismatch : Mismatch)
  | noLevels
  | variableName (name : String)
  deriving DecidableEq

def Fault.message : Fault → String
  | .unreadable error => error.message
  | .notText => "stream did not contain valid UTF-8"
  | .malformed => "malformed document"
  | .mismatch reason => reason.message
  | .noLevels => "levels must be at least 1"
  | .variableName name => "invalid variable name '" ++ name ++ "'"

end EnvBootstrap.Config
