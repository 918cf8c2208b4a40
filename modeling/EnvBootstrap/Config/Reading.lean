import EnvBootstrap.Config.Basic
import EnvBootstrap.Config.Fault
import EnvBootstrap.Toml.Document

/-!
# Reading a configuration

From the text of a configuration file to settings.  A text that is no document is refused first;
then the values are read in the order of their keys, and the first that does not fit is the fault;
then the settings themselves are checked, `levels` before the name of the variable.
-/

namespace EnvBootstrap.Config

open Toml (Value Table)

/-- Two to the power 63: integers of 64 bits with a sign lie below it. -/
abbrev signed64 : Int := 9223372036854775808

abbrev unsigned64 : Int := 18446744073709551616

abbrev signed128 : Int := 170141183460469231731687303715884105728

abbrev unsigned128 : Int := 340282366920938463463374607431768211456

def found : Value → Except Mismatch Found
  | .text value => .ok (.text value)
  | .integer none => .error .integerTooLarge
  | .integer (some n) =>
    if -signed64 ≤ n ∧ n < unsigned64 then .ok (.integer n)
    else if -signed128 ≤ n ∧ n < signed128 then .ok (.wideInteger n true)
    else if 0 ≤ n ∧ n < unsigned128 then .ok (.wideInteger n false)
    else .error .integerTooLarge
  | .float none => .error .floatTooLarge
  | .float (some x) => .ok (.float x.text)
  | .boolean value => .ok (.boolean value)
  | .moment => .ok .map
  | .array _ => .ok .sequence
  | .table _ => .ok .map

def wrongKind (wanted : String) (value : Value) : Mismatch :=
  match found value with
  | .ok found => .wrongType found wanted
  | .error mismatch => mismatch

def readCount : Value → Except Mismatch Nat
  | .integer (some n) =>
    if 0 ≤ n ∧ n < unsigned64 then .ok n.toNat
    else if -signed64 ≤ n ∧ n < 0 then .error (.wrongValue (.integer n) "usize")
    else .error (wrongKind "usize" (.integer (some n)))
  | value => .error (wrongKind "usize" value)

def readPath : Value → Except Mismatch Path
  | .text value => .ok (.ofString value)
  | value => .error (wrongKind "path string" value)

def readText : Value → Except Mismatch String
  | .text value => .ok value
  | value => .error (wrongKind "a string" value)

def shellNamed (name : String) : Except Mismatch Shell :=
  match Shell.ofName? name with
  | some shell => .ok shell
  | none => .error (.unknownVariant name (Shell.all.map Shell.name))

/-- The value behind the name of a shell that is written as a key holds nothing. -/
def readNothing : Value → Except Mismatch Unit
  | .table entries => if entries.isEmpty then .ok () else .error .tableNotEmpty
  | .array items => if items.isEmpty then .ok () else .error .arrayNotEmpty
  | .text _ => .error (.notEmptyKind "string")
  | .integer _ => .error (.notEmptyKind "integer")
  | .float _ => .error (.notEmptyKind "float")
  | .boolean _ => .error (.notEmptyKind "boolean")
  | .moment => .error (.notEmptyKind "datetime")

/-- A shell by its name, or by a table whose only key is its name. -/
def readShell : Value → Except Mismatch Shell
  | .text name => shellNamed name
  | .table [] => .error .noKey
  | .table [(name, value)] => do
    let shell ← shellNamed name
    readNothing value
    return shell
  | .table _ => .error .manyKeys
  | _ => .error .noVariant

/-- A group of settings: its name in messages, its fields in order, and how a field is set. -/
structure Group (σ : Type) where
  title : String
  fields : List String
  set : String → Value → σ → Except Mismatch σ

/-- The key under which a moment would be a table. -/
def momentKey : String := "$__toml_private_datetime"

def sorted (table : Table) : Table := table.mergeSort fun a b => a.1 ≤ b.1

def Group.readTable {σ : Type} (group : Group σ) (initial : σ) (table : Table) :
    Except Mismatch σ :=
  (sorted table).foldlM (fun settings entry =>
    if entry.1 ∈ group.fields then group.set entry.1 entry.2 settings
    else .error (.unknownField entry.1 group.fields)) initial

/-- Settings from a value: a table, or an array with the fields in order.  Missing fields keep
their initial value, and what an array holds past the last field is not looked at. -/
def Group.read {σ : Type} (group : Group σ) (initial : σ) : Value → Except Mismatch σ
  | .table entries => group.readTable initial entries
  | .array items =>
    (group.fields.zip items).foldlM
      (fun settings entry => group.set entry.1 entry.2 settings) initial
  | .moment => .error (.unknownField momentKey group.fields)
  | value => .error (wrongKind group.title value)

def layoutGroup : Group LayoutSettings where
  title := "struct LayoutConfig"
  fields := ["levels", "environment", "variable"]
  set field value settings :=
    if field = "levels" then do return { settings with levels := ← readCount value }
    else if field = "environment" then do return { settings with environment := ← readPath value }
    else do return { settings with variableName := ← readText value }

def condaGroup : Group CondaSettings where
  title := "struct CondaConfig"
  fields := ["executable", "shell"]
  set field value settings :=
    if field = "executable" then do return { settings with executable := some (← readPath value) }
    else do return { settings with shell := ← readShell value }

def rootGroup : Group Config where
  title := "struct Config"
  fields := ["layout", "conda"]
  set field value config :=
    if field = "layout" then do return { config with layout := ← layoutGroup.read {} value }
    else do return { config with conda := ← condaGroup.read {} value }

def ofTable (table : Table) : Except Mismatch Config := rootGroup.readTable {} table

def checked (config : Config) : Except Fault Config :=
  if config.layout.levels = 0 then .error .noLevels
  else if !isVariableName config.layout.variableName then
    .error (.variableName config.layout.variableName)
  else .ok config

def read (source : String) : Except Fault Config :=
  match Toml.read? source.toList with
  | none => .error .malformed
  | some table =>
    match ofTable table with
    | .error mismatch => .error (.mismatch mismatch)
    | .ok config => checked config

end EnvBootstrap.Config
