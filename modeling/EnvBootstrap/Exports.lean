import EnvBootstrap.Entries
import EnvBootstrap.Shell.Statement

/-!
# Exported variables

The variables that a run publishes, in the order in which they were first set.  Values are kept
byte for byte; only the rendered script replaces what is no text.
-/

namespace EnvBootstrap

/-- Values by name, with no name twice. -/
@[ext]
structure Exports where
  entries : Entries String Bytes
  distinct : entries.keys.Nodup
  deriving DecidableEq

namespace Exports

def empty : Exports := ⟨[], .nil⟩

def set (exports : Exports) (name : String) (value : Bytes) : Exports :=
  ⟨exports.entries.set name value, Entries.nodup_keys_set name value exports.distinct⟩

def get? (exports : Exports) (name : String) : Option Bytes := exports.entries.lookup name

def size (exports : Exports) : Nat := exports.entries.length

def isEmpty (exports : Exports) : Bool := exports.entries.isEmpty

/-- The names in the order in which they were first set. -/
def names (exports : Exports) : List String := exports.entries.keys

theorem get?_set (exports : Exports) (name other : String) (value : Bytes) :
    (exports.set name value).get? other =
      if other = name then some value else exports.get? other :=
  Entries.lookup_set exports.entries name other value

theorem names_set (exports : Exports) (name : String) (value : Bytes) :
    (exports.set name value).names =
      if name ∈ exports.names then exports.names else exports.names ++ [name] :=
  Entries.keys_set exports.entries name value

theorem set_set (exports : Exports) (name : String) (first second : Bytes) :
    (exports.set name first).set name second = exports.set name second :=
  Exports.ext (Entries.set_set exports.entries name first second)

theorem size_eq_length_names (exports : Exports) : exports.size = exports.names.length := by
  simp [size, names, Entries.keys]

def ofList (entries : List (String × Bytes)) : Exports :=
  entries.foldl (fun exports entry => exports.set entry.1 entry.2) empty

def render (exports : Exports) (shell : Shell) : String :=
  String.join (exports.entries.map fun entry => shell.statement entry.1 entry.2)

end Exports

end EnvBootstrap
