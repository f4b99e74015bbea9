import ColumnLog.FileTree
import ColumnLog.Pool
import ColumnLog.Text.Blank
import ColumnLog.Toml.Document

/-!
# Configuration

What can be set from outside is the pool that columns take their bytes from: its name and its
capacity.

* `Config.parse` reads a configuration from TOML text and checks it, `Config.write` writes it as
  TOML text unchecked.
* `Config.load`, `Config.save` and `Config.saveDefault` do so with a file.
* `Config.install` makes the pool the default one, once.
-/

set_option autoImplicit false

namespace ColumnLog

/-- What is wrong with the values of a configuration. -/
inductive Config.Flaw where
  | emptyName
  | zeroCapacity
  deriving DecidableEq, Repr

/-- The words for a flaw. -/
def Config.Flaw.message : Config.Flaw → String
  | emptyName => "pool.name must not be empty"
  | zeroCapacity => "pool.capacity_bytes must be > 0 when set"

/-- Why a configuration cannot be read, written or put to use. -/
inductive ConfigError where
  | io (path : String) (fault : FileTree.Fault)
  /-- The text is no TOML, or a value in it has the wrong type; the file is named if there is
  one. -/
  | parse (path : Option String)
  | invalid (flaw : Config.Flaw)
  /-- TOML cannot express a value. -/
  | serialize
  | poolAlreadyInstalled
  deriving DecidableEq, Repr

namespace ConfigError

/-- The name of the kind of error. -/
def name : ConfigError → String
  | io .. => "Io"
  | parse _ => "Parse"
  | invalid _ => "Invalid"
  | serialize => "Serialize"
  | poolAlreadyInstalled => "PoolAlreadyInstalled"

/-- The words for the error, where they do not depend on the details of TOML. -/
def message? : ConfigError → Option String
  | io path fault => some s!"Failed to access config file '{path}': {fault.message}"
  | invalid flaw => some s!"Invalid config: {flaw.message}"
  | poolAlreadyInstalled => some "Default memory pool already initialized"
  | parse _ | serialize => none

end ConfigError

/-- The settings of the pool. -/
structure Config where
  name : String := Pool.defaultName
  /-- The most bytes that may be held at once; no limit if absent. -/
  capacity : Option Nat := none
  deriving DecidableEq, Repr

namespace Config

/-- The usual name of the file. -/
def fileName : String := "stratalog.toml"

/-- The text of a file with the default settings, and what can be set. -/
def defaultText : String :=
  "# StrataLog serializer configuration\n\n[pool]\n# Name reported in allocation errors.\n" ++
    "name = \"default\"\n\n# Upper bound on bytes held by in-flight array builders.\n" ++
    "# Leave commented out for an unbounded pool.\n# capacity_bytes = 268435456\n"

/-- The pool with these settings. -/
def pool (config : Config) : Pool := { name := config.name, capacity := config.capacity }

/-- Checks that the name is not blank, and then that the capacity is not zero. -/
def validate (config : Config) : Except ConfigError Unit :=
  if Text.isAllBlank config.name then .error (.invalid .emptyName)
  else if config.capacity = some 0 then .error (.invalid .zeroCapacity)
  else .ok ()

/-- The configuration, if its values are in order. -/
def checked (config : Config) : Except ConfigError Config := config.validate.map fun () => config

/-! ## Reading -/

/-- The text that a value is. -/
def text? : Toml.Value → Option String
  | .text content => some content
  | _ => none

/-- The number of bytes that a value is. -/
def bytes? : Toml.Value → Option Nat
  | .integer n => if 0 ≤ n then some n.toNat else none
  | _ => none

/-- The settings from the values of the name and of the capacity. -/
def ofFields (name capacity : Option Toml.Value) : Option Config :=
  match name.mapM text?, capacity.mapM bytes? with
  | some name, some capacity => some { name := name.getD Pool.defaultName, capacity }
  | _, _ => none

/-- The settings from the value of the section: a table, or the settings in a row.  A moment is a
section without any of them. -/
def ofSection : Toml.Value → Option Config
  | .table _ entries => ofFields (entries.lookup "name") (entries.lookup "capacity_bytes")
  | .array items => ofFields items[0]? items[1]?
  | .moment => some {}
  | _ => none

/-- The settings in a document; other keys do not matter. -/
def ofDocument (entries : Toml.Entries) : Option Config :=
  match entries.lookup "pool" with
  | some value => ofSection value
  | none => some {}

/-- Reads and checks a configuration. -/
def parse (text : String) : Except ConfigError Config :=
  match (Toml.parse text).bind ofDocument with
  | some config => config.checked
  | none => .error (.parse none)

/-! ## Writing -/

/-- The line for the capacity. -/
def capacityLine : Option Nat → String
  | some capacity => s!"capacity_bytes = {capacity}\n"
  | none => ""

/-- Writes a configuration as TOML text; a capacity has to be an integer of TOML. -/
def write (config : Config) : Except ConfigError String :=
  if config.capacity.any (Toml.largestInteger < ·) then .error .serialize
  else .ok s!"[pool]\nname = {Toml.quote config.name}\n{capacityLine config.capacity}"

/-! ## Files -/

/-- Names the file in an error of its text. -/
def inFile (path : String) : ConfigError → ConfigError
  | .parse _ => .parse (some path)
  | e => e

/-- Reads and checks the configuration in a file. -/
def load (root : FileTree) (path : String) : Except ConfigError Config := do
  let text ← (root.read path).mapError (.io path)
  (parse text).mapError (inFile path)

/-- Writes the configuration to a file, once its text is there. -/
def save (config : Config) (root : FileTree) (path : String) : FileTree.Attempt ConfigError :=
  match config.write with
  | .ok text => (root.write path (.text text)).mapError (.io path)
  | .error e => .error e root

/-- Writes the default settings to a file, unless there is something at the path already. -/
def saveDefault (root : FileTree) (path : String) : FileTree.Attempt ConfigError :=
  if root.holds path then .ok () root
  else (root.write path (.text defaultText)).mapError (.io path)

/-! ## The default pool -/

/-- The default pool after this one is installed.  There is only one, from its first use on. -/
def install (config : Config) : Option Pool → Except ConfigError Pool
  | none => .ok config.pool
  | some _ => .error .poolAlreadyInstalled

end Config
end ColumnLog
