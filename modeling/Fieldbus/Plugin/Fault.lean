import Fieldbus.Bytes

/-!
# Faults of plugins

* `RegisterFault`: why a plugin offers nothing that can be used.
* `PluginError`: why a plugin cannot be loaded, or failed in use.
-/

namespace Fieldbus

/-- The way a payload goes. -/
inductive Direction where
  /-- From the bus to those that are outside. -/
  | north
  /-- From outside to the bus. -/
  | south
  deriving DecidableEq, Repr, Inhabited

/-- The name of a direction. -/
def Direction.label : Direction → String
  | north => "north"
  | south => "south"

/-- The name under which a plugin registers the function for a direction. -/
def Direction.field (d : Direction) : String :=
  d.label ++ "_transform"

/-- The function by which every plugin registers itself. -/
def entryName : String := "register_plugin"

/-- Why a plugin offers nothing that can be used. -/
inductive RegisterFault where
  /-- A script does not define the entry function. -/
  | noEntry
  /-- The entry function of a script gave something that is no table. -/
  | noTable (type : String)
  /-- What a script registered for a direction is no function. -/
  | noFunction (direction : Direction) (type : String)
  | noFunctions
  /-- The entry function of a library reported a failure. -/
  | status (code : Int)
  | noCallbacks
  deriving DecidableEq, Repr

/-- The wording of a fault. -/
def RegisterFault.message : RegisterFault → String
  | noEntry => "\x60" ++ entryName ++ "\x60 is not defined"
  | noTable type => "\x60" ++ entryName ++ "\x60 returned " ++ type ++ " instead of a table"
  | noFunction d type => "\x60" ++ d.field ++ "\x60 is a " ++ type ++ ", not a function"
  | noFunctions => "no transform functions registered"
  | status code => entryName ++ " returned " ++ toString code
  | noCallbacks => "no transform callbacks registered"

/-- Why the file of a plugin cannot be read. -/
inductive ReadFault where
  | missing
  | directory
  | device
  deriving DecidableEq, Repr

/-- The wording of a read fault. -/
def ReadFault.message : ReadFault → String
  | missing => "No such file or directory (os error 2)"
  | directory => "Is a directory (os error 21)"
  | device => "Input/output error (os error 5)"

/-- Why a plugin cannot be loaded, or failed in use. -/
inductive PluginError where
  /-- The file cannot be read. -/
  | io (path : String) (cause : ReadFault)
  /-- The file is of a kind that is not accepted. -/
  | unsupported (path : String)
  /-- A library cannot be loaded. -/
  | load (path : String)
  /-- A library does not have the entry function. -/
  | missingSymbol (path : String)
  /-- The plugin offers nothing that can be used. -/
  | register (path : String) (cause : RegisterFault)
  /-- A script raised an error. -/
  | script
  deriving DecidableEq, Repr

/-- The wording of an error, as far as it is this program's own. -/
def PluginError.message? : PluginError → Option String
  | io path cause => some ("failed to read plugin " ++ path ++ ": " ++ cause.message)
  | unsupported path =>
    some ("unsupported plugin " ++ path ++ ": precompiled Lua chunks are not accepted")
  | load _ => none
  | missingSymbol path => some ("plugin " ++ path ++ " does not export \x60" ++ entryName ++ "\x60")
  | register path cause => some ("plugin " ++ path ++ " failed to register: " ++ cause.message)
  | script => none

end Fieldbus
