/-
  ClockDiscipline.Error — the fatal conditions of the daemon.

  Transient conditions, an interrupted wait or a sample that is not there yet, are never
  one of these: the loop retries them in place. Everything here ends the process with a
  failure.
-/

import ClockDiscipline.IoError
import ClockDiscipline.Text.Quoted

namespace ClockDiscipline

inductive Error where
  /-- Called with anything but one argument. -/
  | usage (program : String)
  /-- The settings file could not be read. -/
  | configRead (path : String) (cause : IoError)
  /-- A key without a sensible default is not there. -/
  | missingKey (key path : String)
  | invalidValue (key value : String)
  /-- No part of this kind goes by this name. -/
  | unsupported (kind name : String)
  /-- No edge came within the longest wait, although a watchdog resets a silent device well before. -/
  | ppsTimeout
  /-- An operation failed in the system. -/
  | io (operation : String) (cause : IoError)
  /-- A collaborator reported a failure of an operation. -/
  | driver (operation reason : String)
  /-- A collaborator had nothing to give for an operation. -/
  | outOfMemory (operation : String)
  deriving DecidableEq, Repr, Inhabited

def Error.message : Error → String
  | .usage program => "usage: " ++ program ++ " config_file_path"
  | .configRead path cause => "config_init(" ++ Text.quoted path ++ "): " ++ cause.message
  | .missingKey key path => key ++ " not defined in config " ++ Text.quoted path
  | .invalidValue key value => "invalid value " ++ Text.quoted value ++ " for " ++ key
  | .unsupported kind name => "unsupported " ++ kind ++ " " ++ Text.quoted name
  | .ppsTimeout => "Timeout waiting for a PPS event, shouldn't happen!"
  | .io operation cause => operation ++ ": " ++ cause.message
  | .driver operation reason => operation ++ ": " ++ reason
  | .outOfMemory operation => operation ++ ": out of memory"

end ClockDiscipline
