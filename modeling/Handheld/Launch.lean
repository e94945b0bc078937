import Handheld.Device.Source
import Handheld.Log.Line
import Handheld.Settings.Storage
import Handheld.Toml.Format

/-! Starting the program: its arguments, its settings, what it logs on the way, and what can
stop it before its sockets are bound.
-/

namespace Handheld

namespace Launch

def version : String := "0.3.0"

/-- The settings file that is read when no other is named and it exists. -/
def defaultPath : String := "/etc/padstream.toml"

-----------------------------------------------------------------------------------------
-- Arguments
-----------------------------------------------------------------------------------------

/-- The argument behind the first flag that has one. -/
def flagged? : List String → Option String
  | flag :: path :: rest =>
      if flag = "--config" ∨ flag = "-c" then some path else flagged? (path :: rest)
  | _ => none

/-- The settings file that the arguments name: by a flag anywhere, or else as the first
argument, unless that begins with a dash.
-/
def settingsPath? (arguments : List String) : Option String :=
  match flagged? arguments with
  | some path => some path
  | none => arguments.head?.filter fun first => !first.startsWith "-"

-----------------------------------------------------------------------------------------
-- Start
-----------------------------------------------------------------------------------------

/-- What a start finds outside. -/
structure Surroundings where
  fileAt : String → File
  /-- Why the sockets cannot be bound to an address, if they cannot. -/
  bindFailure? : SocketAddress → Option IoFailure

/-- A program that is ready to serve. -/
structure Ready where
  settings : Settings
  frames : FrameSource
  readings : ReadingSource
  deriving DecidableEq

/-- A start under way: it may fail, and it leaves the lines that it logged either way. -/
abbrev Starting := ExceptT Failure (StateM (List Log.Line))

/-- The settings, and where they are from. A file that is named must load; without one the
default file may be missing.
-/
def chooseSettings (arguments : List String) (fileAt : String → File)
    : Except Failure (Settings × String) :=
  let loadFrom (path : String) := (Settings.load Toml.format (fileAt path)).map fun settings =>
    (settings, path)
  match settingsPath? arguments with
  | some path => loadFrom path
  | none =>
      if fileAt defaultPath = .absent then .ok ({}, "built-in defaults")
      else loadFrom defaultPath

/-- Logs a line, if the filter lets it pass. -/
def inform (filter : Log.Filter) (target message : String) : Starting Unit :=
  let line : Log.Line := ⟨.info, target, message⟩
  if filter.passes line then modify (· ++ [line]) else pure ()

/-- The targets of the lines of a start. -/
def programTarget : String := "padstream"

def simulationTarget : String := "padstream::devices::mock"

/-- Opens the source of frames. -/
def openFrames (filter : Log.Filter) (settings : Settings) : Starting FrameSource := do
  let source ← settings.frameSource
  match source with
  | .simulated seed =>
      inform filter simulationTarget ("Mock input device (seed " ++ toString seed ++ ")")
  return source

/-- Starts the program. -/
def start (surroundings : Surroundings) (arguments : List String) : Starting Ready := do
  let (settings, origin) ← chooseSettings arguments surroundings.fileAt
  let filter := Log.Filter.ofText settings.logging.level
  inform filter programTarget ("padstream v" ++ version ++ " starting...")
  inform filter programTarget ("Using config: " ++ origin)
  inform filter programTarget
    ("Input: " ++ settings.input.source ++ ", status: " ++ settings.status.source)
  let frames ← openFrames filter settings
  let readings ← settings.readingSource
  let address := settings.network.controlAddress
  match surroundings.bindFailure? address with
  | some failure => throw (.bind address.render failure)
  | none => return { settings, frames, readings }

end Launch

end Handheld
