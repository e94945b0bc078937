import Handheld.Launch

/-! The command line. This build has no sockets: it starts up to the point where they would be
bound and reports that as its failure.
-/

namespace Handheld

namespace CommandLine

/-- What a path holds. What exists but is not read as a file counts as a directory. -/
def fileAt (path : String) : IO File := do
  try
    let content ← IO.FS.readBinFile path
    return .bytes content.toList
  catch failure =>
    match failure with
    | .noFileOrDirectory .. => return .absent
    | _ => return .directory

def written (line : Log.Line) : String :=
  "[" ++ line.level.name ++ " " ++ line.target ++ "] " ++ line.message

/-- Starts the program, shows what it logged and gives its exit code. -/
def run (arguments : List String) : IO UInt32 := do
  let path := (Launch.settingsPath? arguments).getD Launch.defaultPath
  let file ← fileAt path
  let surroundings : Launch.Surroundings := {
    fileAt := fun asked => if asked = path then file else .absent
    bindFailure? := fun _ => some ⟨.unsupported, none⟩
  }
  let (result, lines) := (Launch.start surroundings arguments).run.run []
  for line in lines do
    IO.eprintln (written line)
  match result with
  | .ok _ => return 0
  | .error failure =>
      IO.eprintln ("Error: " ++ failure.message)
      return 1

end CommandLine

end Handheld

def main (arguments : List String) : IO UInt32 := Handheld.CommandLine.run arguments
