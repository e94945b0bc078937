import Handheld.Failure
import Handheld.File
import Handheld.Settings.Document

/-! Loading and saving settings, in any format of documents. Loading checks them, saving does
not, and nothing is written when the format refuses their document.
-/

namespace Handheld

namespace Settings

/-- Refuses settings that break a rule. -/
def validate (settings : Settings) : Except Failure Settings :=
  match settings.brokenRule? with
  | some rule => .error (.invalidSettings rule)
  | none => .ok settings

/-- The checked settings in a document. -/
def ofDocumentChecked (document : Document) : Except Failure Settings :=
  match ofDocument document with
  | .error misfit => .error (.unreadableSettings misfit.message)
  | .ok settings => settings.validate

/-- Loads settings from a file. -/
def load (format : Document.Format) (file : File) : Except Failure Settings :=
  match file.readText with
  | .error failure => .error (.io failure)
  | .ok text =>
      match format.parse text with
      | .error reason => .error (.unreadableSettings reason)
      | .ok document => ofDocumentChecked document

/-- Saves settings to a file, which keeps its contents when that fails. -/
def save (format : Document.Format) (settings : Settings) (file : File)
    : Except Failure Unit × File :=
  match format.print settings.toDocument with
  | .error reason => (.error (.unwritableSettings reason), file)
  | .ok text =>
      match file.writeText text with
      | .error failure => (.error (.io failure), file)
      | .ok written => (.ok (), written)

end Settings

end Handheld
