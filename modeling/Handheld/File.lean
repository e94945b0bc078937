import Handheld.Bytes
import Handheld.IoFailure
import Handheld.Text.Blank

/-! What a path holds, and reading and writing texts there. -/

namespace Handheld

/-- What a path holds. -/
inductive File
  | absent
  | directory
  | bytes (content : Bytes)
  deriving DecidableEq, Inhabited

namespace File

def notFound : IoFailure := ⟨.notFound, some "No such file or directory (os error 2)"⟩

def isDirectory : IoFailure := ⟨.isADirectory, some "Is a directory (os error 21)"⟩

def notText : IoFailure := ⟨.invalidData, some "stream did not contain valid UTF-8"⟩

/-- The text of bytes, if they are well-formed UTF-8. -/
def text? (content : Bytes) : Option String := String.fromUTF8? ⟨content.toArray⟩

def ofText (text : String) : File := bytes text.toUTF8.toList

/-- Reads a whole file as text. -/
def readText : File → Except IoFailure String
  | absent => .error notFound
  | directory => .error isDirectory
  | bytes content =>
      match text? content with
      | some text => .ok text
      | none => .error notText

/-- A file's text without the blanks at its ends, if it holds text. -/
def trimmed? (file : File) : Option String :=
  match file.readText with
  | .ok text => some (String.ofList (Blank.trim text.toList))
  | .error _ => none

/-- Replaces the contents of a file; a directory is in the way. -/
def writeText (text : String) : File → Except IoFailure File
  | directory => .error isDirectory
  | _ => .ok (ofText text)

end File

end Handheld
