import StatementSegments.Settings.OfDocument

namespace StatementSegments

/-- Why a file has no text: its bytes cannot be read, or they are no text. -/
inductive FileError where
  | unreadable (reason : String)
  | notUtf8
  deriving DecidableEq, Repr

inductive SettingsError where
  | file (reason : FileError)
  | document
  deriving DecidableEq, Repr

def FileError.message : FileError → String
  | unreadable reason => s!"IO error: {reason}"
  | notUtf8 => "IO error: stream did not contain valid UTF-8"

namespace Settings

def parse (document : String) : Except SettingsError Settings :=
  match ofDocument? document with
  | some s => .ok s
  | none => .error .document

def ofBytes (content : ByteArray) : Except SettingsError Settings :=
  match String.fromUTF8? content with
  | some document => parse document
  | none => .error (.file .notUtf8)

/-- The settings of a file, of which the system gives the bytes or the reason why it cannot. -/
def ofFile (file : Except String ByteArray) : Except SettingsError Settings := do
  let content ← file.mapError fun reason => .file (.unreadable reason)
  ofBytes content

end Settings

end StatementSegments
