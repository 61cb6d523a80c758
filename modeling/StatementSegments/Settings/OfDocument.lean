import StatementSegments.Settings.Basic
import StatementSegments.Toml.Reader

namespace StatementSegments

open Toml

/-- Where the settings of a group are looked up: by key, or by position. -/
inductive Fields where
  | named (entries : Entries)
  | listed (items : List Value)

namespace Fields

/-- A date has no settings, and neither is it refused. -/
def ofValue? : Value → Option Fields
  | .table _ entries => some (named entries)
  | .array items => some (listed items)
  | .tables items => some (listed (items.map (.table .header)))
  | .dateTime _ => some (named [])
  | _ => none

def get? (fields : Fields) (position : Nat) (key : String) : Option Value :=
  match fields with
  | named entries => entries.lookup key
  | listed items => items[position]?

/-- A setting, or its default if it is missing. -/
def read {α : Type} (fields : Fields) (position : Nat) (key : String) (default : α)
    (decode : Value → Option α) : Option α :=
  match fields.get? position key with
  | some v => decode v
  | none => some default

/-- What has an unknown key is looked at all the same. -/
def unknownUsable (fields : Fields) (known : List String) : Bool :=
  match fields with
  | named entries => entries.all fun entry => known.contains entry.1 || entry.2.isUsable
  | listed _ => true

end Fields

namespace Decode

def string? : Value → Option String
  | .string text => some text
  | _ => none

def boolean? : Value → Option Bool
  | .boolean b => some b
  | _ => none

def number? : Value → Option UInt64
  | .integer n => if 0 ≤ n ∧ n < UInt64.size then some (UInt64.ofNat n.toNat) else none
  | _ => none

/-- A dialect is named by a string, or by the only key of a table with an empty value. -/
def dialect? : Value → Option Dialect
  | .string key => Dialect.ofKey? key
  | .table _ [(key, .array [])] => Dialect.ofKey? key
  | .table _ [(key, .table _ [])] => Dialect.ofKey? key
  | _ => none

def logSettings (fields : Fields) : Option LogSettings := do
  let level ← fields.read 0 "level" ({} : LogSettings).level string?
  let dir ← fields.read 1 "dir" ({} : LogSettings).dir string?
  let file ← fields.read 2 "file" ({} : LogSettings).file string?
  let maxFileSize ← fields.read 3 "max_file_size" ({} : LogSettings).maxFileSize number?
  let maxFiles ← fields.read 4 "max_files" ({} : LogSettings).maxFiles number?
  let toFile ← fields.read 5 "to_file" ({} : LogSettings).toFile boolean?
  guard (fields.unknownUsable
    ["level", "dir", "file", "max_file_size", "max_files", "to_file"])
  return { level, dir, file, maxFileSize, maxFiles, toFile }

def extractSettings (fields : Fields) : Option ExtractSettings := do
  let dialect ← fields.read 0 "database_type" ({} : ExtractSettings).dialect dialect?
  guard (fields.unknownUsable ["database_type"])
  return { dialect }

def settings (fields : Fields) : Option Settings := do
  let log ← fields.read 0 "log" {} fun v => (Fields.ofValue? v).bind logSettings
  let extract ← fields.read 1 "extract" {} fun v => (Fields.ofValue? v).bind extractSettings
  guard (fields.unknownUsable ["log", "extract"])
  return { log, extract }

end Decode

namespace Settings

def ofDocument? (document : String) : Option Settings :=
  (readDocument document.toList).bind fun entries => Decode.settings (.named entries)

end Settings

end StatementSegments
