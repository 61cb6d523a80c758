import StatementSegments.Settings.Basic
import StatementSegments.Toml.Writer

namespace StatementSegments.Settings

open Toml

def logSection (s : LogSettings) : Section where
  name := "log"
  entries := [("level", .string s.level), ("dir", .string s.dir), ("file", .string s.file),
    ("max_file_size", .natural s.maxFileSize.toNat), ("max_files", .natural s.maxFiles.toNat),
    ("to_file", .boolean s.toFile)]

def extractSection (s : ExtractSettings) : Section where
  name := "extract"
  entries := [("database_type", .string s.dialect.key)]

def sections (s : Settings) : List Section :=
  [logSection s.log, extractSection s.extract]

def toDocument (s : Settings) : String :=
  String.ofList (writeSections s.sections)

end StatementSegments.Settings
