import StatementSegments.Dialect

namespace StatementSegments

structure LogSettings where
  level : String := "info"
  dir : String := "logs"
  file : String := "sqlsegment"
  maxFileSize : UInt64 := 104857600
  maxFiles : UInt64 := 5
  toFile : Bool := false
  deriving DecidableEq, Repr

structure ExtractSettings where
  dialect : Dialect := .sqlServer
  deriving DecidableEq, Repr

structure Settings where
  log : LogSettings := {}
  extract : ExtractSettings := {}
  deriving DecidableEq, Repr

end StatementSegments
