import EstateFiling.Csv.Table
import EstateFiling.Document.Kind
import EstateFiling.Settings.Basic

/-!
# Failures

What can go wrong between a request and its document, with a wording and a status
for each.  What the caller did wrong has a status below 500.
-/

namespace EstateFiling

/-- Why a file cannot be read or written. -/
inductive FileFault where
  /-- There is no such file or directory. -/
  | missing
  /-- A file stands where a directory is needed. -/
  | notDirectory
  /-- A directory stands where a file is needed. -/
  | isDirectory
  /-- A name or the whole path is too long. -/
  | nameTooLong
  /-- The file does not hold text. -/
  | notText
  /-- Another reason, as the system words it. -/
  | other (reason : String)
deriving DecidableEq, Repr

/-- The wording of a file's fault. -/
def FileFault.message : FileFault → String
  | .missing => "No such file or directory (os error 2)"
  | .notDirectory => "Not a directory (os error 20)"
  | .isDirectory => "Is a directory (os error 21)"
  | .nameTooLong => "File name too long (os error 36)"
  | .notText => "stream did not contain valid UTF-8"
  | .other reason => reason

/-- Why a schedule file cannot be imported. -/
inductive ImportFault where
  /-- The file cannot be read. -/
  | file (fault : FileFault)
  /-- The file is not a schedule. -/
  | csv (fault : Csv.Fault)
deriving DecidableEq, Repr

/-- The wording of an import's fault. -/
def ImportFault.message : ImportFault → String
  | .file fault => "failed to read asset schedule: " ++ fault.message
  | .csv fault => "invalid asset schedule CSV data: " ++ fault.message

/-- Why a command or a request fails. -/
inductive Failure where
  /-- The settings are wrong. -/
  | settings (fault : SettingsFault)
  /-- The log filter cannot be understood. -/
  | logFilter (filter : String)
  /-- A file cannot be read or written. -/
  | file (fault : FileFault)
  /-- The service cannot be started. -/
  | server (reason : String)
  /-- There is no such kind of document. -/
  | unknownKind (kind : UnknownDocumentKind)
  /-- The schedule cannot be imported. -/
  | schedule (fault : ImportFault)
  /-- The case is not valid data. -/
  | caseData
deriving DecidableEq, Repr

namespace Failure

/-- The wording of a log filter's fault. -/
def logFilterMessage (filter : String) : String :=
  "invalid log filter '" ++ filter ++ "': unable to build EnvFilter"

/-- The wording of a failure. -/
def message : Failure → String
  | .settings fault => "configuration error: " ++ fault.message
  | .logFilter filter => "telemetry error: " ++ logFilterMessage filter
  | .file fault => "io error: " ++ fault.message
  | .server reason => "server error: " ++ reason
  | .unknownKind kind => "dispatch error: " ++ kind.message
  | .schedule fault => "schedule import error: " ++ fault.message
  | .caseData => "invalid case data: the text is not a case bundle"

/-- The status of a failure. -/
def status : Failure → Nat
  | .unknownKind _ => 404
  | .schedule _ | .caseData => 400
  | .settings _ | .logFilter _ | .file _ | .server _ => 500

end Failure

end EstateFiling
