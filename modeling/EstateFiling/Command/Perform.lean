import EstateFiling.Case.Import
import EstateFiling.Command.Action
import EstateFiling.Command.Arguments
import EstateFiling.Document.Data
import EstateFiling.Form.Document
import EstateFiling.Json.Printer
import EstateFiling.Settings.EnvironmentFile
import EstateFiling.Settings.LogFilter

/-!
# Performing a command

A command is an action in a workspace: the environment, the file of default values,
and the files that can be read and written.  Its outcome says what was printed, what
was written and what the program exits with.

Rendering looks at these in turn: the kind, the settings, the file of the case, its
data, the schedule, and where the document goes.
-/

namespace EstateFiling

/-- Where a command runs. -/
structure Workspace where
  /-- The environment. -/
  environment : Environment := {}
  /-- The text of the file of default values, if there is one. -/
  environmentFile : Option String := none
  /-- Reads a file. -/
  read : String → Except FileFault (List UInt8)
  /-- Why a file cannot be written, if it cannot. -/
  writeFault : String → Option FileFault

namespace Workspace

/-- The environment with the default values. -/
def fullEnvironment (w : Workspace) : Environment :=
  match w.environmentFile with
  | some text => EnvironmentFile.apply w.environment text
  | none => w.environment

/-- The settings. -/
def settings (w : Workspace) : Except Failure Settings :=
  (Settings.ofEnvironment w.fullEnvironment).mapError Failure.settings

/-- The text of a file. -/
def readText (w : Workspace) (path : String) : Except FileFault String := do
  match Text.ofUtf8? (← w.read path) with
  | some text => .ok text
  | none => .error .notText

end Workspace

/-- Writes a file, if it can be written. -/
def Workspace.write (w : Workspace) (path text : String) : Action Unit :=
  match w.writeFault path with
  | none => Action.perform (.write path text)
  | some fault => throw (.file fault)

/-- What a command does. -/
structure Outcome where
  /-- What the program exits with. -/
  exitCode : Nat := 0
  /-- What is printed. -/
  output : String := ""
  /-- What is printed as an error. -/
  errors : String := ""
  /-- The file that is written and its text. -/
  written : Option (String × String) := none
deriving DecidableEq, Repr

namespace Outcome

/-- The outcome after one more effect.  Of several files the last one is told. -/
def after (o : Outcome) : Effect → Outcome
  | .print text => { o with output := o.output ++ text }
  | .write path text => { o with written := some (path, text) }

/-- The outcome of effects. -/
def ofEffects (done : List Effect) : Outcome := done.foldl after {}

/-- The outcome when a failure follows. -/
def failing (o : Outcome) (f : Failure) : Outcome :=
  { o with exitCode := 1, errors := "application error: " ++ f.message ++ "\n" }

/-- The outcome of a failure before anything is done. -/
def ofFailure (f : Failure) : Outcome := failing {} f

end Outcome

/-! ## Rendering -/

namespace RenderRequest

/-- Reads the case of a request. -/
def bundle (r : RenderRequest) (w : Workspace) : Action CaseBundle := do
  let text ← (w.readText r.caseFile).mapError Failure.file
  match Json.decodeText CaseBundle.decode text with
  | .ok b => return b
  | .error _ => throw .caseData

/-- Reads the schedule lines to add to the case.  A directory has none. -/
def schedule (r : RenderRequest) (w : Workspace) : Action (List ScheduleRecord) :=
  match r.scheduleFile.map w.read with
  | none | some (.error .isDirectory) => return []
  | some (.error fault) => throw (.schedule (.file fault))
  | some (.ok bytes) =>
      liftM ((ScheduleRecord.ofCsv bytes).mapError (fun fault => Failure.schedule (.csv fault)))

/-- Finds the document that a request asks for. -/
def document (r : RenderRequest) (w : Workspace) : Action DocumentContent := do
  let kind ← (DocumentKind.parse r.kind).mapError Failure.unknownKind
  let settings ← w.settings
  let b ← r.bundle w
  let lines ← r.schedule w
  return { b with schedules := b.schedules ++ lines }.document settings.documents kind

/-- Writes a document to the file that is given, or prints it. -/
def deliver (r : RenderRequest) (w : Workspace) (d : DocumentContent) : Action Unit :=
  match r.outputFile with
  | none => Action.perform (.print (d.toJson.pretty ++ "\n"))
  | some path => w.write path d.toJson.pretty

/-- Carries out a request. -/
def run (r : RenderRequest) (w : Workspace) : Action Unit := do
  r.deliver w (← r.document w)

/-- The outcome of a request, or why it fails. -/
def perform (r : RenderRequest) (w : Workspace) : Except Failure Outcome :=
  let (result, done) := (r.run w).execute
  result.map fun _ => .ofEffects done

end RenderRequest

/-! ## Serving -/

/-- The settings with another host and port. -/
def Settings.listeningOn (s : Settings) (host : Option String) (port : Option UInt16) : Settings :=
  { s with host := host.getD s.host, port := port.getD s.port }

/-- Whether there is a log filter that can be understood: the one of the environment
or else the one of the settings. -/
def hasLogFilter (w : Workspace) (settings : Settings) : Bool :=
  (w.fullEnvironment.get? LogFilter.name).any LogFilter.isValid
    || LogFilter.isValid settings.logLevel

/-- Where the service would listen, once the settings and the log filter are
checked. -/
def serveOn (host : Option String) (port : Option UInt16) (w : Workspace) :
    Except Failure String := do
  let settings := (← w.settings).listeningOn host port
  if hasLogFilter w settings then settings.endpoint.mapError Failure.settings
  else .error (.logFilter settings.logLevel)

/-! ## Commands -/

/-- A kind of document in the list of kinds. -/
def DocumentKind.line (k : DocumentKind) : String :=
  k.id ++ Text.repeated ' ' (26 - k.id.length) ++ " " ++ k.label ++ "\n"

/-- The list of kinds. -/
def DocumentKind.list : String := String.join (all.map line)

namespace Command

/-- Carries out a command. -/
def run (w : Workspace) : Command → Action Unit
  | .kinds => Action.perform (.print DocumentKind.list)
  | .render request => request.run w
  | .serve host port => do
      let address ← serveOn host port w
      throw (.server ("no listener for " ++ address))

/-- Whether a command succeeds, or why it fails. -/
def result (w : Workspace) (c : Command) : Except Failure Unit := (c.run w).execute.1

/-- What a command does, in order. -/
def effects (w : Workspace) (c : Command) : List Effect := (c.run w).execute.2

/-- The outcome of a command. -/
def perform (c : Command) (w : Workspace) : Outcome :=
  match c.result w with
  | .ok () => .ofEffects (c.effects w)
  | .error f => (Outcome.ofEffects (c.effects w)).failing f

end Command

/-- The name and the version of the program. -/
def programVersion : String := "Probate Document Compiler 0.1.0\n"

/-- The usage of the program. -/
def usage : String :=
  "Render British Columbia probate forms and letters from estate case records\n\n"
    ++ "Commands:\n"
    ++ "  serve   [--host HOST] [--port PORT]\n"
    ++ "  render  --kind KIND --case FILE [--schedule-csv FILE] [--output FILE]\n"
    ++ "  kinds\n"

/-- What a command line does. -/
def Invocation.perform (i : Invocation) (w : Workspace) : Outcome :=
  match i with
  | .command c => c.perform w
  | .help => { output := usage }
  | .version => { output := programVersion }
  | .misuse => { exitCode := 2, errors := usage }

/-- The files that a command line reads. -/
def Invocation.files : Invocation → List String
  | .command (.render r) => r.caseFile :: r.scheduleFile.toList
  | _ => []

end EstateFiling
