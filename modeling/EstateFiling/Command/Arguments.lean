import EstateFiling.Settings.Basic

/-!
# Arguments

The commands and how they are written on a command line.  The first argument
names the command; without one the service is started.  Options have two dashes
and a value, which is the next argument or stands after an equals sign; none may
be given twice.  An argument of two dashes alone ends the options, and nothing may
follow it.
-/

namespace EstateFiling

/-- What to render. -/
structure RenderRequest where
  /-- The kind of document, as it was given. -/
  kind : String
  /-- The file of the case. -/
  caseFile : String
  /-- The file of a schedule to add to the case. -/
  scheduleFile : Option String := none
  /-- The file to write. -/
  outputFile : Option String := none
deriving DecidableEq, Repr

/-- A command. -/
inductive Command where
  /-- Start the service, perhaps on another host and port than the settings say. -/
  | serve (host : Option String) (port : Option UInt16)
  /-- Render a document. -/
  | render (request : RenderRequest)
  /-- List the kinds of documents. -/
  | kinds
deriving DecidableEq, Repr

/-- What a command line asks for. -/
inductive Invocation where
  /-- A command. -/
  | command (c : Command)
  /-- The usage. -/
  | help
  /-- The version. -/
  | version
  /-- Nothing that can be understood. -/
  | misuse
deriving DecidableEq, Repr

/-! ## Options -/

/-- What the options of a command say. -/
inductive Options where
  /-- The values of the options. -/
  | values (given : List (String × String))
  /-- The usage is asked for. -/
  | help
  /-- The options cannot be understood. -/
  | misuse
deriving DecidableEq, Repr

namespace Options

/-- Whether an argument asks for the usage. -/
def asksForHelp (arg : String) : Bool := arg == "--help" || arg == "-h"

/-- The name of an option and the value after an equals sign. -/
def named? (arg : String) : Option (String × Option String) :=
  match arg.toList with
  | '-' :: '-' :: rest =>
      let (name, value) := Text.splitFirst (· == '=') rest
      some (String.ofList name, value.map String.ofList)
  | _ => none

/-- Whether an argument can be the value of the option before it: it has no dash in
front, or is a dash. -/
def isValue (arg : String) : Bool := arg == "-" || arg.toList.head? != some '-'

/-- Reads options with the names that a command has. -/
def read (names : List String) : List (String × String) → List String → Options
  | given, [] => .values given
  | given, arg :: rest =>
      if asksForHelp arg then .help
      else if arg == "--" then if rest.isEmpty then .values given else .misuse
      else
        match named? arg with
        | none => .misuse
        | some (name, value) =>
            if !names.contains name || given.any (fun entry => entry.1 == name) then .misuse
            else
              match value, rest with
              | some v, rest => read names (given ++ [(name, v)]) rest
              | none, v :: rest =>
                  if isValue v then read names (given ++ [(name, v)]) rest else .misuse
              | none, [] => .misuse

/-- The value of an option. -/
def get? (given : List (String × String)) (name : String) : Option String :=
  (given.find? (fun entry => entry.1 == name)).map Prod.snd

end Options

/-! ## Commands -/

namespace Invocation

/-- The invocation that values of options make. -/
def ofOptions (make : List (String × String) → Option Command) : Options → Invocation
  | .help => .help
  | .misuse => .misuse
  | .values given =>
      match make given with
      | some c => .command c
      | none => .misuse

/-- Reads a port; zero may have a minus sign. -/
def port? (raw : String) : Option UInt16 :=
  match raw.toList with
  | '-' :: digits => if Text.natOfDigits? digits == some 0 then some 0 else none
  | _ => word16? raw

/-- The command that starts the service. -/
def serve? (given : List (String × String)) : Option Command :=
  match Options.get? given "port" with
  | none => some (.serve (Options.get? given "host") none)
  | some raw => (port? raw).map (fun port => .serve (Options.get? given "host") (some port))

/-- The command that renders a document; the names of files are not empty. -/
def render? (given : List (String × String)) : Option Command := do
  let kind ← Options.get? given "kind"
  let caseFile ← Options.get? given "case"
  let scheduleFile := Options.get? given "schedule-csv"
  let outputFile := Options.get? given "output"
  if caseFile.isEmpty || scheduleFile.any String.isEmpty || outputFile.any String.isEmpty then none
  else some (.render ⟨kind, caseFile, scheduleFile, outputFile⟩)

/-- The command that lists the kinds. -/
def kinds? (_given : List (String × String)) : Option Command := some .kinds

/-- What the options of a command say, by the name of the command. -/
def ofCommand (name : String) (arguments : List String) : Invocation :=
  match name with
  | "serve" => ofOptions serve? (Options.read ["host", "port"] [] arguments)
  | "render" =>
      ofOptions render? (Options.read ["kind", "case", "schedule-csv", "output"] [] arguments)
  | "kinds" => ofOptions kinds? (Options.read [] [] arguments)
  | "help" =>
      match arguments with
      | [] => .help
      | [topic] =>
          if ["serve", "render", "kinds", "help"].contains topic then .help else .misuse
      | _ => .misuse
  | _ => .misuse

/-- Reads a command line. -/
def ofArguments : List String → Invocation
  | [] | ["--"] => .command (.serve none none)
  | first :: rest =>
      if Options.asksForHelp first then .help
      else if first == "--version" || first == "-V" then .version
      else ofCommand first rest

end Invocation

end EstateFiling
