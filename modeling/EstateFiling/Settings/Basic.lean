import EstateFiling.Document.Settings
import EstateFiling.Settings.Address
import EstateFiling.Settings.Environment

/-!
# Settings

Where the service listens, how much it logs and how documents look, read from the
environment.  Every value has a default.  A port is checked before a font size;
a host is checked only when an address is asked for.
-/

namespace EstateFiling

/-- What the program is run for. -/
inductive Stage where
  /-- Writing the program. -/
  | development
  /-- Testing it. -/
  | test
  /-- Using it. -/
  | production
deriving DecidableEq, Repr

namespace Stage

/-- The name of a stage. -/
def name : Stage → String
  | .development => "Development"
  | .test => "Test"
  | .production => "Production"

/-- Reads a stage; any other word is the first stage. -/
def parse (raw : String) : Stage :=
  match Text.lower (Text.trim raw) with
  | "prod" | "production" => .production
  | "test" | "ci" => .test
  | _ => .development

end Stage

/-- What is wrong with the settings. -/
inductive SettingsFault where
  /-- The port is not a 16-bit number. -/
  | invalidPort
  /-- The host is not an address. -/
  | invalidHost
  /-- The font size is not a number or out of range. -/
  | invalidFontSize (raw : String)
deriving DecidableEq, Repr

/-- The smallest font size in points. -/
def smallestFont : Nat := 8

/-- The largest font size in points. -/
def largestFont : Nat := 20

/-- The wording of a fault. -/
def SettingsFault.message : SettingsFault → String
  | .invalidPort => "APP_PORT must be a valid u16"
  | .invalidHost => "APP_HOST must parse to an IPv4 or IPv6 address"
  | .invalidFontSize raw =>
      "DOCS_FONT_SIZE must be a whole point size between " ++ toString smallestFont ++ " and "
        ++ toString largestFont ++ " (found '" ++ raw ++ "')"

/-- The settings of the program. -/
structure Settings where
  /-- What the program is run for. -/
  stage : Stage
  /-- The host that the service listens on. -/
  host : String
  /-- The port that the service listens on. -/
  port : UInt16
  /-- The filter for what is logged. -/
  logLevel : String
  /-- How documents look. -/
  documents : DocumentSettings
deriving DecidableEq, Repr

/-- A 16-bit number, which may have a plus sign. -/
def word16? (s : String) : Option UInt16 := (Text.boundedNat? 65536 s.toList).map UInt16.ofNat

namespace DocumentSettings

/-- Reads a font size. -/
def fontSize (raw : String) : Except SettingsFault UInt16 :=
  match word16? (Text.trim raw) with
  | some size =>
      if smallestFont ≤ size.toNat ∧ size.toNat ≤ largestFont then .ok size
      else .error (.invalidFontSize raw)
  | none => .error (.invalidFontSize raw)

/-- The settings for documents in an environment. -/
def ofEnvironment (e : Environment) : Except SettingsFault DocumentSettings := do
  let standard : DocumentSettings := {}
  let size ← match e.get? "DOCS_FONT_SIZE" with
    | some raw => fontSize raw
    | none => .ok standard.fontSizePoints
  .ok
    { fontFamily := (((e.get? "DOCS_FONT_FAMILY").map Text.trim).filter
        (fun family => !family.isEmpty)).getD standard.fontFamily
      fontSizePoints := size
      defaultRegistry :=
        ((e.get? "DOCS_REGISTRY").map Text.trim).getD standard.defaultRegistry }

end DocumentSettings

namespace Settings

/-- The names of the values that settings are read from. -/
def names : List String :=
  ["APP_ENV", "APP_HOST", "APP_PORT", "APP_LOG_LEVEL", "DOCS_FONT_FAMILY", "DOCS_FONT_SIZE",
    "DOCS_REGISTRY"]

/-- The settings in an environment. -/
def ofEnvironment (e : Environment) : Except SettingsFault Settings := do
  let port ← match word16? ((e.get? "APP_PORT").getD "3000") with
    | some port => .ok port
    | none => .error SettingsFault.invalidPort
  let documents ← DocumentSettings.ofEnvironment e
  .ok
    { stage := Stage.parse ((e.get? "APP_ENV").getD "development")
      host := (e.get? "APP_HOST").getD "127.0.0.1"
      port := port
      logLevel := (e.get? "APP_LOG_LEVEL").getD "info"
      documents := documents }

/-- The address that the service listens on. -/
def address (s : Settings) : Except SettingsFault IpAddress :=
  if Text.equalsIgnoringCase s.host "localhost" then .ok (.v4 [127, 0, 0, 1])
  else
    match IpAddress.parse? s.host with
    | some a => .ok a
    | none => .error .invalidHost

/-- The address with its port. -/
def endpoint (s : Settings) : Except SettingsFault String :=
  s.address.map (fun a => a.withPort s.port)

end Settings

end EstateFiling
