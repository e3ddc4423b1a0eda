import EstateFiling.Settings.Pattern
import EstateFiling.Text.Ascii
import EstateFiling.Text.Utf8

/-!
# Log filters

A filter is a list of directives with commas between them; empty ones are passed
over.  A directive is a level, or names a target, a span in brackets or both, and
may end in an equals sign and a level.  A span may have a field in braces, whose
value is a number or a pattern.  Here it is decided only whether a filter can be
understood.

The blanks around a directive are passed over, but the places where its parts
begin and end are counted without them and looked up in the directive as it is
written.
-/

namespace EstateFiling.LogFilter

/-- The name of the filter in the environment that comes before the settings. -/
def name : String := "RUST_LOG"

/-! ## Levels -/

/-- Whether a text is a level: a name in any case or a number up to five. -/
def isLevel (s : String) : Bool :=
  s.isEmpty
    || ["error", "warn", "info", "debug", "trace", "off"].contains (Text.lower s)
    || (Text.boundedNat? 6 s.toList).isSome

/-! ## Fields -/

/-- Whether a text is a number without a sign: a decimal with an optional exponent,
or a name for what is no finite number. -/
def isUnsigned (cs : List Char) : Bool :=
  let (mantissa, exponent) := Text.splitFirst (fun c => c == 'e' || c == 'E') cs
  let (whole, fraction) := Text.splitFirst (· == '.') mantissa
  let areDigits (ds : List Char) : Bool := !ds.isEmpty && ds.all Char.isDigit
  let isExponent : List Char → Bool
    | '+' :: ds | '-' :: ds | ds => areDigits ds
  ["inf", "infinity", "nan"].contains (Text.lower (String.ofList cs))
    || (areDigits (whole ++ fraction.getD []) && exponent.all isExponent)

/-- Whether a text is the value of a field.  Every number is a pattern unless it has
a plus sign. -/
def isValue (cs : List Char) : Bool :=
  (match cs with
    | '+' :: number => isUnsigned number
    | _ => false)
    || Pattern.isValid (String.ofList cs)

/-- Whether a text is a field: a name, and a value between the first equals sign and
the second. -/
def isField (s : String) : Bool :=
  !s.isEmpty
    && (Text.splitWhere (· == '=') s.toList)[1]?.all isValue

/-! ## Directives -/

/-- What is being read of a directive. -/
inductive Part where
  /-- A target or a level. -/
  | target
  /-- The name of a span. -/
  | span
  /-- The field of a span, which began at a place. -/
  | field (start : Nat)
  /-- What follows the field. -/
  | afterField
  /-- What follows a span. -/
  | afterSpan
  /-- A level, which began at a place. -/
  | level (start : Nat)
deriving DecidableEq, Repr

/-- The bytes of a text between two places, if they are a text. -/
def textBetween? (bytes : List UInt8) (start stop : Nat) : Option String :=
  Text.ofUtf8? ((bytes.drop start).take (stop - start))

/-- Whether the rest of a directive can be understood, which is at a place of the
directive as it is written. -/
def accepts (written : List UInt8) : Part → Nat → List Char → Bool
  | .target, _, [] | .afterSpan, _, [] => true
  | .span, _, [] | .field _, _, [] | .afterField, _, [] => false
  | .level start, _, [] => (textBetween? written start written.length).any isLevel
  | part, place, c :: cs =>
      let next := place + c.utf8Size
      match part with
      | .target =>
          if c == '=' then accepts written (.level next) next cs
          else if c == '[' then accepts written .span next cs
          else accepts written .target next cs
      | .span =>
          if c == ']' then accepts written .afterSpan next cs
          else if c == '{' then accepts written (.field next) next cs
          else accepts written .span next cs
      | .field start =>
          if c == '}' then
            (textBetween? written start place).any isField && accepts written .afterField next cs
          else accepts written (.field start) next cs
      | .afterField => c == ']' && accepts written .afterSpan next cs
      | .afterSpan => c == '=' && accepts written (.level next) next cs
      | .level start => accepts written (.level start) next cs

/-- Whether a character can begin a target. -/
def beginsTarget (c : Char) : Bool :=
  Text.isAlphanumeric c || c == '-' || c == ':' || c == '_'

/-- Whether a directive can be understood. -/
def isDirective (cs : List Char) : Bool :=
  let written := Text.toUtf8 (String.ofList cs)
  match Text.trimChars cs with
  | [] => false
  | c :: rest =>
      if c == '[' then accepts written .span 1 rest
      else beginsTarget c && accepts written .target c.utf8Size rest

/-- Whether a filter can be understood. -/
def isValid (filter : String) : Bool :=
  ((Text.splitWhere (· == ',') filter.toList).filter (fun cs => !cs.isEmpty)).all isDirective

end EstateFiling.LogFilter
