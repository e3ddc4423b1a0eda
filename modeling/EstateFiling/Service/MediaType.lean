import EstateFiling.Text.Ascii
import EstateFiling.Text.Blank

/-!
# Media types

A media type is a type and a subtype with a slash between them, followed by
parameters.  A subtype may end in a plus sign and a suffix.
-/

namespace EstateFiling.MediaType

/-- Whether a character can stand in a type, a subtype or a parameter. -/
def isTokenChar (c : Char) : Bool :=
  c.isAlphanum
    || ['!', '#', '$', '%', '&', '\'', '*', '+', '-', '.', '^', '_', '\x60', '|', '~'].contains c

/-- Whether a text is a token. -/
def isToken (cs : List Char) : Bool := !cs.isEmpty && cs.all isTokenChar

/-- What is being read of the parameters. -/
inductive Part where
  /-- The name of a parameter, or a blank in front of it. -/
  | start
  /-- The name of a parameter. -/
  | name
  /-- The start of a value. -/
  | valueStart
  /-- A value without quotes. -/
  | value
  /-- The first character of a value in quotes, which may be a quote itself. -/
  | quotedStart
  /-- A value in quotes. -/
  | quoted
  /-- What follows the closing quote. -/
  | afterQuoted
deriving DecidableEq, Repr

/-- Whether a character can stand between quotes. -/
def isQuotedChar (c : Char) : Bool := 32 ≤ c.toNat && c.toNat < 127

/-- Whether the rest of the parameters is well formed. -/
def areParameters : Part → List Char → Bool
  | .start, [] | .value, [] | .valueStart, [] | .afterQuoted, [] => true
  | .name, [] | .quotedStart, [] | .quoted, [] => false
  | .start, c :: cs =>
      if c == ' ' then areParameters .start cs else isTokenChar c && areParameters .name cs
  | .name, c :: cs =>
      if c == '=' then areParameters .valueStart cs else isTokenChar c && areParameters .name cs
  | .valueStart, c :: cs =>
      if c == '"' then areParameters .quotedStart cs else isTokenChar c && areParameters .value cs
  | .value, c :: cs =>
      if c == ';' then areParameters .start cs else isTokenChar c && areParameters .value cs
  | .quotedStart, c :: cs => isQuotedChar c && areParameters .quoted cs
  | .quoted, c :: cs =>
      if c == '"' then areParameters .afterQuoted cs
      else isQuotedChar c && areParameters .quoted cs
  | .afterQuoted, c :: cs =>
      if c == ';' then areParameters .start cs else c == ' ' && areParameters .afterQuoted cs

/-- The subtype without its suffix, and the suffix. -/
def suffixed (subtype : List Char) : List Char × Option (List Char) :=
  match Text.splitFirst (· == '+') subtype.reverse with
  | (suffix, some (c :: front)) => ((c :: front).reverse, some suffix.reverse)
  | _ => (subtype, none)

/-- Whether a media type is that of data: `application/json`, or an application
type with the suffix `json`. -/
def isJson (contentType : String) : Bool :=
  match Text.splitFirst (· == '/') (Text.lower contentType).toList with
  | (_, none) => false
  | (type, some rest) =>
      let (subtype, parameters) := Text.splitFirst (· == ';') rest
      let (name, suffix) := suffixed subtype
      isToken type && isToken subtype
        && (match parameters with
          | some cs => areParameters .start cs
          | none => true)
        && String.ofList type == "application"
        && (String.ofList name == "json" || suffix.map String.ofList == some "json")

end EstateFiling.MediaType
