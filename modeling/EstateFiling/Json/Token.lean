import EstateFiling.Json.Basic

/-!
# Tokens of written data

The text of a data value is a sequence of tokens with blanks between them: the
six punctuation marks, the three words, numbers and quoted texts.  A blank is a
space, a tab, a line feed or a carriage return.

Inside quotes a backslash starts an escape; `\u` is followed by four hexadecimal
digits.  Control characters must be escaped.  Two escapes of surrogates, a high
one and at once a low one, stand for one character.

A token may be well formed and yet stand for nothing: a number beyond the doubles,
a text with a surrogate on its own.  Where no token can be read there is a fault,
and nothing is read after it.
-/

namespace EstateFiling.Json

/-- A token. -/
inductive Token where
  /-- A left brace. -/
  | leftBrace
  /-- A right brace. -/
  | rightBrace
  /-- A left bracket. -/
  | leftBracket
  /-- A right bracket. -/
  | rightBracket
  /-- A colon. -/
  | colon
  /-- A comma. -/
  | comma
  /-- The word for null. -/
  | null
  /-- A word for a truth value. -/
  | bool (b : Bool)
  /-- A number, unless it is beyond the doubles. -/
  | number (n : Option Number)
  /-- A quoted text without its quotes and escapes, unless a surrogate stands on
  its own in it. -/
  | string (s : Option String)
  /-- A place where no token can be read. -/
  | fault
deriving DecidableEq

namespace Token

/-! ## Quoted texts -/

/-- What stands between quotes: a character, or the four digits of an escape. -/
inductive Piece where
  /-- A character. -/
  | char (c : Char)
  /-- The value of four hexadecimal digits. -/
  | unit (n : Nat)
deriving DecidableEq

/-- The value of four hexadecimal digits. -/
def hexUnit? (a b c d : Char) : Option Nat := do
  let a ← Text.hexDigit? a
  let b ← Text.hexDigit? b
  let c ← Text.hexDigit? c
  let d ← Text.hexDigit? d
  some (4096 * a + 256 * b + 16 * c + d)

/-- The character an escape of one letter stands for. -/
def escaped? : Char → Option Char
  | '"' => some '"'
  | '\\' => some '\\'
  | '/' => some '/'
  | 'b' => some '\x08'
  | 'f' => some '\x0c'
  | 'n' => some '\n'
  | 'r' => some '\r'
  | 't' => some '\t'
  | _ => none

/-- Reads a quoted text after its opening quote: its pieces and what follows the
closing quote. -/
def readQuoted : List Char → Option (List Piece × List Char)
  | [] => none
  | '"' :: rest => some ([], rest)
  | '\\' :: 'u' :: a :: b :: c :: d :: rest => do
      let unit ← hexUnit? a b c d
      let (pieces, after) ← readQuoted rest
      some (.unit unit :: pieces, after)
  | '\\' :: letter :: rest => do
      let c ← escaped? letter
      let (pieces, after) ← readQuoted rest
      some (.char c :: pieces, after)
  | c :: rest =>
      if c == '\\' || c.toNat < 32 then none
      else do
        let (pieces, after) ← readQuoted rest
        some (.char c :: pieces, after)

/-- Whether a unit is a high surrogate. -/
def isHigh (unit : Nat) : Bool := 0xD800 ≤ unit && unit < 0xDC00

/-- Whether a unit is a low surrogate. -/
def isLow (unit : Nat) : Bool := 0xDC00 ≤ unit && unit < 0xE000

/-- The characters of pieces, where a high surrogate may have come before. -/
def charsOf? : Option Nat → List Piece → Option (List Char)
  | none, [] => some []
  | none, .char c :: pieces => (charsOf? none pieces).map (c :: ·)
  | none, .unit unit :: pieces =>
      if isHigh unit then charsOf? (some unit) pieces
      else if isLow unit then none
      else (charsOf? none pieces).map (Char.ofNat unit :: ·)
  | some high, .unit unit :: pieces =>
      if isLow unit then
        (charsOf? none pieces).map
          (Char.ofNat (0x10000 + 0x400 * (high - 0xD800) + (unit - 0xDC00)) :: ·)
      else none
  | some _, _ => none

/-- The text of pieces. -/
def textOf? (pieces : List Piece) : Option String := (charsOf? none pieces).map String.ofList

/-! ## All tokens -/

/-- The token at the front, and what follows it. -/
def read : List Char → Token × List Char
  | '{' :: rest => (.leftBrace, rest)
  | '}' :: rest => (.rightBrace, rest)
  | '[' :: rest => (.leftBracket, rest)
  | ']' :: rest => (.rightBracket, rest)
  | ':' :: rest => (.colon, rest)
  | ',' :: rest => (.comma, rest)
  | 'n' :: 'u' :: 'l' :: 'l' :: rest => (.null, rest)
  | 't' :: 'r' :: 'u' :: 'e' :: rest => (.bool true, rest)
  | 'f' :: 'a' :: 'l' :: 's' :: 'e' :: rest => (.bool false, rest)
  | '"' :: rest =>
      match readQuoted rest with
      | some (pieces, after) => (.string (textOf? pieces), after)
      | none => (.fault, [])
  | cs =>
      match Number.Written.take? cs with
      | some (written, after) => (.number written.value?, after)
      | none => (.fault, [])

/-- Whether a character is a blank between tokens. -/
def isSpace (c : Char) : Bool := c == ' ' || c == '\t' || c == '\n' || c == '\r'

/-- The tokens of a text, read with at most the given number of steps. -/
def readAll : Nat → List Char → List Token
  | 0, _ => [.fault]
  | steps + 1, cs =>
      match cs.dropWhile isSpace with
      | [] => []
      | rest =>
          match read rest with
          | (.fault, _) => [.fault]
          | (token, after) => token :: readAll steps after

/-- The tokens of a text, up to the first fault.  Each token has a character, so
as many steps as characters, and one for the end, suffice. -/
def ofChars (cs : List Char) : List Token := readAll (cs.length + 1) cs

end Token

end EstateFiling.Json
