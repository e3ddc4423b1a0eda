import EstateFiling.Json.Printer
import EstateFiling.Json.Source
import EstateFiling.Proofs.Text.Digits

/-!
# How values are spelled

A printed text reads as a sequence of tokens whatever comes after it, as long as that does
not go on with a number (`Json.Token.Spells`).  Texts that spell tokens are put together:
blanks and punctuation may stand in front of anything (`Spells.blanks`, `Spells.cons`), and
a value in front of anything that does not go on with a number (`Spells.append`).

*Numbers.*  An integer of 64 bits, signed or unsigned, comes back from its digits
(`Number.read_text`).  Doubles are left out: their digits are scaled by a product or
quotient of doubles when they are read, which need not give the same double.

*Quoted texts.*  Each character is escaped on its own and read back on its own
(`Json.Token.exists_piece`), so every text comes back from between its quotes
(`Json.Token.read_quoted`).

*Values.*  `Json.Fits` says of a value that its numbers are such integers and how deep its
lists and objects may be.  Printed over several lines, it spells its tokens
(`Json.Fits.spells`).
-/

namespace EstateFiling

namespace Number

/-! ## Numbers -/

/-- A text that does not go on with a number. -/
def Stops (cs : List Char) : Prop :=
  ∀ c ∈ cs.head?, c.isDigit = false ∧ c ∉ ['.', 'e', 'E']

theorem Stops.nil : Stops [] := fun _ h => nomatch h

theorem Stops.cons {c : Char} (h : c.isDigit = false ∧ c ∉ ['.', 'e', 'E']) (cs : List Char) :
    Stops (c :: cs) := by
  rintro _ ⟨⟩
  exact h

theorem spanDigits_append {ds rest : List Char} (digits : ∀ d ∈ ds, d.isDigit = true)
    (stops : Stops rest) : spanDigits (ds ++ rest) = (ds, rest) := by
  have taken : rest.takeWhile Char.isDigit = [] ∧ rest.dropWhile Char.isDigit = rest := by
    cases rest with
    | nil => exact ⟨rfl, rfl⟩
    | cons c cs =>
      have other : ¬ c.isDigit = true := by simp [(stops c rfl).1]
      exact ⟨List.takeWhile_cons_of_neg other, List.dropWhile_cons_of_neg other⟩
  unfold spanDigits
  rw [List.takeWhile_append_of_pos digits, List.dropWhile_append_of_pos digits, taken.1, taken.2,
    List.append_nil]

theorem takeFraction?_of_stops {rest : List Char} (stops : Stops rest) :
    Written.takeFraction? rest = some (none, rest) := by
  cases rest with
  | nil => rfl
  | cons c cs =>
    rw [Written.takeFraction?]
    rintro _ ⟨rfl, _⟩
    exact absurd List.mem_cons_self (stops '.' rfl).2

theorem takeExponent?_of_stops {rest : List Char} (stops : Stops rest) :
    Written.takeExponent? rest = some (none, rest) := by
  cases rest with
  | nil => rfl
  | cons c cs =>
    have other := (stops c rfl).2
    simp only [List.mem_cons, List.not_mem_nil, or_false, not_or] at other
    exact if_pos (by simp [other])

theorem isDigit_of_mem_toDigits {n : Nat} : ∀ d ∈ Nat.toDigits 10 n, d.isDigit = true :=
  fun _ h => Nat.isDigit_of_mem_toDigits (by decide) (by decide) h

/-- The digits of a natural are a whole part. -/
theorem isWhole_toDigits (n : Nat) :
    ((Nat.toDigits 10 n).isEmpty
      || (1 < (Nat.toDigits 10 n).length && (Nat.toDigits 10 n).head? == some '0')) = false := by
  rw [Bool.or_eq_false_iff]
  refine ⟨by rw [List.isEmpty_eq_false_iff]; exact Nat.toDigits_ne_nil, ?_⟩
  cases n with
  | zero => rfl
  | succ n => rw [beq_false_of_ne (Text.head?_toDigits n.succ_pos), Bool.and_false]

theorem take?_toDigits (n : Nat) {rest : List Char} (stops : Stops rest) :
    Written.take? (Nat.toDigits 10 n ++ rest) =
      some (⟨false, Nat.toDigits 10 n, none, none⟩, rest) := by
  obtain ⟨d, ds, digits⟩ := List.exists_cons_of_ne_nil (Nat.toDigits_ne_nil (b := 10) (n := n))
  have unsigned : ∀ cs, Nat.toDigits 10 n ++ rest ≠ '-' :: cs := by
    intro cs minus
    rw [digits, List.cons_append] at minus
    injection minus with same
    have digit := isDigit_of_mem_toDigits d (digits ▸ List.mem_cons_self)
    rw [same] at digit
    cases digit
  unfold Written.take?
  split
  rename_i sign
  split at sign
  · exact absurd ‹_› (unsigned _)
  · obtain ⟨rfl, rfl⟩ := sign
    simp [spanDigits_append isDigit_of_mem_toDigits stops, isWhole_toDigits,
      takeFraction?_of_stops stops, takeExponent?_of_stops stops]

theorem take?_minus_toDigits (n : Nat) {rest : List Char} (stops : Stops rest) :
    Written.take? ('-' :: (Nat.toDigits 10 n ++ rest)) =
      some (⟨true, Nat.toDigits 10 n, none, none⟩, rest) := by
  simp [Written.take?, spanDigits_append isDigit_of_mem_toDigits stops, isWhole_toDigits,
    takeFraction?_of_stops stops, takeExponent?_of_stops stops]

theorem le_ofDigitChars (ds : List Char) (v : Nat) : v ≤ Nat.ofDigitChars 10 ds v := by
  induction ds generalizing v with
  | nil => exact Nat.le_refl v
  | cons d ds ih =>
    rw [Nat.ofDigitChars_cons]
    exact Nat.le_trans (by omega) (ih _)

/-- The digits of a number that fits make its significand. -/
theorem foldl_wholeDigit {ds : List Char} {v : Nat} (power : Int)
    (fits : Nat.ofDigitChars 10 ds v < 0x10000000000000000) :
    ds.foldl Significand.wholeDigit ⟨v, power, false⟩ =
      ⟨Nat.ofDigitChars 10 ds v, power, false⟩ := by
  induction ds generalizing v with
  | nil => rfl
  | cons d ds ih =>
    rw [Nat.ofDigitChars_cons] at fits
    have next : 10 * v + (d.toNat - 48) < 0x10000000000000000 :=
      Nat.lt_of_le_of_lt (le_ofDigitChars ds _) fits
    have step : Significand.wholeDigit ⟨v, power, false⟩ d =
        ⟨10 * v + (d.toNat - 48), power, false⟩ := by
      simp [Significand.wholeDigit, Nat.not_le.mpr next]
    rw [List.foldl_cons, step, Nat.ofDigitChars_cons]
    exact ih fits

theorem significand_toDigits {n : Nat} (fits : n < 0x10000000000000000) :
    (Nat.toDigits 10 n).foldl Significand.wholeDigit ⟨0, 0, false⟩ = ⟨n, 0, false⟩ := by
  rw [foldl_wholeDigit 0 (by rwa [Nat.ofDigitChars_ten_toDigits]), Nat.ofDigitChars_ten_toDigits]

/-- An integer of 64 bits, signed or unsigned. -/
def IsWord : Number → Prop
  | .integer n => -0x8000000000000000 ≤ n ∧ n < 0x10000000000000000
  | .double _ => False

/-- A word is read back from its text. -/
theorem read_text {n : Number} (word : n.IsWord) {rest : List Char} (stops : Stops rest) :
    ∃ w, Written.take? (n.text.toList ++ rest) = some (w, rest) ∧ w.value? = some n := by
  cases n with
  | double x => exact word.elim
  | integer n =>
    obtain ⟨low, high⟩ := word
    unfold text intText
    rw [String.toList_ofList]
    by_cases negative : n < 0
    · refine ⟨_, by rw [if_pos negative]; exact take?_minus_toDigits _ stops, ?_⟩
      unfold Written.value?
      rw [significand_toDigits (by omega)]
      have magnitude : -(n.natAbs : Int) = n := by omega
      simp only [Option.isNone_none, Bool.and_self, Bool.not_false, ↓reduceIte, Bool.true_and,
        magnitude]
      rw [if_pos (by simp; omega)]
    · refine ⟨_, by rw [if_neg negative]; exact take?_toDigits _ stops, ?_⟩
      unfold Written.value?
      rw [significand_toDigits (by omega)]
      simp
      omega

/-- The text of a word starts with a digit or a minus sign. -/
theorem exists_cons_text {n : Number} (word : n.IsWord) :
    ∃ c cs, n.text.toList = c :: cs ∧ (c.isDigit = true ∨ c = '-') := by
  cases n with
  | double x => exact word.elim
  | integer n =>
    unfold text intText
    rw [String.toList_ofList]
    by_cases negative : n < 0
    · exact ⟨'-', _, by rw [if_pos negative], Or.inr rfl⟩
    · obtain ⟨d, ds, digits⟩ :=
        List.exists_cons_of_ne_nil (Nat.toDigits_ne_nil (b := 10) (n := n.natAbs))
      refine ⟨d, ds, by rw [if_neg negative, digits], Or.inl ?_⟩
      exact isDigit_of_mem_toDigits d (digits ▸ List.mem_cons_self)

end Number

namespace Json.Token

/-! ## Quoted texts -/

/-- A piece stands for a character, whatever pieces follow. -/
def Piece.StandsFor (p : Piece) (c : Char) : Prop :=
  ∀ ps, charsOf? none (p :: ps) = (charsOf? none ps).map (c :: ·)

theorem Piece.StandsFor.char (c : Char) : (Piece.char c).StandsFor c := fun _ => rfl

/-- A control character is no surrogate. -/
theorem Piece.StandsFor.unit {c : Char} (control : c.toNat < 32) :
    (Piece.unit c.toNat).StandsFor c := by
  have high : isHigh c.toNat = false := by
    simp only [isHigh, Bool.and_eq_false_iff, decide_eq_false_iff_not]
    omega
  have low : isLow c.toNat = false := by
    simp only [isLow, Bool.and_eq_false_iff, decide_eq_false_iff_not]
    omega
  intro ps
  rw [charsOf?, high, low, Char.ofNat_toNat]
  rfl

theorem hexDigit?_hexDigit : ∀ n < 16, Text.hexDigit? (hexDigit n) = some n := by decide

theorem readQuoted_letter {letter c : Char} (h : escaped? letter = some c) (cs : List Char) :
    readQuoted ('\\' :: letter :: cs) =
      (readQuoted cs).map fun (ps, after) => (.char c :: ps, after) := by
  rw [readQuoted]
  · rw [h]
    cases readQuoted cs <;> rfl
  · rintro _ _ _ _ _ rfl _
    cases h

theorem readQuoted_unit {n : Nat} (small : n < 256) (cs : List Char) :
    readQuoted ('\\' :: 'u' :: '0' :: '0' :: hexDigit (n / 16) :: hexDigit (n % 16) :: cs) =
      (readQuoted cs).map fun (ps, after) => (.unit n :: ps, after) := by
  have unit : hexUnit? '0' '0' (hexDigit (n / 16)) (hexDigit (n % 16)) = some n := by
    unfold hexUnit?
    rw [hexDigit?_hexDigit (n / 16) (by omega), hexDigit?_hexDigit (n % 16) (by omega)]
    show some (0 + 0 + 16 * (n / 16) + n % 16) = some n
    rw [Nat.zero_add, Nat.div_add_mod]
  rw [readQuoted, unit]
  cases readQuoted cs <;> rfl

theorem readQuoted_plain {c : Char} (quote : c ≠ '"') (escape : c ≠ '\\') (plain : 32 ≤ c.toNat)
    (cs : List Char) :
    readQuoted (c :: cs) = (readQuoted cs).map fun (ps, after) => (.char c :: ps, after) := by
  have kept : (c == '\\' || decide (c.toNat < 32)) = false := by
    simp [escape, plain]
  rw [readQuoted, kept]
  · cases readQuoted cs <;> rfl
  · exact quote
  · rintro _ _ _ _ _ rfl
    exact absurd rfl escape
  · rintro _ _ rfl
    exact absurd rfl escape

/-- An escaped character is read as one piece, which stands for it. -/
theorem exists_piece (c : Char) : ∃ p : Piece, p.StandsFor c ∧ ∀ cs,
    readQuoted (escapeChar c ++ cs) = (readQuoted cs).map fun (ps, after) => (p :: ps, after) := by
  have letter : ∀ l, escapeChar c = ['\\', l] → escaped? l = some c →
      ∃ p : Piece, p.StandsFor c ∧ ∀ cs, readQuoted (escapeChar c ++ cs) =
        (readQuoted cs).map fun (ps, after) => (p :: ps, after) := by
    intro l shape means
    exact ⟨.char c, .char c, fun cs => by rw [shape]; exact readQuoted_letter means cs⟩
  by_cases quote : c = '"'
  · exact letter '"' (by rw [quote]; rfl) (by rw [quote]; rfl)
  by_cases escape : c = '\\'
  · exact letter '\\' (by rw [escape]; rfl) (by rw [escape]; rfl)
  by_cases back : c = '\x08'
  · exact letter 'b' (by rw [back]; rfl) (by rw [back]; rfl)
  by_cases feed : c = '\x0c'
  · exact letter 'f' (by rw [feed]; rfl) (by rw [feed]; rfl)
  by_cases line : c = '\n'
  · exact letter 'n' (by rw [line]; rfl) (by rw [line]; rfl)
  by_cases carriage : c = '\r'
  · exact letter 'r' (by rw [carriage]; rfl) (by rw [carriage]; rfl)
  by_cases tab : c = '\t'
  · exact letter 't' (by rw [tab]; rfl) (by rw [tab]; rfl)
  by_cases control : c.toNat < 32
  · have shape : escapeChar c =
        ['\\', 'u', '0', '0', hexDigit (c.toNat / 16), hexDigit (c.toNat % 16)] := by
      simp [escapeChar, quote, escape, back, feed, line, carriage, tab, control]
    refine ⟨.unit c.toNat, .unit control, fun cs => ?_⟩
    rw [shape]
    exact readQuoted_unit (by omega) cs
  · have shape : escapeChar c = [c] := by
      simp [escapeChar, quote, escape, back, feed, line, carriage, tab, control]
    refine ⟨.char c, .char c, fun cs => ?_⟩
    rw [shape]
    exact readQuoted_plain quote escape (Nat.le_of_not_lt control) cs

/-- A text comes back from between its quotes. -/
theorem readQuoted_escaped (cs rest : List Char) : ∃ ps,
    readQuoted (cs.flatMap escapeChar ++ '"' :: rest) = some (ps, rest) ∧
      charsOf? none ps = some cs := by
  induction cs with
  | nil => exact ⟨[], by rw [List.flatMap_nil, List.nil_append, readQuoted], rfl⟩
  | cons c cs ih =>
    obtain ⟨ps, read, chars⟩ := ih
    obtain ⟨p, stands, first⟩ := exists_piece c
    refine ⟨p :: ps, ?_, ?_⟩
    · rw [List.flatMap_cons, List.append_assoc, first, read]
      rfl
    · rw [stands, chars]
      rfl

theorem read_quoted (s : String) (rest : List Char) :
    read (quoted s ++ rest) = (.string (some s), rest) := by
  obtain ⟨ps, found, chars⟩ := readQuoted_escaped s.toList rest
  have text : textOf? ps = some s := by
    unfold textOf?
    rw [chars, Option.map_some, String.ofList_toList]
  have spelled : quoted s ++ rest = '"' :: (s.toList.flatMap escapeChar ++ '"' :: rest) := by
    simp [quoted]
  rw [spelled, read, found]
  exact congrArg (fun t => (Token.string t, rest)) text

/-! ## Texts that spell tokens -/

/-- A text reads as tokens, whatever follows it that does not go on with a number. -/
structure Spells (cs : List Char) (ts : List Token) : Prop where
  /-- Each token takes a character. -/
  length_le : ts.length ≤ cs.length
  /-- Each token takes a step. -/
  readAll_append : ∀ n rest, Number.Stops rest →
    readAll (ts.length + n) (cs ++ rest) = ts ++ readAll n rest

/-- A blank is no part of a number. -/
theorem stops_of_isSpace {c : Char} (h : isSpace c = true) :
    c.isDigit = false ∧ c ∉ ['.', 'e', 'E'] := by
  simp only [isSpace, Bool.or_eq_true, beq_iff_eq] at h
  rcases h with ((rfl | rfl) | rfl) | rfl <;> decide

theorem isSpace_of_isDigit {c : Char} (h : c.isDigit = true) : isSpace c = false := by
  rw [Bool.eq_false_iff]
  intro space
  rw [(stops_of_isSpace space).1] at h
  cases h

theorem readAll_of_read {c : Char} {cs after : List Char} {t : Token} (n : Nat)
    (found : read (c :: cs) = (t, after)) (token : t ≠ .fault) (front : isSpace c = false) :
    readAll (n + 1) (c :: cs) = t :: readAll n after := by
  rw [readAll, List.dropWhile_cons_of_neg (by simp [front])]
  simp only [found]

theorem readAll_blanks {bs : List Char} (blank : ∀ c ∈ bs, isSpace c = true) (n : Nat)
    (cs : List Char) : readAll n (bs ++ cs) = readAll n cs := by
  cases n with
  | zero => rfl
  | succ n => rw [readAll, readAll, List.dropWhile_append_of_pos blank]

namespace Spells

variable {cs cs' : List Char} {ts ts' : List Token}

theorem nil : Spells [] [] where
  length_le := Nat.le_refl 0
  readAll_append n rest _ := by
    rw [List.length_nil, Nat.zero_add]
    rfl

/-- One token. -/
theorem token {c : Char} {t : Token}
    (found : ∀ rest, Number.Stops rest → read (c :: cs ++ rest) = (t, rest))
    (token : t ≠ .fault) (front : isSpace c = false) : Spells (c :: cs) [t] where
  length_le := Nat.succ_le_succ (Nat.zero_le _)
  readAll_append n rest stops := by
    rw [List.length_singleton, Nat.add_comm]
    exact readAll_of_read n (found rest stops) token front

/-- Texts of which the second does not go on with a number. -/
theorem append (h : Spells cs ts) (h' : Spells cs' ts')
    (stops' : ∀ rest, Number.Stops rest → Number.Stops (cs' ++ rest)) :
    Spells (cs ++ cs') (ts ++ ts') where
  length_le := by
    rw [List.length_append, List.length_append]
    exact Nat.add_le_add h.length_le h'.length_le
  readAll_append n rest stops := by
    rw [List.length_append, Nat.add_assoc, List.append_assoc,
      h.readAll_append _ _ (stops' rest stops), h'.readAll_append n rest stops, List.append_assoc]

/-- Blanks may stand in front of anything. -/
theorem blanks {bs : List Char} (blank : ∀ c ∈ bs, isSpace c = true) (h : Spells cs ts) :
    Spells (bs ++ cs) ts where
  length_le := by
    rw [List.length_append]
    exact Nat.le_add_left_of_le h.length_le
  readAll_append n rest stops := by
    rw [List.append_assoc, readAll_blanks blank, h.readAll_append n rest stops]

/-- A token of one character may stand in front of anything. -/
theorem cons {c : Char} {t : Token} (h : Spells cs ts)
    (found : ∀ rest, read (c :: rest) = (t, rest)) (token : t ≠ .fault)
    (front : isSpace c = false) : Spells (c :: cs) (t :: ts) where
  length_le := Nat.succ_le_succ h.length_le
  readAll_append n rest stops := by
    rw [List.length_cons, Nat.add_right_comm, List.cons_append,
      readAll_of_read _ (found _) token front, h.readAll_append n rest stops, List.cons_append]

/-- A text that spells tokens has these tokens, and blanks may follow it. -/
theorem ofChars_append (h : Spells cs ts) {bs : List Char} (blank : ∀ c ∈ bs, isSpace c = true) :
    ofChars (cs ++ bs) = ts := by
  have stops : Number.Stops bs := fun c hc =>
    stops_of_isSpace (blank c (List.mem_of_mem_head? hc))
  have last (n : Nat) : readAll (n + 1) bs = [] := by
    rw [← List.append_nil bs, readAll_blanks blank]
    rfl
  have steps : (cs ++ bs).length + 1 = ts.length + (cs.length - ts.length + bs.length + 1) := by
    have := h.length_le
    rw [List.length_append]
    omega
  rw [ofChars, steps, h.readAll_append _ _ stops, last, List.append_nil]

end Spells

/-! ## Single tokens -/

theorem Spells.quoted (s : String) : Spells (Json.quoted s) [.string (some s)] := by
  refine .token (fun rest _ => ?_) (by simp) rfl
  exact read_quoted s rest

theorem digit_not_special {c : Char} (h : c.isDigit = true ∨ c = '-') :
    c ∉ ['{', '}', '[', ']', ':', ',', 'n', 't', 'f', '"'] := by
  rcases h with digit | rfl
  · intro special
    simp only [List.mem_cons, List.not_mem_nil, or_false] at special
    rcases special with rfl | rfl | rfl | rfl | rfl | rfl | rfl | rfl | rfl | rfl <;> cases digit
  · decide

/-- What starts like a number is read as one. -/
theorem read_number {c : Char} {cs after : List Char} {w : Number.Written}
    (start : c.isDigit = true ∨ c = '-')
    (found : Number.Written.take? (c :: cs) = some (w, after)) :
    read (c :: cs) = (.number w.value?, after) := by
  have other := digit_not_special start
  simp only [List.mem_cons, List.not_mem_nil, or_false, not_or] at other
  rw [read] <;> simp_all

theorem Spells.number {n : Number} (word : n.IsWord) :
    Spells n.text.toList [.number (some n)] := by
  obtain ⟨c, cs, text, start⟩ := Number.exists_cons_text word
  rw [text]
  refine .token (fun rest stops => ?_) (by simp) ?_
  · obtain ⟨w, found, value⟩ := Number.read_text word stops
    rw [text, List.cons_append] at found
    rw [List.cons_append]
    exact (read_number start found).trans (by rw [value])
  · rcases start with digit | rfl
    · exact isSpace_of_isDigit digit
    · rfl

end Json.Token

namespace Json

/-! ## Tokens of a value -/

mutual

/-- The tokens of a value. -/
def tokens : Json → List Token
  | .null => [.null]
  | .bool b => [.bool b]
  | .number n => [.number (some n)]
  | .string s => [.string (some s)]
  | .array [] => [.leftBracket, .rightBracket]
  | .array (item :: items) => .leftBracket :: (tokens item ++ (itemTokens items ++ [.rightBracket]))
  | .object [] => [.leftBrace, .rightBrace]
  | .object ((name, value) :: members) =>
      .leftBrace :: .string (some name) :: .colon
        :: (tokens value ++ (memberTokens members ++ [.rightBrace]))

/-- The tokens of the further items of a list. -/
def itemTokens : List Json → List Token
  | [] => []
  | item :: items => .comma :: (tokens item ++ itemTokens items)

/-- The tokens of the further members of an object. -/
def memberTokens : List (String × Json) → List Token
  | [] => []
  | (name, value) :: members =>
      .comma :: .string (some name) :: .colon :: (tokens value ++ memberTokens members)

end

/-- A value whose numbers are words and whose lists and objects are at most so deep. -/
inductive Fits : Nat → Json → Prop where
  /-- Null. -/
  | null (depth : Nat) : Fits depth .null
  /-- A truth value. -/
  | bool (depth : Nat) (b : Bool) : Fits depth (.bool b)
  /-- A number. -/
  | number (depth : Nat) {n : Number} (word : n.IsWord) : Fits depth (.number n)
  /-- A text. -/
  | string (depth : Nat) (s : String) : Fits depth (.string s)
  /-- A list. -/
  | array {depth : Nat} {items : List Json} (h : ∀ item ∈ items, Fits depth item) :
      Fits (depth + 1) (.array items)
  /-- An object. -/
  | object {depth : Nat} {members : List (String × Json)} (h : ∀ m ∈ members, Fits depth m.2) :
      Fits (depth + 1) (.object members)

namespace Fits

attribute [simp] null bool string

variable {depth : Nat}

@[simp] theorem nat_uint16 (n : UInt16) : Fits depth (.nat n.toNat) :=
  .number depth ⟨by omega, by have := n.toNat_lt; omega⟩

theorem array_map {α : Type} {encode : α → Json} {as : List α}
    (h : ∀ a ∈ as, Fits depth (encode a)) : Fits (depth + 1) (.array (as.map encode)) :=
  .array (List.forall_mem_map.mpr h)

@[simp] theorem strings (ss : List String) : Fits (depth + 1) (.strings ss) :=
  array_map fun s _ => .string depth s

end Fits

/-! ## Values over several lines -/

theorem isSpace_of_mem_newLine {depth : Nat} : ∀ c ∈ newLine depth, Token.isSpace c = true := by
  intro c hc
  rcases List.mem_cons.mp hc with rfl | blank
  · rfl
  · rw [List.eq_of_mem_replicate blank]
    rfl

namespace Token.Spells

variable {depth : Nat} {cs : List Char} {ts : List Token}

theorem newLine (h : Spells cs ts) : Spells (newLine depth ++ cs) ts :=
  h.blanks isSpace_of_mem_newLine

/-- A name and the colon after it. -/
theorem name (s : String) (h : Spells cs ts) :
    Spells (Json.quoted s ++ ':' :: ' ' :: cs) (.string (some s) :: .colon :: ts) := by
  have blank : ∀ c ∈ [' '], isSpace c = true := List.forall_mem_singleton.mpr rfl
  have value : Spells (' ' :: cs) ts := h.blanks blank
  have colon : Spells (':' :: ' ' :: cs) (.colon :: ts) :=
    value.cons (fun _ => rfl) (by simp) rfl
  exact (Spells.quoted s).append colon fun rest _ => .cons (by decide) _

end Token.Spells

open Token

theorem stops_newLine (depth : Nat) (cs : List Char) : Number.Stops (newLine depth ++ cs) :=
  .cons (by decide) _

section Tails

variable {inner outer : Nat} {cs : List Char} {ts : List Token}

theorem stops_prettyItems (items : List Json) (cs : List Char) :
    Number.Stops (prettyItems inner items ++ (newLine outer ++ cs)) := by
  cases items with
  | nil => exact stops_newLine outer cs
  | cons item items =>
    rw [prettyItems]
    exact .cons (by decide) _

theorem stops_prettyMembers (members : List (String × Json)) (cs : List Char) :
    Number.Stops (prettyMembers inner members ++ (newLine outer ++ cs)) := by
  cases members with
  | nil => exact stops_newLine outer cs
  | cons m members =>
    rw [prettyMembers]
    exact .cons (by decide) _

/-- Further items spell their tokens. -/
theorem spells_prettyItems {items : List Json}
    (h : ∀ item ∈ items, Spells (prettyChars inner item) item.tokens)
    (tail : Spells (newLine outer ++ cs) ts) :
    Spells (prettyItems inner items ++ (newLine outer ++ cs)) (itemTokens items ++ ts) := by
  induction items with
  | nil => exact tail
  | cons item items ih =>
    obtain ⟨first, others⟩ := List.forall_mem_cons.mp h
    have value := first.append (ih others) fun rest _ => by
      rw [List.append_assoc, List.append_assoc]
      exact stops_prettyItems _ _
    rw [prettyItems, itemTokens]
    simp only [List.cons_append, List.append_assoc]
    exact value.newLine.cons (fun _ => rfl) (by simp) rfl

/-- Further members spell their tokens. -/
theorem spells_prettyMembers {members : List (String × Json)}
    (h : ∀ m ∈ members, Spells (prettyChars inner m.2) m.2.tokens)
    (tail : Spells (newLine outer ++ cs) ts) :
    Spells (prettyMembers inner members ++ (newLine outer ++ cs)) (memberTokens members ++ ts) := by
  induction members with
  | nil => exact tail
  | cons m members ih =>
    obtain ⟨first, others⟩ := List.forall_mem_cons.mp h
    have value := first.append (ih others) fun rest _ => by
      rw [List.append_assoc, List.append_assoc]
      exact stops_prettyMembers _ _
    rw [prettyMembers, memberTokens]
    simp only [List.cons_append, List.append_assoc, List.nil_append]
    exact (value.name m.1).newLine.cons (fun _ => rfl) (by simp) rfl

end Tails

/-- A value written over several lines spells its tokens. -/
theorem Fits.spells {limit : Nat} {j : Json} (h : Fits limit j) (depth : Nat) :
    Spells (prettyChars depth j) j.tokens := by
  induction h generalizing depth with
  | null =>
    rw [prettyChars, tokens]
    exact .token (fun _ _ => rfl) (by simp) rfl
  | bool _ b =>
    cases b with
    | false => exact .token (fun _ _ => rfl) (by simp) rfl
    | true => exact .token (fun _ _ => rfl) (by simp) rfl
  | number _ word => exact Spells.number word
  | string _ s => exact Spells.quoted s
  | @array _ items h ih =>
    have close : Spells (newLine depth ++ [']']) [.rightBracket] :=
      (Spells.nil.cons (fun _ => rfl) (by simp) rfl).newLine
    cases items with
    | nil => exact (Spells.nil.cons (fun _ => rfl) (by simp) rfl).cons (fun _ => rfl) (by simp) rfl
    | cons item items =>
      obtain ⟨first, others⟩ := List.forall_mem_cons.mp fun item hitem => ih item hitem (depth + 1)
      have inside := first.append (spells_prettyItems others close) fun rest _ => by
        rw [List.append_assoc, List.append_assoc]
        exact stops_prettyItems _ _
      rw [prettyChars, tokens]
      simp only [List.cons_append, List.append_assoc]
      exact inside.newLine.cons (fun _ => rfl) (by simp) rfl
  | @object _ members h ih =>
    have close : Spells (newLine depth ++ ['}']) [.rightBrace] :=
      (Spells.nil.cons (fun _ => rfl) (by simp) rfl).newLine
    cases members with
    | nil => exact (Spells.nil.cons (fun _ => rfl) (by simp) rfl).cons (fun _ => rfl) (by simp) rfl
    | cons m members =>
      obtain ⟨first, others⟩ := List.forall_mem_cons.mp fun m hm => ih m hm (depth + 1)
      have inside := first.append (spells_prettyMembers others close) fun rest _ => by
        rw [List.append_assoc, List.append_assoc]
        exact stops_prettyMembers _ _
      rw [prettyChars, tokens]
      simp only [List.cons_append, List.append_assoc, List.nil_append]
      exact (inside.name m.1).newLine.cons (fun _ => rfl) (by simp) rfl

/-- A value written over several lines has its tokens, and blanks may follow it. -/
theorem Fits.ofChars_pretty {limit : Nat} {j : Json} (h : Fits limit j) {bs : List Char}
    (blank : ∀ c ∈ bs, isSpace c = true) :
    ofChars (prettyChars 0 j ++ bs) = j.tokens :=
  (h.spells 0).ofChars_append blank

end Json

end EstateFiling
