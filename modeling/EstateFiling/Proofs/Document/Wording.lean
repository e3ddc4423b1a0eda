import EstateFiling.Proofs.Document.Blocks
import EstateFiling.Proofs.Text.Digits

/-!
# What a document says after some words

A form prints an answer after a label: "Address for service: " and the address.
`DocumentContent.after` collects what the paragraphs of a document say after some words,
so that a label stands there once exactly if the list has one entry.

*Texts.*  What follows the words is found (`Text.after?_append`), and a text that sets out
differently says nothing after them.  It sets out differently when it begins with a text
that is *apart* from the words, which is decided on the two literals
(`Text.after?_append_of_apart`), or with a number where the words do not
(`Text.after?_toString_append`).

*Blocks.*  Only paragraphs say something.  The lemmas for each constructor reduce a list
of blocks to the texts in it, and `simp` with `decide` for the side conditions strips a
section down to the paragraphs that carry the label.

*Parts.*  Where a label stands more than once, `DocumentContent.under?` reads it in the part
of the document that a paragraph heads.
-/

namespace EstateFiling

/-! ## Words at the start of a text -/

namespace Text

/-- What a text says after some words that it begins with. -/
def after? (words s : String) : Option String :=
  if startsWith s words then some (String.ofList (s.toList.drop words.toList.length)) else none

theorem startsWith_iff {s words : String} :
    startsWith s words = true ↔ words.toList <+: s.toList := List.isPrefixOf_iff_prefix

theorem startsWith_append (words rest : String) : startsWith (words ++ rest) words = true := by
  rw [startsWith_iff, String.toList_append]
  exact List.prefix_append _ _

@[simp] theorem after?_append (words rest : String) : after? words (words ++ rest) = some rest := by
  unfold after?
  rw [if_pos (startsWith_append words rest), String.toList_append, List.drop_left,
    String.ofList_toList]

theorem after?_eq_none {words s : String} (h : startsWith s words = false) :
    after? words s = none := if_neg (Bool.eq_false_iff.mp h)

/-- Neither text begins with the other. -/
def apart (s t : String) : Bool := !startsWith s t && !startsWith t s

theorem apart_iff {s t : String} :
    apart s t = true ↔ ¬ t.toList <+: s.toList ∧ ¬ s.toList <+: t.toList := by
  simp only [apart, Bool.and_eq_true, Bool.not_eq_true', ← startsWith_iff, Bool.not_eq_true]

/-- A text that begins apart from the words says nothing after them. -/
@[simp] theorem after?_append_of_apart {words front : String} (h : apart words front = true)
    (rest : String) : after? words (front ++ rest) = none := by
  obtain ⟨notFront, notWords⟩ := apart_iff.mp h
  refine after?_eq_none (Bool.eq_false_iff.mpr fun starts => ?_)
  rw [startsWith_iff, String.toList_append] at starts
  -- Of two texts that a third begins with, one begins with the other.
  rcases List.prefix_or_prefix_of_prefix starts (List.prefix_append _ _) with short | long
  · exact notWords short
  · exact notFront long

@[simp] theorem after?_of_apart {words s : String} (h : apart words s = true) :
    after? words s = none := by
  rw [← String.append_empty (s := s)]
  exact after?_append_of_apart h ""

/-- Words that begin with something else than a digit do not stand where a number does. -/
theorem after?_toString_append {words : String}
    (h : words.toList.head?.any (fun c => !c.isDigit) = true) (n : Nat) (rest : String) :
    after? words (toString n ++ rest) = none := by
  obtain ⟨c, cs, chars⟩ : ∃ c cs, words.toList = c :: cs := by
    cases chars : words.toList with
    | nil => rw [chars] at h; cases h
    | cons c cs => exact ⟨c, cs, rfl⟩
  obtain ⟨d, ds, digits⟩ := List.exists_cons_of_ne_nil (toList_toString_ne_nil n)
  have digit : d.isDigit = true := isDigit_of_mem_toString (digits ▸ List.mem_cons_self)
  refine after?_eq_none (Bool.eq_false_iff.mpr fun starts => ?_)
  rw [startsWith_iff, String.toList_append, chars, digits, List.cons_append,
    List.cons_prefix_cons] at starts
  rw [chars, starts.1, List.head?_cons, Option.any_some, digit] at h
  cases h

end Text

/-! ## Blocks -/

/-- What a block says after some words, if it is a paragraph that begins with them. -/
def Block.after? (words : String) (b : Block) : Option String :=
  b.paragraph?.bind fun p => Text.after? words p.text

/-- What the paragraphs among blocks say after some words. -/
def saidAfter (words : String) (bs : List Block) : List String :=
  bs.filterMap (Block.after? words)

section Said

variable (words : String)

@[simp] theorem saidAfter_nil : saidAfter words [] = [] := rfl

@[simp] theorem saidAfter_cons (b : Block) (bs : List Block) :
    saidAfter words (b :: bs) = (b.after? words).toList ++ saidAfter words bs := by
  cases h : b.after? words with
  | none => simp [saidAfter, h]
  | some s => simp [saidAfter, h]

@[simp] theorem saidAfter_append (bs cs : List Block) :
    saidAfter words (bs ++ cs) = saidAfter words bs ++ saidAfter words cs :=
  List.filterMap_append

@[simp] theorem saidAfter_ite {p : Prop} [Decidable p] (bs cs : List Block) :
    saidAfter words (if p then bs else cs) =
      if p then saidAfter words bs else saidAfter words cs :=
  apply_ite ..

end Said

/-- What the paragraphs of a document say after some words. -/
def DocumentContent.after (d : DocumentContent) (words : String) : List String :=
  saidAfter words d.blocks

theorem DocumentContent.after_eq (d : DocumentContent) (words : String) :
    d.after words = d.sections.flatMap fun s => saidAfter words s.blocks := by
  unfold DocumentContent.after DocumentContent.blocks saidAfter
  exact List.filterMap_flatMap

/-! ## Parts with a heading -/

/-- A block is a paragraph with a text. -/
def Block.isText (s : String) (b : Block) : Bool := b.paragraph?.any fun p => p.text == s

/-- A block that says nothing after some words is no paragraph of these words. -/
theorem Block.isText_eq_false {s : String} {b : Block} (h : b.after? s = none) :
    b.isText s = false := by
  cases b with
  | paragraph p =>
    rw [Bool.eq_false_iff]
    intro same
    have same : p.text = s := eq_of_beq same
    have found : Text.after? s p.text = some "" := by
      simpa [same] using Text.after?_append s ""
    exact Option.some_ne_none _ (found.symm.trans h)
  | table | checkboxes | signature | jurat | pageBreak => rfl

/-- What is first said after some words, from the paragraph with a text on. -/
def DocumentContent.under? (d : DocumentContent) (heading words : String) : Option String :=
  (d.blocks.dropWhile fun b => !b.isText heading).findSome? (Block.after? words)

/-- The part begins with the first paragraph that is its heading. -/
theorem DocumentContent.under?_eq {d : DocumentContent} {heading words : String}
    {before part : List Block} {b : Block} (blocks : d.blocks = before ++ b :: part)
    (silent : saidAfter heading before = []) (headed : b.isText heading = true) :
    d.under? heading words = (b :: part).findSome? (Block.after? words) := by
  have skipped : ∀ b ∈ before, (!b.isText heading) = true := by
    intro b hb
    rw [Block.isText_eq_false (List.filterMap_eq_nil_iff.mp silent b hb)]
    rfl
  unfold under?
  rw [blocks, List.dropWhile_append_of_pos skipped, List.dropWhile_cons_of_neg (by simp [headed])]

namespace Compose

variable (style : StyleProfile) (words : String)

/-! ## Composed blocks -/

@[simp] theorem after?_paragraph (s : String) (o : ParagraphOptions) :
    (paragraph style s o).after? words = Text.after? words s := by
  show Text.after? words ("" ++ s) = _
  rw [String.empty_append]

@[simp] theorem isText_paragraph (s : String) (o : ParagraphOptions) :
    (paragraph style s o).isText words = (s == words) := by
  show ("" ++ s == words) = _
  rw [String.empty_append]

@[simp] theorem after?_text (s : String) : (text style s).after? words = Text.after? words s :=
  after?_paragraph style words s {}

@[simp] theorem after?_title (s : String) : (title style s).after? words = Text.after? words s := by
  show Text.after? words ("" ++ s) = _
  rw [String.empty_append]

@[simp] theorem after?_small (s : String) (o : ParagraphOptions) :
    (small style s o).after? words = Text.after? words s := by
  show Text.after? words ("" ++ s) = _
  rw [String.empty_append]

@[simp] theorem after?_numberedAt (number s : String) (indent : UInt16) :
    (numberedAt style number s indent).after? words =
      Text.after? words (number ++ (" " ++ s)) := by
  show Text.after? words (number ++ " " ++ ("" ++ s)) = _
  rw [String.empty_append, String.append_assoc]

@[simp] theorem after?_numbered (number s : String) :
    (numbered style number s).after? words = Text.after? words (number ++ (" " ++ s)) :=
  after?_numberedAt style words number s 0

@[simp] theorem after?_dateLine (label : String) (date : Option Date) :
    (dateLine style label date).after? words =
      Text.after? words (label ++ (": " ++ Filler.dateOrDots date 24)) := by
  rw [← String.append_assoc]
  exact after?_text style words _

@[simp] theorem after?_table (id : String) (header : List String) (rows : List TableRow) :
    (table style id header rows).after? words = none := rfl

@[simp] theorem after?_passage {Facts : Type} (t : ClauseTable Facts) (facts : Facts)
    (options : List (String × String)) (caption : Option String) :
    (passage style t facts options caption).after? words = none := rfl

@[simp] theorem saidAfter_signatures (names : List String) (caption : String) :
    saidAfter words (signatures style names caption) = [] :=
  filterMap_signatures style (fun _ => rfl) names caption

variable {words}

/-- The entries of an enumeration begin with a parenthesis. -/
@[simp] theorem saidAfter_enumeration (h : Text.apart words "(" = true)
    (entries : List String) (indent : UInt16) :
    saidAfter words (enumeration style entries indent) = [] := by
  refine filterMap_mapIdx_eq_nil (fun i entry => ?_) entries
  rw [after?_numberedAt, Filler.letterMarker, String.append_assoc, String.append_assoc]
  exact Text.after?_append_of_apart h _

@[simp] theorem saidAfter_enumerationOrNone (h : Text.apart words "(" = true)
    (wordApart : Text.apart words noneText = true) (entries : List String) :
    saidAfter words (enumerationOrNone style entries) = [] := by
  unfold enumerationOrNone
  split
  · rw [saidAfter_cons, after?_paragraph, Text.after?_of_apart wordApart]
    rfl
  · exact saidAfter_enumeration style h entries 1

end Compose

end EstateFiling
