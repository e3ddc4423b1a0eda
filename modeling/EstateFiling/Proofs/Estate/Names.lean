import EstateFiling.Case.Bundle
import EstateFiling.Proofs.Text.Words

/-!
# Names taken apart

A full name is taken apart at its blanks, and the display of the parts has its words again,
with single blanks between them (`PersonName.display_ofFullName`).  So taking the display
apart gives the same parts, and a name of single words, with any words in the middle, is
what its display is taken apart to (`PersonName.ofFullName_display`).

A record may give parts or a full name.  It displays as the parts if any is given, and as
the words of the full name otherwise (`PersonName.recordedAs_ofFields`).
-/

namespace EstateFiling

namespace PersonName

variable {first last : String} {middle ws : List String}

/-! ## Words into parts -/

/-- The first and the last word are the first and the last name. -/
theorem ofWords_concat (first last : String) (middle : List String) :
    ofWords (first :: (middle ++ [last])) = ⟨first, Text.join " " middle, last⟩ := by
  cases middle with
  | nil => rfl
  | cons second others =>
    have between : (second :: others ++ [last]).dropLast = second :: others :=
      List.dropLast_concat
    have final : (second :: others ++ [last]).getLastD "" = last := List.getLastD_concat ..
    have parts : ofWords (first :: (second :: others ++ [last])) =
        ⟨first, Text.join " " (second :: others ++ [last]).dropLast,
          (second :: others ++ [last]).getLastD ""⟩ := by
      cases others <;> rfl
    rw [parts, between, final]

/-- Words are none, one, or a first and a last with others between them. -/
theorem words_cases (ws : List String) :
    ws = [] ∨ (∃ w, ws = [w]) ∨ ∃ first middle last, ws = first :: (middle ++ [last]) := by
  cases ws with
  | nil => exact Or.inl rfl
  | cons first rest =>
    rcases List.eq_nil_or_concat' rest with rfl | ⟨middle, last, rfl⟩
    · exact Or.inr (Or.inl ⟨first, rfl⟩)
    · exact Or.inr (Or.inr ⟨first, middle, last, rfl⟩)

/-! ## Parts into words -/

/-- A name of words displays as its words. -/
theorem display_of_words (hfirst : Text.IsWord first) (hmiddle : ∀ w ∈ middle, Text.IsWord w)
    (hlast : Text.IsWord last) :
    display ⟨first, Text.join " " middle, last⟩ = Text.join " " (first :: (middle ++ [last])) := by
  have final : Text.trimmedNonBlank [last] = [last] :=
    Text.trimmedNonBlank_cons hlast.trim_eq hlast.1 []
  rw [display, Text.trimmedNonBlank_cons hfirst.trim_eq hfirst.1]
  by_cases noMiddle : middle = []
  · subst noMiddle
    show Text.join " " (first :: Text.trimmedNonBlank ["", last]) = _
    rw [Text.trimmedNonBlank_cons_empty, final, List.nil_append]
  · obtain ⟨w, hw⟩ := List.exists_mem_of_ne_nil middle noMiddle
    have trimmed : Text.trim (Text.join " " middle) = Text.join " " middle :=
      Text.trim_join fun w hw => ⟨(hmiddle w hw).trim_eq, (hmiddle w hw).1⟩
    have nonempty : Text.join " " middle ≠ "" := Text.join_ne_empty hw (hmiddle w hw).1
    have other : middle ++ [last] ≠ [] := List.append_ne_nil_of_left_ne_nil noMiddle _
    rw [Text.trimmedNonBlank_cons trimmed nonempty, final]
    unfold Text.join
    rw [String.intercalate_cons_cons, String.intercalate_cons_cons, String.intercalate_singleton,
      String.intercalate_cons_of_ne_nil other,
      String.intercalate_append_of_ne_nil noMiddle (List.cons_ne_nil _ _),
      String.intercalate_singleton]

/-- The parts that words are put into display as the words. -/
theorem display_ofWords (h : ∀ w ∈ ws, Text.IsWord w) :
    (ofWords ws).display = Text.join " " ws := by
  rcases words_cases ws with rfl | ⟨w, rfl⟩ | ⟨first, middle, last, rfl⟩
  · rfl
  · have hw := h w List.mem_cons_self
    rw [ofWords, display, Text.trimmedNonBlank_cons hw.trim_eq hw.1]
    rfl
  · obtain ⟨hfirst, others⟩ := List.forall_mem_cons.mp h
    obtain ⟨hmiddle, hlast⟩ := List.forall_mem_append.mp others
    rw [ofWords_concat, display_of_words hfirst hmiddle (hlast last List.mem_cons_self)]

/-! ## Full names -/

/-- A full name that is taken apart displays as its words. -/
theorem display_ofFullName (s : String) :
    (ofFullName s).display = Text.join " " (Text.words s) :=
  display_ofWords Text.isWord_of_mem_words

/-- Taking the display of words apart gives the parts again. -/
theorem ofFullName_join (h : ∀ w ∈ ws, Text.IsWord w) :
    ofFullName (Text.join " " ws) = ofWords ws := by
  rw [ofFullName, Text.words_join h]

/-- A name of words is what its display is taken apart to. -/
theorem ofFullName_display (hfirst : Text.IsWord first) (hmiddle : ∀ w ∈ middle, Text.IsWord w)
    (hlast : Text.IsWord last) :
    ofFullName (display ⟨first, Text.join " " middle, last⟩)
      = ⟨first, Text.join " " middle, last⟩ := by
  have all : ∀ w ∈ first :: (middle ++ [last]), Text.IsWord w := by
    refine List.forall_mem_cons.mpr ⟨hfirst, List.forall_mem_append.mpr ⟨hmiddle, fun w hw => ?_⟩⟩
    rwa [List.mem_singleton.mp hw]
  rw [display_of_words hfirst hmiddle hlast, ofFullName_join all, ofWords_concat]

/-! ## Names on record -/

/-- Whether a part of a name is given. -/
def Given (part : Option String) : Prop := Text.isBlankText (part.getD "") = false

/-- A name displays as what a record gives. -/
structure RecordedAs (name : PersonName) (first middle last fullName : Option String) : Prop where
  /-- The parts that are given, trimmed. -/
  parts : (∃ part ∈ [first, middle, last], Given part) →
    name.display = Text.join " " ([first, middle, last].filterMap Field.text?)
  /-- Without any, the words of the full name. -/
  words : (∀ part ∈ [first, middle, last], ¬ Given part) →
    ∀ ws, Text.InWords (fullName.getD "").toList ws → name.display = Text.join " " ws

theorem text_ne_empty_iff {part : Option String} : Field.text part ≠ "" ↔ Given part := by
  rw [ne_eq, ← String.isEmpty_iff, Field.text, Text.isEmpty_trim, Bool.not_eq_true]
  rfl

theorem text?_of_given {part : Option String} (h : Given part) :
    Field.text? part = some (Field.text part) := by
  simp [Field.text?, text_ne_empty_iff.mpr h]

theorem text_of_not_given {part : Option String} (h : ¬ Given part) : Field.text part = "" :=
  Classical.byContradiction fun nonempty => h (text_ne_empty_iff.mp nonempty)

theorem text?_of_not_given {part : Option String} (h : ¬ Given part) : Field.text? part = none := by
  simp [Field.text?, text_of_not_given h]

/-- The parts of a record that are not blank are those that are given. -/
theorem trimmedNonBlank_text (parts : List (Option String)) :
    Text.trimmedNonBlank (parts.map Field.text) = parts.filterMap Field.text? := by
  induction parts with
  | nil => rfl
  | cons part parts ih =>
    rw [List.map_cons]
    by_cases given : Given part
    · have trimmed : Text.trim (Field.text part) = Field.text part := Text.trim_trim _
      rw [Text.trimmedNonBlank_cons trimmed (text_ne_empty_iff.mpr given), ih,
        List.filterMap_cons_some (text?_of_given given)]
    · rw [text_of_not_given given, Text.trimmedNonBlank_cons_empty, ih,
        List.filterMap_cons_none (text?_of_not_given given)]

/-- The name of a record displays as what the record gives. -/
theorem recordedAs_ofFields (first middle last fullName : Option String) :
    (ofFields first middle last fullName).RecordedAs first middle last fullName := by
  have parts : display ⟨Field.text first, Field.text middle, Field.text last⟩
      = Text.join " " ([first, middle, last].filterMap Field.text?) :=
    congrArg (Text.join " ") (trimmedNonBlank_text [first, middle, last])
  refine ⟨?given, ?blank⟩
  case given =>
    rintro ⟨part, hpart, given⟩
    have listed : Field.text part ∈ [first, middle, last].filterMap Field.text? :=
      List.mem_filterMap.mpr ⟨part, hpart, text?_of_given given⟩
    have named : isEmpty ⟨Field.text first, Field.text middle, Field.text last⟩ = false := by
      rw [isEmpty, parts, String.isEmpty_eq_false_iff]
      exact Text.join_ne_empty listed (text_ne_empty_iff.mpr given)
    rw [ofFields, named, if_neg Bool.false_ne_true, parts]
  case blank =>
    intro blank ws made
    have unnamed : isEmpty ⟨Field.text first, Field.text middle, Field.text last⟩ = true := by
      have noPart : [first, middle, last].filterMap Field.text? = [] :=
        List.filterMap_eq_nil_iff.mpr fun part hpart => text?_of_not_given (blank part hpart)
      rw [isEmpty, parts, noPart]
      rfl
    rw [ofFields, unnamed, if_pos rfl, display_ofFullName, Field.text, Text.words_trim,
      Text.words_eq_iff.mpr made]

/-! ## Nothing invented and nothing lost -/

/-- A full name that is taken apart displays as its words with single blanks, and its
display is taken apart to the same parts.  A name of words comes back from its display.  The
names of executors and of the deceased display as what their records give. -/
theorem splitting_keeps_words :
    (∀ s : String, (∃ ws, Text.InWords s.toList ws)
      ∧ ∀ ws, Text.InWords s.toList ws → (ofFullName s).display = Text.join " " ws)
    ∧ (∀ s : String, ofFullName (ofFullName s).display = ofFullName s)
    ∧ (∀ (first last : String) (middle : List String), Text.IsWord first → Text.IsWord last →
      (∀ w ∈ middle, Text.IsWord w) →
        ofFullName (display ⟨first, Text.join " " middle, last⟩)
          = ⟨first, Text.join " " middle, last⟩)
    ∧ (∀ first middle last fullName : Option String,
      (ofFields first middle last fullName).RecordedAs first middle last fullName)
    ∧ (∀ r : ExecutorRecord,
      r.applicant.name.RecordedAs r.firstName r.middleName r.lastName r.fullName)
    ∧ ∀ b : CaseBundle,
      (∀ key ∈ ["deceased.first_name", "deceased.middle_name", "deceased.last_name"],
        b.overrides.text? key = none) →
      b.deceased.name.RecordedAs b.case.deceasedFirstName b.case.deceasedMiddleName
        b.case.deceasedLastName b.case.deceasedFullName := by
  refine ⟨fun s => ⟨Text.exists_inWords _, fun ws made => ?words⟩, fun s => ?again,
    fun _ _ _ hfirst hlast hmiddle => ofFullName_display hfirst hmiddle hlast,
    recordedAs_ofFields, fun r => ?executor, fun b entered => ?deceased⟩
  case words => rw [display_ofFullName, Text.words_eq_iff.mpr made]
  case again =>
    rw [display_ofFullName, ofFullName_join Text.isWord_of_mem_words]
    rfl
  case executor =>
    have recorded : r.applicant.name = ofFields r.firstName r.middleName r.lastName r.fullName := by
      simp only [ExecutorRecord.applicant]
    rw [recorded]
    exact recordedAs_ofFields ..
  case deceased =>
    simp only [List.forall_mem_cons] at entered
    obtain ⟨first, middle, last, -⟩ := entered
    have recorded : b.deceased.name = ofFields b.case.deceasedFirstName b.case.deceasedMiddleName
        b.case.deceasedLastName b.case.deceasedFullName := by
      simp only [CaseBundle.deceased, first, middle, last, Option.getD_none]
    rw [recorded]
    exact recordedAs_ofFields ..

/-- Four words with all kinds of blanks, a name with two words in the middle, and a record
whose parts but one are blank. -/
theorem mariaDeLaCruz_keeps_words :
    Text.InWords " Maria \t de la\u00a0Cruz\n".toList ["Maria", "de", "la", "Cruz"]
    ∧ (ofFullName " Maria \t de la\u00a0Cruz\n").display = "Maria de la Cruz"
    ∧ ofFullName (display ⟨"Maria", "de la", "Cruz"⟩) = ⟨"Maria", "de la", "Cruz"⟩
    ∧ (ofFields (some " ") (some " de  la ") none (some "Maria Cruz")).display = "de  la"
    ∧ (ofFields none (some " ") none (some " Maria  Cruz ")).display = "Maria Cruz" := by
  obtain ⟨split, -, parts, recorded, -⟩ := splitting_keeps_words
  have word (w : String) (nonempty : w ≠ "") (nonblank : w.toList.all (!Text.isBlank ·) = true) :
      Text.IsWord w := ⟨nonempty, by simpa using nonblank⟩
  have four : Text.InWords " Maria \t de la\u00a0Cruz\n".toList ["Maria", "de", "la", "Cruz"] :=
    Text.words_eq_iff.mp (by decide)
  have two : Text.InWords " Maria  Cruz ".toList ["Maria", "Cruz"] :=
    Text.words_eq_iff.mp (by decide)
  have between : ∀ w ∈ ["de", "la"], Text.IsWord w := by
    intro w hw
    rcases List.mem_pair.mp hw with rfl | rfl <;> exact word _ (by decide) (by decide)
  refine ⟨four, (split _).2 _ four, ?_, ?_, ?_⟩
  · exact parts "Maria" "Cruz" ["de", "la"] (word _ (by decide) (by decide))
      (word _ (by decide) (by decide)) between
  · refine (recorded (some " ") (some " de  la ") none (some "Maria Cruz")).parts ?_
    exact ⟨some " de  la ", by simp, by unfold Given; decide⟩
  · refine (recorded none (some " ") none (some " Maria  Cruz ")).words ?_ _ two
    unfold Given
    decide

end PersonName

end EstateFiling
