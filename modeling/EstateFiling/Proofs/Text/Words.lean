import EstateFiling.Proofs.Text.Trimming

/-!
# Words

A word is some characters without a blank, and `Text.InWords` says which words a text is
made of: blanks are passed over, and a word ends where a blank or nothing follows.  Every
text is made of words, and `Text.words` finds them (`Text.words_eq_iff`).  Blanks around a
text add no word and take none away (`Text.words_trim`).

Words with a blank between them are taken apart again (`Text.words_join`).
-/

namespace EstateFiling.Text

/-- Some characters, none of them a blank. -/
def IsWord (w : String) : Prop := w ≠ "" ∧ ∀ c ∈ w.toList, isBlank c = false

/-- A text is made of words. -/
inductive InWords : List Char → List String → Prop
  /-- Nothing has no words. -/
  | nil : InWords [] []
  /-- A blank belongs to no word. -/
  | blank {c : Char} {cs : List Char} {ws : List String} :
      isBlank c = true → InWords cs ws → InWords (c :: cs) ws
  /-- A word goes on to the next blank, or to the end. -/
  | word {w : String} {cs : List Char} {ws : List String} :
      IsWord w → (∀ c ∈ cs.head?, isBlank c = true) → InWords cs ws →
        InWords (w.toList ++ cs) (w :: ws)

variable {w : String} {ws : List String} {cs : List Char}

/-! ## A word alone -/

theorem IsWord.toList_ne_nil (h : IsWord w) : w.toList ≠ [] :=
  fun empty => h.1 (String.toList_inj.mp empty)

theorem IsWord.trim_eq (h : IsWord w) : trim w = w := by
  rw [trim, trimChars_eq_self h.2, String.ofList_toList]

theorem isWord_ofList (nonempty : cs ≠ []) (nonblank : ∀ c ∈ cs, isBlank c = false) :
    IsWord (String.ofList cs) := by
  rw [IsWord, String.toList_ofList, ne_eq, String.ofList_eq_empty_iff]
  exact ⟨nonempty, nonblank⟩

/-! ## Finding the words -/

theorem words_ofList (cs : List Char) :
    words (String.ofList cs) =
      ((splitWhere isBlank cs).filter fun w => !w.isEmpty).map String.ofList := by
  rw [words, String.toList_ofList]

theorem words_blank {c : Char} (hc : isBlank c = true) (cs : List Char) :
    words (String.ofList (c :: cs)) = words (String.ofList cs) := by
  rw [words_ofList, words_ofList, splitWhere, if_pos hc, List.filter_cons_of_neg (by simp)]

theorem words_word_blank {c : Char} (h : IsWord w) (hc : isBlank c = true) (cs : List Char) :
    words (String.ofList (w.toList ++ c :: cs)) = w :: words (String.ofList cs) := by
  rw [words_ofList, words_ofList, splitWhere_append_cons h.2 hc,
    List.filter_cons_of_pos (by simp [h.toList_ne_nil]), List.map_cons, String.ofList_toList]

theorem IsWord.words_eq (h : IsWord w) : words w = [w] := by
  rw [words, splitWhere_eq_singleton h.2, List.filter_cons_of_pos (by simp [h.toList_ne_nil]),
    List.filter_nil, List.map_singleton, String.ofList_toList]

/-- The words that a text is made of are found. -/
theorem InWords.words_eq (h : InWords cs ws) : words (String.ofList cs) = ws := by
  induction h with
  | nil => rfl
  | blank hc _ ih => rw [words_blank hc, ih]
  | @word w cs ws hw stops rest ih =>
    cases cs with
    | nil =>
      rw [List.append_nil, String.ofList_toList, hw.words_eq, ← ih]
      rfl
    | cons c cs =>
      have hc : isBlank c = true := stops c rfl
      rw [words_word_blank hw hc, ← words_blank hc, ih]

/-- Every text is made of words. -/
theorem exists_inWords : (cs : List Char) → ∃ ws, InWords cs ws
  | [] => ⟨[], .nil⟩
  | c :: cs => by
    cases hc : isBlank c with
    | true =>
      obtain ⟨ws, rest⟩ := exists_inWords cs
      exact ⟨ws, .blank hc rest⟩
    | false =>
      -- The word goes up to the next blank.
      have shorter : (cs.dropWhile fun d => !isBlank d).length ≤ cs.length :=
        (List.dropWhile_suffix _).length_le
      obtain ⟨ws, rest⟩ := exists_inWords (cs.dropWhile fun d => !isBlank d)
      have nonblank : ∀ d ∈ c :: cs.takeWhile (fun d => !isBlank d), isBlank d = false := by
        intro d hd
        rcases List.mem_cons.mp hd with rfl | hd
        · exact hc
        · simpa using List.mem_takeWhile_imp hd
      have stops : ∀ d ∈ (cs.dropWhile fun d => !isBlank d).head?, isBlank d = true := by
        intro d hd
        have first := List.head?_dropWhile_not (fun d => !isBlank d) cs
        rw [Option.mem_def.mp hd] at first
        simpa using first
      have made := InWords.word (isWord_ofList (List.cons_ne_nil _ _) nonblank) stops rest
      rw [String.toList_ofList, List.cons_append, List.takeWhile_append_dropWhile] at made
      exact ⟨_, made⟩
termination_by cs => cs.length

/-- What is found is what the text is made of. -/
theorem words_eq_iff {s : String} : words s = ws ↔ InWords s.toList ws := by
  obtain ⟨vs, made⟩ := exists_inWords s.toList
  have found := made.words_eq
  rw [String.ofList_toList] at found
  constructor
  · rintro rfl
    rwa [found]
  · intro other
    have again := other.words_eq
    rwa [String.ofList_toList] at again

/-- A text is made of words alone. -/
theorem InWords.isWord (h : InWords cs ws) : ∀ w ∈ ws, IsWord w := by
  induction h with
  | nil => exact List.forall_mem_nil _
  | blank _ _ ih => exact ih
  | word hw _ _ ih => exact List.forall_mem_cons.mpr ⟨hw, ih⟩

theorem isWord_of_mem_words {s : String} : ∀ w ∈ words s, IsWord w :=
  (words_eq_iff.mp rfl).isWord

/-! ## Blanks around -/

theorem InWords.append_blanks {after : List Char} (h : InWords cs ws)
    (blank : ∀ c ∈ after, isBlank c = true) : InWords (cs ++ after) ws := by
  induction h with
  | nil =>
    induction after with
    | nil => exact .nil
    | cons c after ih =>
      obtain ⟨hc, rest⟩ := List.forall_mem_cons.mp blank
      exact .blank hc (ih rest)
  | blank hc _ ih => exact .blank hc ih
  | @word w cs ws hw stops _ ih =>
    rw [List.append_assoc]
    refine .word hw (fun c hc => ?_) ih
    rw [List.head?_append] at hc
    cases cs with
    | nil => exact blank c (List.mem_of_mem_head? hc)
    | cons d cs => exact stops c hc

theorem InWords.blanks_append {before : List Char} (blank : ∀ c ∈ before, isBlank c = true)
    (h : InWords cs ws) : InWords (before ++ cs) ws := by
  induction before with
  | nil => exact h
  | cons c before ih =>
    obtain ⟨hc, rest⟩ := List.forall_mem_cons.mp blank
    exact .blank hc (ih rest)

/-- Trimming a text leaves its words. -/
theorem words_trim (s : String) : words (trim s) = words s := by
  obtain ⟨before, after, around, front, back⟩ := exists_trimChars_append s.toList
  obtain ⟨ws, made⟩ := exists_inWords (trimChars s.toList)
  have whole := (made.append_blanks back).blanks_append front
  rw [← around] at whole
  rw [words_eq_iff.mpr whole, trim, made.words_eq]

/-! ## Words with a blank between them -/

theorem inWords_join (h : ∀ w ∈ ws, IsWord w) : InWords (join " " ws).toList ws := by
  unfold join
  induction ws with
  | nil => exact .nil
  | cons w ws ih =>
    obtain ⟨hw, rest⟩ := List.forall_mem_cons.mp h
    cases ws with
    | nil =>
      rw [String.intercalate_singleton, ← List.append_nil w.toList]
      exact .word hw (fun _ next => nomatch next) .nil
    | cons v ws =>
      rw [String.intercalate_cons_of_ne_nil (List.cons_ne_nil _ _), String.toList_append,
        String.toList_append, List.append_assoc]
      refine .word hw ?_ (.blank (by decide) (ih rest))
      rintro c ⟨⟩
      decide

/-- Words with a blank between them are taken apart. -/
theorem words_join (h : ∀ w ∈ ws, IsWord w) : words (join " " ws) = ws :=
  words_eq_iff.mpr (inWords_join h)

/-! ## Parts that are not blank -/

theorem trimmedNonBlank_cons {part : String} (trimmed : trim part = part)
    (nonempty : part ≠ "") (parts : List String) :
    trimmedNonBlank (part :: parts) = part :: trimmedNonBlank parts := by
  unfold trimmedNonBlank
  rw [List.map_cons, trimmed, List.filter_cons_of_pos (by simpa using nonempty)]

theorem trimmedNonBlank_cons_empty (parts : List String) :
    trimmedNonBlank ("" :: parts) = trimmedNonBlank parts := rfl

end EstateFiling.Text
