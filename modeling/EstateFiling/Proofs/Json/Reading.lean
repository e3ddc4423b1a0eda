import EstateFiling.Json.Decoding
import EstateFiling.Proofs.Json.Spelling

/-!
# Values come back from their text

What is printed over several lines is read as the value it was printed from, without flaws
and with nothing left over (`Json.Fits.ofString_pretty`).  The reader runs over the tokens
of a value inside any lists and objects that are open, and ends after the value with all of
them open as before (`Json.Fits.run_tokens`).  No list or object is too deep for it, because
`Json.Fits` bounds the depth of the value by what is left.
-/

namespace EstateFiling.Json

namespace Source

/-! ## Steps -/

/-- Where a value may come. -/
def AwaitsValue (mode : Mode) : Prop := mode = .value ∨ mode = .firstItem

variable {mode mode' : Mode} {stack stack' : List Open} {depth depth' : Nat} {token : Token}

theorem run_step (h : step mode stack depth token = some (mode', stack', depth'))
    (tokens : List Token) :
    run mode stack depth (token :: tokens) = run mode' stack' depth' tokens := by
  rw [run, h]
  -- After a whole value with nothing open there is no step.
  rintro value rfl rfl
  cases h

theorem step_of_awaitsValue (awaits : AwaitsValue mode) (h : token ≠ .rightBracket) :
    step mode stack depth token = beginValue stack depth token := by
  rcases awaits with rfl | rfl
  · rfl
  · cases stack with
    | nil => rfl
    | cons o stack =>
      cases o with
      | object members name => rfl
      | array items =>
        cases token with
        | rightBracket => exact absurd rfl h
        | _ => rfl

/-- The first token of a value starts it. -/
theorem run_begin (awaits : AwaitsValue mode)
    (begins : beginValue stack depth token = some (mode', stack', depth'))
    (tokens : List Token) :
    run mode stack depth (token :: tokens) = run mode' stack' depth' tokens := by
  refine run_step ((step_of_awaitsValue awaits ?_).trans begins) tokens
  rintro rfl
  cases begins

theorem closedAt_of_le (h : depth ≤ maxDepth) (s : Source) : closedAt depth s = s := if_pos h

/-! ## Lists and objects -/

/-- An item is read as its source wherever a value may come. -/
def ReadsAs (depth : Nat) (j : Json) : Prop :=
  ∀ mode stack ts, AwaitsValue mode →
    run mode stack depth (j.tokens ++ ts) = run (.after j.source) stack depth ts

/-- The further items of a list are read up to its end. -/
theorem run_itemTokens {items : List Json} (h : ∀ item ∈ items, ReadsAs (depth + 1) item)
    (room : depth + 1 ≤ maxDepth) (last : Source) (before : List Source) (ts : List Token) :
    run (.after last) (.array before :: stack) (depth + 1)
        (itemTokens items ++ .rightBracket :: ts) =
      run (.after (.array (before.reverse ++ last :: itemSources items) true)) stack depth ts := by
  induction items generalizing last before with
  | nil =>
    refine (run_step rfl ts).trans ?_
    rw [closedAt_of_le room, List.reverse_cons, Nat.add_sub_cancel]
    rfl
  | cons item items ih =>
    obtain ⟨first, others⟩ := List.forall_mem_cons.mp h
    rw [itemTokens, itemSources, List.cons_append, List.append_assoc]
    refine (run_step rfl _).trans ?_
    rw [first _ _ _ (Or.inl rfl), ih others, List.reverse_cons, List.append_assoc]
    rfl

/-- The further members of an object are read up to its end. -/
theorem run_memberTokens {members : List (String × Json)}
    (h : ∀ m ∈ members, ReadsAs (depth + 1) m.2) (room : depth + 1 ≤ maxDepth) (name : String)
    (last : Source) (before : List (Option String × Source)) (ts : List Token) :
    run (.after last) (.object before (some name) :: stack) (depth + 1)
        (memberTokens members ++ .rightBrace :: ts) =
      run (.after (.object (before.reverse ++ (some name, last) :: memberSources members) true))
        stack depth ts := by
  induction members generalizing name last before with
  | nil =>
    refine (run_step rfl ts).trans ?_
    rw [closedAt_of_le room, List.reverse_cons, Nat.add_sub_cancel]
    rfl
  | cons m members ih =>
    obtain ⟨first, others⟩ := List.forall_mem_cons.mp h
    rw [memberTokens, memberSources]
    simp only [List.cons_append, List.append_assoc]
    refine (run_step rfl _).trans ((run_step rfl _).trans ((run_step rfl _).trans ?_))
    rw [first _ _ _ (Or.inl rfl), ih others, List.reverse_cons, List.append_assoc]
    rfl

end Source

/-! ## Values -/

open Source

/-- A value that fits into the depth that is left is read as its source. -/
theorem Fits.run_tokens {limit depth : Nat} {j : Json} (h : Fits limit j)
    (room : depth + limit ≤ maxDepth) : ReadsAs depth j := by
  induction h generalizing depth with
  | null => exact fun _ _ ts awaits => run_begin awaits rfl ts
  | bool _ b => exact fun _ _ ts awaits => run_begin awaits rfl ts
  | number _ word => exact fun _ _ ts awaits => run_begin awaits rfl ts
  | string _ s => exact fun _ _ ts awaits => run_begin awaits rfl ts
  | @array _ items _ ih =>
    intro mode stack ts awaits
    cases items with
    | nil =>
      rw [tokens, List.cons_append]
      refine (run_begin awaits rfl _).trans ((run_step rfl _).trans ?_)
      rw [closedAt_of_le (by omega), Nat.add_sub_cancel]
      rfl
    | cons item items =>
      have reads : ∀ item' ∈ item :: items, ReadsAs (depth + 1) item' :=
        fun item' hitem => ih item' hitem (by omega)
      obtain ⟨first, others⟩ := List.forall_mem_cons.mp reads
      rw [tokens]
      simp only [List.cons_append, List.append_assoc]
      refine (run_begin awaits rfl _).trans ?_
      rw [first _ _ _ (Or.inr rfl), List.nil_append]
      exact run_itemTokens others (by omega) _ [] ts
  | @object _ members _ ih =>
    intro mode stack ts awaits
    cases members with
    | nil =>
      rw [tokens, List.cons_append]
      refine (run_begin awaits rfl _).trans ((run_step rfl _).trans ?_)
      rw [closedAt_of_le (by omega), Nat.add_sub_cancel]
      rfl
    | cons m members =>
      have reads : ∀ m' ∈ m :: members, ReadsAs (depth + 1) m'.2 :=
        fun m' hm => ih m' hm (by omega)
      obtain ⟨first, others⟩ := List.forall_mem_cons.mp reads
      rw [tokens]
      simp only [List.cons_append, List.append_assoc]
      refine (run_begin awaits rfl _).trans ((run_step rfl _).trans ((run_step rfl _).trans ?_))
      rw [first _ _ _ (Or.inl rfl), List.nil_append]
      exact run_memberTokens others (by omega) _ _ [] ts

/-- A printed value is read as its source, also where blanks follow. -/
theorem Fits.ofString_pretty {j : Json} (h : Fits maxDepth j) {blanks : String}
    (blank : ∀ c ∈ blanks.toList, Token.isSpace c = true) :
    Source.ofString (j.pretty ++ blanks) = (j.source, []) := by
  rw [Source.ofString, pretty, String.toList_append, String.toList_ofList, h.ofChars_pretty blank]
  have reads : ReadsAs 0 j := h.run_tokens (by omega)
  have read := reads _ [] [] (Or.inl rfl)
  rw [List.append_nil] at read
  exact read.trans (by rw [run])

/-- A decoder reads a printed value as it decodes the value. -/
theorem Fits.decodeText_pretty {α : Type} {j : Json} (h : Fits maxDepth j) (decode : Decoder α)
    {blanks : String} (blank : ∀ c ∈ blanks.toList, Token.isSpace c = true) :
    decodeText decode (j.pretty ++ blanks) = decode j.source := by
  rw [decodeText, h.ofString_pretty blank]
  change (decode j.source >>= fun value => .ok value) = _
  cases decode j.source <;> rfl

/-! ## Sources without flaws -/

mutual

/-- The source of a value is without flaws. -/
theorem json?_source : ∀ j : Json, j.source.json? = some j
  | .null | .bool _ | .number _ | .string _ => rfl
  | .array items => by rw [source, json?, if_pos rfl, items?_itemSources items]; rfl
  | .object members => by rw [source, json?, if_pos rfl, members?_memberSources members]; rfl

theorem items?_itemSources : ∀ items : List Json, items? (itemSources items) = some items
  | [] => rfl
  | item :: items => by
    rw [itemSources, items?, json?_source item, items?_itemSources items]
    rfl

theorem members?_memberSources :
    ∀ members : List (String × Json), members? (memberSources members) = some members
  | [] => rfl
  | (name, value) :: members => by
    rw [memberSources, members?, json?_source value, members?_memberSources members]
    rfl

end

end EstateFiling.Json
