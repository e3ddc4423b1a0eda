import EstateFiling.Proofs.Command.Rendering
import EstateFiling.Proofs.Json.Records

/-!
# Documents come back from what is written

Every document is decoded from its data, with the members in any arrangement
(`DocumentContent.decodes`), and its data is printed in a form that reads back
(`DocumentContent.fits`): its numbers have 16 bits and its lists and objects are at most
eight deep.  So the text of a document determines it, and what rendering writes or prints
is the document it rendered (`DocumentContent.text_comes_back`).

A block is decoded in two steps: the name of its sort is taken out of its members, and the
others make the block of that sort (`Block.split?_of_arranges`).
-/

namespace EstateFiling

open Json

variable {f : Arrangement} {ms : List (String × Json)}

/-! ## Paragraphs and tables -/

theorem Alignment.decodes (a : Alignment) : Decodes f Alignment.decode a.toJson a :=
  .enum (by cases a <;> rfl)

theorem Alignment.decodes_inBlock (a : Alignment) :
    Decodes f Alignment.decodeInBlock a.toJson a := by
  refine .scalar rfl rfl ?_
  rw [Alignment.decodeInBlock]
  · exact Alignment.decodes (f := .asWritten) a
  · exact fun _ h => nomatch h

theorem Run.decodes (r : Run) : Decodes f Run.decode r.toJson r :=
  .record (by repeat' constructor) <|
    .given (.string _) <| .given (.bool _) <| .given (.bool _) <| .given (.bool _) <|
    .given (.uint16 _) <| .nil _

theorem Paragraph.decode_of_arranges (p : Paragraph) (h : f.Arranges p.members ms) :
    Paragraph.decode (Json.object ms).source = .ok p :=
  decodeRecord_of_arranges (by repeat' constructor)
    (.ifPresent (fun _ _ => ⟨rfl, .string _⟩) rfl <|
      .given (.list fun r _ => r.decodes) <| .given p.align.decodes_inBlock <|
      .given (.uint16 _) <| .given (.uint16 _) <| .nil _) h

theorem TableRow.decodes (r : TableRow) : Decodes f TableRow.decode r.toJson r :=
  .record (by repeat' constructor) <|
    .given (.strings _) <| .given (.bool _) <| .nil _

theorem Table.decode_of_arranges (t : Table) (h : f.Arranges t.members ms) :
    Table.decode (Json.object ms).source = .ok t :=
  decodeRecord_of_arranges (by repeat' constructor)
    (.given (.string _) <| .given (.strings _) <| .given (.list fun r _ => r.decodes) <|
      .given (.uint16 _) <| .nil _) h

/-! ## Boxes, signatures and jurats -/

theorem CheckboxOption.decodes (o : CheckboxOption) :
    Decodes f CheckboxOption.decode o.toJson o :=
  .record (by repeat' constructor) <|
    .given (.string _) <| .given (.string _) <| .given (.bool _) <| .given (.string _) <| .nil _

theorem CheckboxGroup.decode_of_arranges (g : CheckboxGroup) (h : f.Arranges g.members ms) :
    CheckboxGroup.decode (Json.object ms).source = .ok g :=
  decodeRecord_of_arranges (by repeat' constructor)
    (.given (.string _) <| .ifPresent (fun _ _ => ⟨rfl, .string _⟩) rfl <|
      .given (.list fun o _ => o.decodes) <| .given (.uint16 _) <| .given (.uint16 _) <|
      .nil _) h

theorem SignatureBlock.decode_of_arranges (s : SignatureBlock) (h : f.Arranges s.members ms) :
    SignatureBlock.decode (Json.object ms).source = .ok s :=
  decodeRecord_of_arranges (by repeat' constructor)
    (.given (.string _) <| .given (.string _) <| .given (.string _) <| .given (.uint16 _) <|
      .nil _) h

theorem Jurat.decode_of_arranges (j : Jurat) (h : f.Arranges j.members ms) :
    Jurat.decode (Json.object ms).source = .ok j :=
  decodeRecord_of_arranges (by repeat' constructor)
    (.given (.string _) <| .given (.strings _) <| .given (.strings _) <| .given (.uint16 _) <|
      .nil _) h

/-! ## Blocks -/

namespace Block

/-- The members of a block have different names, none of them that of the sort. -/
theorem nodup_names (b : Block) : ("type" :: b.members.map Prod.fst).Nodup := by
  cases b with
  | paragraph p =>
    obtain ⟨number, _, _, _, _⟩ := p
    cases number <;> simp [members, Paragraph.members, memberIfPresent]
  | checkboxes g =>
    obtain ⟨_, caption, _, _, _⟩ := g
    cases caption <;> simp [members, CheckboxGroup.members, memberIfPresent]
  | table t => simp [members, Table.members]
  | signature s => simp [members, SignatureBlock.members]
  | jurat j => simp [members, Jurat.members]
  | pageBreak => simp [members]

/-- The name of the sort is found among the members, wherever it stands. -/
theorem split?_of_arranges {b : Block}
    (h : f.Arranges (("type", .string b.sort) :: b.members) ms) :
    ∃ rest, split? (.object ms) = some (b.sort, .object rest) ∧ f.Arranges b.members rest := by
  have other : ∀ m ∈ b.members.map fun m => (m.1, f.apply m.2), m.1 ≠ "type" := by
    intro m hm named
    obtain ⟨written, hwritten, rfl⟩ := List.mem_map.mp hm
    have name : written.1 ∈ b.members.map Prod.fst := List.mem_map_of_mem hwritten
    exact (List.nodup_cons.mp b.nodup_names).1 (named ▸ name)
  rw [Arrangement.Arranges, List.map_cons, f.scalar _ rfl rfl] at h
  have sort : ms.filter (fun m => m.1 == "type") = [("type", .string b.sort)] := by
    rw [← List.perm_singleton]
    refine (h.filter _).trans ?_
    rw [List.filter_cons_of_pos rfl,
      List.filter_eq_nil_iff.mpr fun m hm => by simpa using other m hm]
  have rest : f.Arranges b.members (ms.filter fun m => m.1 != "type") := by
    refine (h.filter _).trans ?_
    rw [List.filter_cons_of_neg (by simp),
      List.filter_eq_self.mpr fun m hm => by simpa using other m hm]
  exact ⟨_, by rw [split?, sort], rest⟩

/-- The members of a block besides the name of its sort, in any order, make it. -/
theorem decodeSort_of_arranges (b : Block) (h : f.Arranges b.members ms) :
    decodeSort b.sort (.object ms) = .ok b := by
  cases b with
  | paragraph p => exact congrArg (Except.map paragraph) (p.decode_of_arranges h)
  | table t => exact congrArg (Except.map table) (t.decode_of_arranges h)
  | checkboxes g => exact congrArg (Except.map checkboxes) (g.decode_of_arranges h)
  | signature s => exact congrArg (Except.map signature) (s.decode_of_arranges h)
  | jurat j => exact congrArg (Except.map jurat) (j.decode_of_arranges h)
  | pageBreak => rfl

theorem decodes (b : Block) : Decodes f Block.decode b.toJson b := by
  obtain ⟨ms, arranged, arranges⟩ := f.object (("type", .string b.sort) :: b.members)
  obtain ⟨rest, split, others⟩ := split?_of_arranges (arranges b.nodup_names)
  rw [Decodes, toJson, arranged, decode, decodeGiven, json?_source]
  change (found (split? (.object ms)) >>= fun parts => decodeSort parts.1 parts.2) = .ok b
  rw [split]
  exact b.decodeSort_of_arranges others

end Block

/-! ## Documents -/

theorem Section.decodes (s : Section) : Decodes f Section.decode s.toJson s :=
  .record (by repeat' constructor) <|
    .given (.string _) <| .ifPresent (fun _ _ => ⟨rfl, .string _⟩) rfl <|
    .given (.list fun b _ => b.decodes) <| .nil _

theorem StyleProfile.decodes (s : StyleProfile) : Decodes f StyleProfile.decode s.toJson s :=
  .record (by repeat' constructor) <|
    .given (.string _) <| .given (.uint16 _) <| .given (.uint16 _) <| .given (.uint16 _) <|
    .given (.uint16 _) <| .given (.uint16 _) <| .given (.uint16 _) <| .nil _

theorem DocumentKind.decodes (k : DocumentKind) : Decodes f DocumentKind.decode k.toJson k :=
  .enum (by cases k <;> rfl)

theorem DocumentContent.decodes (d : DocumentContent) :
    Decodes f DocumentContent.decode d.toJson d :=
  .record (by repeat' constructor) <|
    .given d.kind.decodes <| .given (.string _) <| .given d.style.decodes <|
    .given (.list fun s _ => s.decodes) <| .nil _

/-! ## What can be printed -/

section Fits

variable {depth : Nat}

theorem Run.fits (r : Run) : Fits (depth + 1) r.toJson := .object (by simp)

theorem TableRow.fits (r : TableRow) : Fits (depth + 2) r.toJson := .object (by simp)

theorem CheckboxOption.fits (o : CheckboxOption) : Fits (depth + 1) o.toJson := .object (by simp)

/-- The members of a block are at most three deep. -/
theorem Block.fits_members (b : Block) : ∀ m ∈ b.members, Fits (depth + 3) m.2 := by
  cases b with
  | paragraph p =>
    obtain ⟨number, runs, align, _, _⟩ := p
    have runs : Fits (depth + 3) (.array (runs.map Run.toJson)) := .array_map fun r _ => r.fits
    cases number <;> simp [members, Paragraph.members, memberIfPresent, Alignment.toJson, runs]
  | table t =>
    have rows : Fits (depth + 3) (.array (t.rows.map TableRow.toJson)) :=
      .array_map fun r _ => r.fits
    simp [members, Table.members, rows]
  | checkboxes g =>
    obtain ⟨_, caption, options, _, _⟩ := g
    have options : Fits (depth + 3) (.array (options.map CheckboxOption.toJson)) :=
      .array_map fun o _ => o.fits
    cases caption <;> simp [members, CheckboxGroup.members, memberIfPresent, options]
  | signature s => simp [members, SignatureBlock.members]
  | jurat j => simp [members, Jurat.members]
  | pageBreak => simp [members]

theorem Block.fits (b : Block) : Fits (depth + 4) b.toJson :=
  .object (List.forall_mem_cons.mpr ⟨.string _ _, b.fits_members⟩)

theorem Section.fits (s : Section) : Fits (depth + 6) s.toJson := by
  obtain ⟨_, heading, blocks⟩ := s
  have blocks : Fits (depth + 5) (.array (blocks.map Block.toJson)) := .array_map fun b _ => b.fits
  refine .object ?_
  cases heading <;> simp [memberIfPresent, blocks]

theorem StyleProfile.fits (s : StyleProfile) : Fits (depth + 1) s.toJson := .object (by simp)

/-- The data of a document is at most eight deep. -/
theorem DocumentContent.fits (d : DocumentContent) : Fits (depth + 8) d.toJson := by
  have style : Fits (depth + 7) d.style.toJson := d.style.fits
  have sections : Fits (depth + 7) (.array (d.sections.map Section.toJson)) :=
    .array_map fun s _ => s.fits
  exact .object (by simp [DocumentKind.toJson, style, sections])

end Fits

/-! ## What rendering writes -/

namespace DocumentContent

/-- A printed document reads back, also where blanks follow. -/
theorem decodeText_pretty (d : DocumentContent) {blanks : String}
    (blank : ∀ c ∈ blanks.toList, Token.isSpace c = true) :
    decodeText decode (d.toJson.pretty ++ blanks) = .ok d := by
  have fits : Fits (119 + 8) d.toJson := d.fits
  exact (fits.decodeText_pretty decode blank).trans (d.decodes (f := .asWritten))

/-- A request that succeeds writes the text of its document, or prints it and a line end. -/
theorem exists_document_of_perform {r : RenderRequest} {w : Workspace} {o : Outcome}
    (performed : r.perform w = .ok o) : ∃ d, r.document w = pure d
      ∧ o.written = r.outputFile.map (fun path => (path, d.toJson.pretty))
      ∧ o.output = if r.outputFile.isNone then d.toJson.pretty ++ "\n" else "" := by
  unfold RenderRequest.perform at performed
  rcases RenderRequest.exists_document (r := r) (w := w) with ⟨f, document⟩ | ⟨d, document⟩
  · rw [RenderRequest.execute_of_throw document] at performed
    cases performed
  · refine ⟨d, document, ?_⟩
    rw [RenderRequest.execute_of_pure document] at performed
    cases place : r.outputFile with
    | none =>
      rw [RenderRequest.execute_deliver_print place] at performed
      obtain rfl := Except.ok.inj performed
      rw [Outcome.ofEffects_print]
      exact ⟨rfl, rfl⟩
    | some path =>
      cases writes : w.writeFault path with
      | none =>
        rw [RenderRequest.execute_deliver_write place writes] at performed
        obtain rfl := Except.ok.inj performed
        exact ⟨rfl, rfl⟩
      | some fault =>
        rw [RenderRequest.execute_deliver_fault place writes] at performed
        cases performed

/-- A printed document reads back, the text of a document is the text of no other, and what
rendering writes or prints is the document it rendered. -/
theorem text_comes_back :
    (∀ d : DocumentContent, decodeText decode d.toJson.pretty = .ok d)
    ∧ (Function.Injective fun d : DocumentContent => d.toJson.pretty)
    ∧ ∀ (r : RenderRequest) (w : Workspace) (o : Outcome), r.perform w = .ok o →
        ∃ d, r.document w = pure d
          ∧ o.written = r.outputFile.map (fun path => (path, d.toJson.pretty))
          ∧ decodeText decode ((o.written.map Prod.snd).getD o.output) = .ok d := by
  have reads (d : DocumentContent) : decodeText decode d.toJson.pretty = .ok d := by
    have read : decodeText decode (d.toJson.pretty ++ "") = .ok d :=
      d.decodeText_pretty (fun _ h => nomatch h)
    rwa [String.append_empty] at read
  refine ⟨reads, fun d d' same => ?_, fun r w o performed => ?_⟩
  · have read := (congrArg (decodeText decode) same).trans (reads d')
    exact Except.ok.inj ((reads d).symm.trans read)
  · obtain ⟨d, document, written, output⟩ := exists_document_of_perform performed
    refine ⟨d, document, written, ?_⟩
    rw [written, output]
    cases r.outputFile with
    | none =>
      have lineEnd : ∀ c ∈ "\n".toList, Token.isSpace c = true :=
        List.forall_mem_singleton.mpr rfl
      exact d.decodeText_pretty lineEnd
    | some path => exact reads d

end DocumentContent

end EstateFiling
