import EstateFiling.Command.Perform
import EstateFiling.Proofs.Command.Actions
import EstateFiling.Proofs.Csv.Faults
import EstateFiling.Proofs.Settings.Faults
import EstateFiling.Proofs.Text.Utf8

/-!
# The stages of rendering

Rendering goes through stages in a fixed order (`RenderStage.order`), and at each of them
something of the request or the workspace can be bad (`RenderRequest.FailsAt`).  Whether a stage
fails is said of the stage alone, also when an earlier one fails.

Each part of the action reads by some of the stages, in their order, until the document is there
(`RenderRequest.readsBy_document`).  Delivering the document is all that is done, if it can be
done (`RenderRequest.execute_deliver_print`, `RenderRequest.execute_deliver_write`).  So the
action fails by all stages (`RenderRequest.failsBy_result`), and if it fails it has no effects
(`RenderRequest.effects_of_error`).
-/

namespace EstateFiling

/-- A stage of rendering. -/
inductive RenderStage where
  /-- The kind is looked up. -/
  | kind
  /-- The port is read from the environment. -/
  | port
  /-- The font size is read from the environment. -/
  | fontSize
  /-- The file of the case is read. -/
  | caseFile
  /-- The case is decoded. -/
  | caseData
  /-- The file of the schedule is opened, if one is given. -/
  | scheduleFile
  /-- The rows of the schedule are imported. -/
  | scheduleRows
  /-- The document is written to a file, if one is given. -/
  | output
deriving DecidableEq, Repr

namespace RenderStage

/-- The stages before the document is there, in their order. -/
def reading : List RenderStage :=
  [.kind, .port, .fontSize, .caseFile, .caseData, .scheduleFile, .scheduleRows]

/-- The stages in their order. -/
def order : List RenderStage := reading ++ [.output]

end RenderStage

/-! ## What the stages find -/

/-- A file cannot be read, or what it holds encodes no text. -/
def Workspace.Unreadable (w : Workspace) (path : String) (fault : FileFault) : Prop :=
  w.read path = .error fault
  ∨ ∃ bytes, w.read path = .ok bytes ∧ (∀ text, Text.toUtf8 text ≠ bytes) ∧ fault = .notText

/-- A stage of a request fails.  A directory can be opened as the file of a schedule; it has no
rows. -/
def RenderRequest.FailsAt (r : RenderRequest) (w : Workspace) (stage : RenderStage)
    (f : Failure) : Prop :=
  match stage with
  | .kind => (∀ k, DocumentKind.parse r.kind ≠ .ok k) ∧ f = .unknownKind ⟨r.kind⟩
  | .port => w.fullEnvironment.BadPort ∧ f = .settings .invalidPort
  | .fontSize => ∃ raw, w.fullEnvironment.BadFontSize raw ∧ f = .settings (.invalidFontSize raw)
  | .caseFile => ∃ fault, w.Unreadable r.caseFile fault ∧ f = .file fault
  | .caseData => ∃ text, w.read r.caseFile = .ok (Text.toUtf8 text)
      ∧ (∀ b, Json.decodeText CaseBundle.decode text ≠ .ok b) ∧ f = .caseData
  | .scheduleFile => ∃ fault, r.scheduleFile.map w.read = some (.error fault)
      ∧ fault ≠ .isDirectory ∧ f = .schedule (.file fault)
  | .scheduleRows => ∃ bytes fault, r.scheduleFile.map w.read = some (.ok bytes)
      ∧ ScheduleRecord.columns.FirstFault bytes fault ∧ f = .schedule (.csv fault)
  | .output => ∃ fault, r.outputFile.bind w.writeFault = some fault ∧ f = .file fault

/-! ## Reading text -/

/-- The only fault of a kind is that it does not exist; it tells the text as it was given. -/
theorem DocumentKind.parse_eq_error {raw : String} {e : UnknownDocumentKind}
    (h : parse raw = .error e) : e = ⟨raw⟩ := by
  unfold parse at h
  split at h <;> cases h
  rfl

namespace Workspace

variable {w : Workspace} {path text : String}

theorem readText_eq_error_iff {fault : FileFault} :
    w.readText path = .error fault ↔ w.Unreadable path fault := by
  rw [readText, bind_eq_error_iff, Unreadable]
  refine or_congr_right (exists_congr fun bytes => and_congr_right fun _ => ?_)
  simp only [ne_eq, ← Text.ofUtf8?_eq_some_iff]
  cases Text.ofUtf8? bytes <;> simp [eq_comm]

theorem readText_eq_ok_iff :
    w.readText path = .ok text ↔ w.read path = .ok (Text.toUtf8 text) := by
  constructor
  · intro h
    obtain ⟨bytes, read, decoded⟩ := exists_of_bind_ok h
    split at decoded
    · cases decoded
      rw [read, Text.ofUtf8?_eq_some_iff.mp ‹_›]
    · cases decoded
  · intro read
    rw [readText, read]
    simp only [bind, Except.bind, Text.ofUtf8?_toUtf8]

end Workspace

namespace RenderRequest

variable {r : RenderRequest} {w : Workspace} {f : Failure} {d : DocumentContent}

/-! ## Reading up to the document -/

theorem failsBy_kind :
    FailsBy ((DocumentKind.parse r.kind).mapError Failure.unknownKind) (r.FailsAt w) [.kind] := by
  refine .single fun f => ?_
  unfold FailsAt
  cases parsed : DocumentKind.parse r.kind with
  | ok k => simp [Except.mapError]
  | error e =>
    obtain rfl := DocumentKind.parse_eq_error parsed
    simp [Except.mapError, eq_comm]

theorem failsBy_settings : FailsBy w.settings (r.FailsAt w) [.port, .fontSize] := by
  by_cases bad : w.fullEnvironment.BadPort
  · have failed : Settings.ofEnvironment w.fullEnvironment = .error .invalidPort :=
      Settings.ofEnvironment_eq_error_iff.mpr (.inl ⟨bad, rfl⟩)
    rw [Workspace.settings, failed]
    exact .stop fun f => and_iff_right bad
  · refine .skip (fun f failed => bad failed.1) (.single fun f => ?_)
    simp [Workspace.settings, mapError_eq_error_iff, Settings.ofEnvironment_eq_error_iff, bad,
      FailsAt]

theorem failsBy_readText :
    FailsBy ((w.readText r.caseFile).mapError Failure.file) (r.FailsAt w) [.caseFile] := by
  refine .single fun f => ?_
  simp only [mapError_eq_error_iff, Workspace.readText_eq_error_iff, FailsAt]

theorem readsBy_bundle : (r.bundle w).ReadsBy (r.FailsAt w) [.caseFile, .caseData] := by
  refine Action.ReadsBy.bind_lift failsBy_readText fun text given => ?_
  have read : w.read r.caseFile = .ok (Text.toUtf8 text) :=
    Workspace.readText_eq_ok_iff.mp (mapError_eq_ok_iff.mp given)
  have fails (f : Failure) : r.FailsAt w .caseData f ↔
      (∀ b, Json.decodeText CaseBundle.decode text ≠ .ok b) ∧ f = .caseData := by
    simp only [FailsAt, read, Except.ok.injEq, Text.toUtf8_injective.eq_iff, exists_eq_left']
  cases decoded : Json.decodeText CaseBundle.decode text with
  | ok b => exact .skip (fun f failed => ((fails f).mp failed).1 b decoded) (.pure b)
  | error fault => exact .stop fun f => by simp [fails, decoded]

theorem readsBy_schedule :
    (r.schedule w).ReadsBy (r.FailsAt w) [.scheduleFile, .scheduleRows] := by
  unfold schedule
  cases opened : r.scheduleFile.map w.read with
  | none => exact .skip (by simp [FailsAt, opened]) (.skip (by simp [FailsAt, opened]) (.pure []))
  | some found =>
    cases found with
    | ok bytes =>
      refine .skip (by simp [FailsAt, opened]) (.lift (.single fun f => ?_))
      simp [mapError_eq_error_iff, ScheduleRecord.ofCsv, map_eq_error_iff,
        Csv.Columns.rows_eq_error_iff, FailsAt, opened]
    | error fault =>
      cases fault
      case isDirectory =>
        -- A directory opens, and then there are no rows that could be faulty.
        exact .skip (by simp [FailsAt, opened]) (.skip (by simp [FailsAt, opened]) (.pure []))
      all_goals exact .stop fun f => by simp [FailsAt, opened]

/-- Until the document is there, nothing is done. -/
theorem readsBy_document : (r.document w).ReadsBy (r.FailsAt w) RenderStage.reading :=
  .bind_lift failsBy_kind fun _ _ => .bind_lift failsBy_settings fun _ _ =>
    readsBy_bundle.bind fun _ _ => readsBy_schedule.bind fun _ _ => .pure _

/-! ## Delivering the document -/

theorem execute_deliver_print (place : r.outputFile = none) :
    (r.deliver w d).execute = (.ok (), [.print (d.toJson.pretty ++ "\n")]) := by
  unfold deliver
  rw [place]
  rfl

theorem execute_deliver_write {path : String} (place : r.outputFile = some path)
    (writable : w.writeFault path = none) :
    (r.deliver w d).execute = (.ok (), [.write path d.toJson.pretty]) := by
  unfold deliver Workspace.write
  simp only [place, writable]
  rfl

/-- What cannot be written is not written. -/
theorem execute_deliver_fault {path : String} {fault : FileFault}
    (place : r.outputFile = some path) (bad : w.writeFault path = some fault) :
    (r.deliver w d).execute = (.error (.file fault), []) := by
  unfold deliver Workspace.write
  simp only [place, bad]
  rfl

theorem failsBy_deliver : FailsBy (r.deliver w d).execute.1 (r.FailsAt w) [.output] := by
  refine .single fun f => ?_
  unfold FailsAt
  cases place : r.outputFile with
  | none => simp [execute_deliver_print place]
  | some path =>
    cases writes : w.writeFault path with
    | none => simp [execute_deliver_write place writes, writes]
    | some fault => simp [execute_deliver_fault place writes, writes, eq_comm]

theorem effects_deliver_of_error (failed : (r.deliver w d).execute.1 = .error f) :
    (r.deliver w d).execute.2 = [] := by
  cases place : r.outputFile with
  | none =>
    rw [execute_deliver_print place] at failed
    cases failed
  | some path =>
    cases writes : w.writeFault path with
    | none =>
      rw [execute_deliver_write place writes] at failed
      cases failed
    | some fault => rw [execute_deliver_fault place writes]

/-- Without a document nothing is delivered. -/
theorem execute_of_throw (document : r.document w = throw f) :
    (r.run w).execute = (.error f, []) := by
  unfold run
  rw [document]
  rfl

theorem execute_of_pure (document : r.document w = pure d) :
    (r.run w).execute = (r.deliver w d).execute := by
  unfold run
  rw [document]
  rfl

/-- There is a document, or a reason why there is none. -/
theorem exists_document : (∃ f, r.document w = throw f) ∨ ∃ d, r.document w = pure d := by
  obtain ⟨found, same, -⟩ := readsBy_document (r := r) (w := w)
  cases found with
  | error f => exact .inl ⟨f, same⟩
  | ok d => exact .inr ⟨d, same⟩

/-- The action fails by all stages, in their order. -/
theorem failsBy_result : FailsBy ((Command.render r).result w) (r.FailsAt w) RenderStage.order := by
  obtain ⟨found, same, failsBy⟩ := readsBy_document (r := r) (w := w)
  have parts : (Command.render r).result w = found >>= fun d => (r.deliver w d).execute.1 := by
    unfold Command.result Command.run
    cases found with
    | error f => rw [execute_of_throw same]; rfl
    | ok d => rw [execute_of_pure same]; rfl
  rw [parts]
  exact failsBy.bind fun _ _ => failsBy_deliver

/-- A failure has no effects. -/
theorem effects_of_error (failed : (Command.render r).result w = .error f) :
    (Command.render r).effects w = [] := by
  unfold Command.result Command.run at failed
  unfold Command.effects Command.run
  rcases exists_document (r := r) (w := w) with ⟨_, document⟩ | ⟨d, document⟩
  · rw [execute_of_throw document]
  · rw [execute_of_pure document] at failed ⊢
    exact effects_deliver_of_error failed

end RenderRequest

/-! ## Outcomes -/

@[simp] theorem Outcome.ofEffects_print (text : String) :
    ofEffects [.print text] = { output := text } := by
  simp [ofEffects, after]

namespace RenderRequest

variable {r : RenderRequest} {w : Workspace} {f : Failure} {d : DocumentContent}

/-- Nothing but the failure is left of a request that fails. -/
theorem perform_of_error (failed : (Command.render r).result w = .error f) :
    (Command.render r).perform w = .ofFailure f := by
  unfold Command.perform
  rw [failed, effects_of_error failed]
  rfl

theorem execute_print (document : r.document w = pure d) (place : r.outputFile = none) :
    (r.run w).execute = (.ok (), [.print (d.toJson.pretty ++ "\n")]) := by
  rw [execute_of_pure document, execute_deliver_print place]

theorem execute_write {path : String} (document : r.document w = pure d)
    (place : r.outputFile = some path) (writable : w.writeFault path = none) :
    (r.run w).execute = (.ok (), [.write path d.toJson.pretty]) := by
  rw [execute_of_pure document, execute_deliver_write place writable]

theorem perform_eq_print (document : r.document w = pure d) (place : r.outputFile = none) :
    (Command.render r).perform w = { output := d.toJson.pretty ++ "\n" } := by
  unfold Command.perform Command.result Command.effects Command.run
  rw [execute_print document place]
  exact Outcome.ofEffects_print _

theorem perform_eq_write {path : String} (document : r.document w = pure d)
    (place : r.outputFile = some path) (writable : w.writeFault path = none) :
    (Command.render r).perform w = { written := some (path, d.toJson.pretty) } := by
  unfold Command.perform Command.result Command.effects Command.run
  rw [execute_write document place writable]
  rfl

end RenderRequest

end EstateFiling
