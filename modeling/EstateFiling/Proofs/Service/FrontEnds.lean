import EstateFiling.Command.FileTree
import EstateFiling.Proofs.Document.RoundTrip
import EstateFiling.Proofs.Service.Requests

/-!
# The front ends agree

A document can be asked for in two ways: of the service, whose style is worked out once when it
starts, and on the command line, which reads the settings and the case anew and may add the
lines of a schedule file to the case.  Both write the same document for the same kind and case,
and both refuse a kind that does not exist with the same failure (`Service.front_ends_agree`).
-/

namespace EstateFiling

/-- A kind that exists has a name. -/
theorem DocumentKind.ne_empty_of_parse {raw : String} {k : DocumentKind}
    (h : parse raw = .ok k) : raw ≠ "" := by
  rintro rfl
  cases h

/-! ## The service -/

namespace Service

/-- The service under some settings, perhaps on another host and port. -/
def running (settings : Settings) (host : Option String) (port : Option UInt16) (ready : Bool) :
    Service :=
  { ofSettings (settings.listeningOn host port) with ready := ready }

/-- The service writes a document for a kind and a case, and answers requests with it. -/
structure Answers (s : Service) (kind : String) (b : CaseBundle) (d : DocumentContent) : Prop where
  /-- The handler writes the document. -/
  rendered : s.render kind b = .ok d
  /-- Every request for the kind that is about the case is answered with the document. -/
  response : ∀ r : Request, r.AsksFor kind → r.bundle = .ok b → s.respond r = .json 200 d.toJson

/-- The service refuses a kind for every case. -/
structure Refuses (s : Service) (kind : String) (f : Failure) : Prop where
  /-- The handler fails. -/
  rendered : ∀ b, s.render kind b = .error f
  /-- Every request for the kind is answered with the failure. -/
  response : ∀ (r : Request) (b : CaseBundle), r.AsksFor kind → r.bundle = .ok b →
    s.respond r = .failure f

section Running

variable (settings : Settings) (host : Option String) (port : Option UInt16) (ready : Bool)
  {kind : String}

theorem answers_running {k : DocumentKind} (known : DocumentKind.parse kind = .ok k)
    (b : CaseBundle) :
    (running settings host port ready).Answers kind b (b.document settings.documents k) := by
  have rendered : (running settings host port ready).render kind b =
      .ok (b.document settings.documents k) := by
    unfold render
    rw [known]
    rfl
  refine ⟨rendered, fun r asks carries => ?_⟩
  rw [respond_of_asksFor _ asks carries, rendered]

theorem refuses_running {e : UnknownDocumentKind} (unknown : DocumentKind.parse kind = .error e) :
    (running settings host port ready).Refuses kind (.unknownKind ⟨kind⟩) := by
  have rendered : ∀ b, (running settings host port ready).render kind b =
      .error (.unknownKind ⟨kind⟩) := by
    intro b
    unfold render
    rw [unknown, DocumentKind.parse_eq_error unknown]
    rfl
  refine ⟨rendered, fun r b asks carries => ?_⟩
  rw [respond_of_asksFor _ asks carries, rendered]

end Running

end Service

/-! ## The command -/

namespace RenderRequest

/-- The command writes a document to the file that is asked for, or prints it if none is. -/
structure HandsOver (r : RenderRequest) (w : Workspace) (d : DocumentContent) : Prop where
  /-- The program succeeds. -/
  exitCode : ((Command.render r).perform w).exitCode = 0
  /-- Nothing is printed as an error. -/
  errors : ((Command.render r).perform w).errors = ""
  /-- The file that is written is the one that is asked for. -/
  place : ((Command.render r).perform w).written.map Prod.fst = r.outputFile
  /-- The text that is written, or else the text that is printed, reads back as the document. -/
  content : Json.decodeText DocumentContent.decode
    ((((Command.render r).perform w).written.map Prod.snd).getD
      ((Command.render r).perform w).output) = .ok d

variable {r : RenderRequest} {w : Workspace}

theorem handsOver_of_document {d : DocumentContent} (document : r.document w = pure d)
    (writable : ∀ path ∈ r.outputFile, w.writeFault path = none) : r.HandsOver w d := by
  cases place : r.outputFile with
  | none =>
    have lineEnd : ∀ c ∈ "\n".toList, Json.Token.isSpace c = true :=
      List.forall_mem_singleton.mpr rfl
    constructor <;> rw [perform_eq_print document place]
    · rw [place, Option.map_none]
    · exact d.decodeText_pretty lineEnd
  | some path =>
    constructor <;> rw [perform_eq_write document place (writable path place)]
    · rw [place, Option.map_some]
    · have reads : Json.decodeText DocumentContent.decode (d.toJson.pretty ++ "") = .ok d :=
        d.decodeText_pretty (List.forall_mem_nil _)
      rwa [String.append_empty] at reads

/-- A command for a kind that exists writes the document of the case with the lines of the
schedule. -/
theorem document_eq {k : DocumentKind} {settings : Settings} {b : CaseBundle}
    {lines : List ScheduleRecord} (known : DocumentKind.parse r.kind = .ok k)
    (configured : w.settings = .ok settings) (bundle : r.bundle w = pure b)
    (schedule : r.schedule w = pure lines) :
    r.document w =
      pure ({ b with schedules := b.schedules ++ lines }.document settings.documents k) := by
  unfold document
  rw [known, configured, bundle, schedule]
  rfl

theorem bundle_eq {text : String} {b : CaseBundle} (read : w.readText r.caseFile = .ok text)
    (decodes : Json.decodeText CaseBundle.decode text = .ok b) : r.bundle w = pure b := by
  have given : (liftM ((w.readText r.caseFile).mapError Failure.file) : Action String) =
      pure text := by
    rw [read]
    rfl
  unfold bundle
  rw [given, pure_bind, decodes]

/-- A kind that does not exist is refused before anything is read. -/
theorem perform_of_unknownKind {e : UnknownDocumentKind}
    (unknown : DocumentKind.parse r.kind = .error e) :
    (Command.render r).perform w = .ofFailure (.unknownKind ⟨r.kind⟩) := by
  have document : r.document w = throw (.unknownKind ⟨r.kind⟩) := by
    unfold document
    rw [unknown, DocumentKind.parse_eq_error unknown]
    rfl
  refine perform_of_error ?_
  unfold Command.result Command.run
  rw [execute_of_throw document]

end RenderRequest

/-! ## Agreement -/

namespace Service

/-- The service and the command agree.

For a kind that exists and a text that is the data of a case, there is a document that the
service answers every request for the kind with that carries the text, and that the command
hands over for a file with the text; with a schedule file, the command hands over what the
service answers for the case with the lines of the file after its own.  Every such text that is
not too large is carried by a request for the kind.

A kind that does not exist is refused by both, whatever the case, with the failure that tells
the text that was given as the kind. -/
theorem front_ends_agree {w : Workspace} {settings : Settings}
    (configured : w.settings = .ok settings) (host : Option String) (port : Option UInt16)
    (ready : Bool) (kind : String) :
    (∀ k, DocumentKind.parse kind = .ok k →
      ∀ text b, Json.decodeText CaseBundle.decode text = .ok b →
      (∀ r : Request, r.Carries text → r.bundle = .ok b)
      ∧ ((Text.toUtf8 text).length ≤ Request.maxBody →
          ∃ r : Request, r.AsksFor kind ∧ r.Carries text)
      ∧ ∃ t, (running settings host port ready).Answers kind b t
        ∧ ∀ caseFile out, w.readText caseFile = .ok text →
          (∀ path ∈ out, w.writeFault path = none) →
          RenderRequest.HandsOver ⟨kind, caseFile, none, out⟩ w t
          ∧ ∀ csv bytes lines, w.read csv = .ok bytes → ScheduleRecord.ofCsv bytes = .ok lines →
            ∃ t', (running settings host port ready).Answers kind
                { b with schedules := b.schedules ++ lines } t'
              ∧ RenderRequest.HandsOver ⟨kind, caseFile, some csv, out⟩ w t')
    ∧ ∀ e, DocumentKind.parse kind = .error e →
      e = ⟨kind⟩
      ∧ (Response.failure (.unknownKind e)).status = 404
      ∧ (running settings host port ready).Refuses kind (.unknownKind e)
      ∧ ∀ r : RenderRequest, r.kind = kind →
        (Command.render r).perform w = .ofFailure (.unknownKind e) := by
  refine ⟨fun k known text b decodes => ?_, fun e unknown => ?_⟩
  · have bundle (r : RenderRequest) (read : w.readText r.caseFile = .ok text) :
        r.bundle w = pure b := RenderRequest.bundle_eq read decodes
    have answers (b : CaseBundle) := answers_running settings host port ready known b
    refine ⟨fun r carries => Request.bundle_of_carries carries decodes, fun admitted => ?_,
      b.document settings.documents k, answers b, fun caseFile out read writable => ⟨?_, ?_⟩⟩
    · have named : kind ≠ "" := DocumentKind.ne_empty_of_parse known
      exact ⟨.ofCase kind text, Request.asksFor_ofCase named, Request.carries_ofCase admitted⟩
    · have schedule : RenderRequest.schedule ⟨kind, caseFile, none, out⟩ w = pure [] := rfl
      have document := RenderRequest.document_eq (r := ⟨kind, caseFile, none, out⟩) known
        configured (bundle _ read) schedule
      rw [List.append_nil] at document
      exact RenderRequest.handsOver_of_document document writable
    · intro csv bytes lines found imports
      have schedule : RenderRequest.schedule ⟨kind, caseFile, some csv, out⟩ w = pure lines := by
        simp only [RenderRequest.schedule, Option.map_some, found, imports, Except.mapError]
        rfl
      exact ⟨_, answers _, RenderRequest.handsOver_of_document
        (RenderRequest.document_eq known configured (bundle _ read) schedule) writable⟩
  · obtain rfl := DocumentKind.parse_eq_error unknown
    refine ⟨rfl, rfl, refuses_running settings host port ready unknown, ?_⟩
    rintro r rfl
    exact RenderRequest.perform_of_unknownKind unknown

/-- The bytes of a schedule with one line. -/
def houseLines : List UInt8 :=
  Text.toUtf8 "Category,Description,Value\nReal Property,House,250000\n"

/-- A directory with a case that says nothing and a schedule with one line. -/
def houseFiles : FileTree where
  files := [(["case.json"], Text.toUtf8 "\x7b\x7d"), (["lines.csv"], houseLines)]
  working := []

/-- Without any settings, the command and the service write the same affidavit of assets for a
case that says nothing, and the same again with a house, and neither knows a form P4. -/
theorem front_ends_agree_on_house : ∃ settings, (houseFiles.workspace {}).settings = .ok settings
    ∧ (∃ t, (running settings none none true).Answers "p10" {} t
      ∧ RenderRequest.HandsOver ⟨"p10", "case.json", none, none⟩ (houseFiles.workspace {}) t)
    ∧ (∃ t, (running settings none none true).Answers "p10"
          { schedules := [⟨"Real Property", "House", some (.string "250000"), none, none⟩] } t
      ∧ RenderRequest.HandsOver ⟨"p10", "case.json", some "lines.csv", none⟩
          (houseFiles.workspace {}) t)
    ∧ (running settings none none true).Refuses "P4" (.unknownKind ⟨"P4"⟩) := by
  obtain ⟨settings, configured⟩ :
      ∃ settings, (houseFiles.workspace {}).settings = .ok settings := ⟨_, rfl⟩
  have decodes : Json.decodeText CaseBundle.decode "\x7b\x7d" = .ok {} := by cbv
  have found : (houseFiles.workspace {}).readText "case.json" = .ok "\x7b\x7d" :=
    Workspace.readText_eq_ok_iff.mpr (by rfl)
  have rows : ScheduleRecord.columns.rows houseLines =
      .ok [[("Category", "Real Property"), ("Description", "House"), ("Value", "250000")]] := by
    decide +kernel
  have imports : ScheduleRecord.ofCsv houseLines =
      .ok [⟨"Real Property", "House", some (.string "250000"), none, none⟩] := by
    rw [ScheduleRecord.ofCsv, rows]
    rfl
  obtain ⟨-, -, t, answers, handsOver⟩ :=
    (front_ends_agree configured none none true "p10").1 _ rfl _ _ decodes
  obtain ⟨prints, withSchedule⟩ := handsOver "case.json" none found (by simp)
  exact ⟨settings, configured, ⟨t, answers, prints⟩, withSchedule "lines.csv" _ _ rfl imports,
    ((front_ends_agree configured none none true "P4").2 _ rfl).2.2.1⟩

end Service

end EstateFiling
