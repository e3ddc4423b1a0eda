import EstateFiling.Proofs.Command.Files
import EstateFiling.Proofs.Command.Rendering

/-!
# What a failure leaves behind

Whether a stage fails depends on what it finds alone (`RenderRequest.failsAt_congr`).  So of
everything that is bad the earliest stage tells, whatever the later stages would find, and a
failure has no effects: nothing is printed and every file is as it was.  Otherwise the document
is all that is delivered, to one place (`RenderRequest.earliest_stage_decides`).
-/

namespace EstateFiling

namespace RenderStage

/-- A stage and the ones before it. -/
def upTo (stage : RenderStage) : List RenderStage :=
  order.takeWhile (· != stage) ++ [stage]

/-- A stage finds the same for two requests in a workspace each. -/
def FindsSame (r : RenderRequest) (w : Workspace) (r' : RenderRequest) (w' : Workspace) :
    RenderStage → Prop
  | .kind => r'.kind = r.kind
  | .port => w'.fullEnvironment.get? "APP_PORT" = w.fullEnvironment.get? "APP_PORT"
  | .fontSize => w'.fullEnvironment.get? "DOCS_FONT_SIZE" = w.fullEnvironment.get? "DOCS_FONT_SIZE"
  | .caseFile | .caseData => w'.read r'.caseFile = w.read r.caseFile
  | .scheduleFile | .scheduleRows => r'.scheduleFile.map w'.read = r.scheduleFile.map w.read
  | .output => r'.outputFile.bind w'.writeFault = r.outputFile.bind w.writeFault

end RenderStage

/-! ## What a command leaves behind -/

namespace Outcome

/-- Nothing is printed, no file is written and every file is as it was. -/
structure LeavesNothing (o : Outcome) : Prop where
  /-- Nothing is printed. -/
  output : o.output = ""
  /-- No file is written. -/
  written : o.written = none
  /-- Every tree of files is as it was. -/
  tree : ∀ t : FileTree, t.after o = t

/-- A text is printed as a line, and every file is as it was. -/
structure Prints (o : Outcome) (text : String) : Prop where
  /-- The text is printed. -/
  output : o.output = text ++ "\n"
  /-- No file is written. -/
  written : o.written = none
  /-- Every tree of files is as it was. -/
  tree : ∀ t : FileTree, t.after o = t

/-- A text is written to a file, nothing is printed and every other file is as it was. -/
structure Writes (o : Outcome) (w : Workspace) (path text : String) : Prop where
  /-- Nothing is printed. -/
  output : o.output = ""
  /-- The file is written. -/
  written : o.written = some (path, text)
  /-- The file holds the text in every tree in which the workspace writes. -/
  holds : ∀ t : FileTree, t.writeFault = w.writeFault →
    (t.after o).read path = .ok (Text.toUtf8 text)
  /-- Every other file is as it was. -/
  others : ∀ (t : FileTree) (place : Location), t.target path ≠ .ok place →
    (t.after o).files.lookup place = t.files.lookup place

variable {w : Workspace} {path text : String}

theorem leavesNothing_ofFailure (f : Failure) : (ofFailure f).LeavesNothing where
  output := rfl
  written := rfl
  tree _ := FileTree.after_of_written_eq_none rfl

theorem prints_line (text : String) : ({ output := text ++ "\n" } : Outcome).Prints text where
  output := rfl
  written := rfl
  tree _ := FileTree.after_of_written_eq_none rfl

theorem writes_file (text : String) (good : w.writeFault path = none) :
    ({ written := some (path, text) } : Outcome).Writes w path text where
  output := rfl
  written := rfl
  holds t same := by
    rw [FileTree.after_of_written_eq_some rfl]
    exact FileTree.read_write (same ▸ good)
  others t place other := by
    rw [FileTree.after_of_written_eq_some rfl]
    exact FileTree.lookup_write_of_ne other

theorem Prints.not_writes {o : Outcome} (h : o.Prints text) : ¬ o.Writes w path text := by
  intro h'
  have written := h'.written
  rw [h.written] at written
  cases written

end Outcome

namespace RenderRequest

variable {r r' : RenderRequest} {w w' : Workspace} {stage : RenderStage} {f : Failure}

/-- Whether a stage fails depends on what it finds alone. -/
theorem failsAt_congr (same : stage.FindsSame r w r' w') :
    r'.FailsAt w' stage f ↔ r.FailsAt w stage f := by
  cases stage
  case port =>
    unfold FailsAt Environment.BadPort
    rw [same]
  case fontSize =>
    unfold FailsAt Environment.BadFontSize
    rw [same]
  case caseFile =>
    unfold FailsAt Workspace.Unreadable
    rw [same]
  all_goals
    simp only [RenderStage.FindsSame] at same
    simp only [FailsAt, same]

theorem failsFirst_congr (h : FailsFirst (r.FailsAt w) RenderStage.order stage f)
    (same : ∀ s ∈ stage.upTo, s.FindsSame r w r' w') :
    FailsFirst (r'.FailsAt w') RenderStage.order stage f :=
  h.congr fun s known _ => failsAt_congr (same s known)

/-- The earliest stage decides.

The command fails exactly as the first stage that fails.  It then has no effects and leaves
nothing behind, and so does every command for which the stages up to that one find the same,
whatever the later ones find: all of them fail in the same way.

If no stage fails, exactly one of the file that is given and the output receives the document,
and that is the only effect: the file, if one is given, and the output otherwise. -/
theorem earliest_stage_decides (r : RenderRequest) (w : Workspace) :
    (∀ f, (Command.render r).result w = .error f ↔
      FirstFailure (r.FailsAt w) RenderStage.order f)
    ∧ (∀ stage f, FailsFirst (r.FailsAt w) RenderStage.order stage f →
        ∀ r' w', (∀ s ∈ stage.upTo, s.FindsSame r w r' w') →
          (Command.render r').effects w' = []
          ∧ (Command.render r').perform w' = .ofFailure f
          ∧ ((Command.render r').perform w').LeavesNothing)
    ∧ ((∀ stage f, ¬ r.FailsAt w stage f) →
        ((Command.render r).perform w).exitCode = 0
        ∧ ∃ d, r.document w = pure d
          ∧ (∀ path, r.outputFile = some path →
              (Command.render r).effects w = [.write path d.toJson.pretty]
              ∧ ((Command.render r).perform w).Writes w path d.toJson.pretty)
          ∧ (r.outputFile = none →
              (Command.render r).effects w = [.print (d.toJson.pretty ++ "\n")]
              ∧ ((Command.render r).perform w).Prints d.toJson.pretty)
          ∧ Xor (∃ path, ((Command.render r).perform w).Writes w path d.toJson.pretty)
              (((Command.render r).perform w).Prints d.toJson.pretty)) := by
  refine ⟨failsBy_result, fun stage f first r' w' same => ?_, fun good => ?_⟩
  · have failed : (Command.render r').result w' = .error f :=
      (failsBy_result f).mpr ⟨stage, failsFirst_congr first same⟩
    rw [perform_of_error failed]
    exact ⟨effects_of_error failed, rfl, Outcome.leavesNothing_ofFailure f⟩
  obtain ⟨d, document⟩ := readsBy_document.exists_pure fun stage _ f => good stage f
  cases given : r.outputFile with
  | none =>
    have effects := congrArg Prod.snd (execute_print document given)
    rw [perform_eq_print document given]
    have prints := Outcome.prints_line d.toJson.pretty
    exact ⟨rfl, d, document, nofun, fun _ => ⟨effects, prints⟩,
      .inr ⟨prints, fun ⟨_, writes⟩ => prints.not_writes writes⟩⟩
  | some path =>
    have writable : w.writeFault path = none := by
      refine Option.eq_none_iff_forall_ne_some.mpr fun fault bad => ?_
      have found : r.outputFile.bind w.writeFault = some fault := by rw [given]; exact bad
      exact good .output (.file fault) ⟨fault, found, rfl⟩
    have effects := congrArg Prod.snd (execute_write document given writable)
    rw [perform_eq_write document given writable]
    have writes := Outcome.writes_file d.toJson.pretty writable
    refine ⟨rfl, d, document, ?_, nofun,
      .inl ⟨⟨path, writes⟩, fun prints => prints.not_writes writes⟩⟩
    rintro _ ⟨⟩
    exact ⟨effects, writes⟩

end RenderRequest

end EstateFiling
