import BrowserFlow.Proofs.Store.Temporary
import BrowserFlow.Proofs.Text.Lines
import BrowserFlow.Proofs.Text.Utf8

namespace BrowserFlow.ScriptStore

theorem tryCatch_throws {α : Type} {x : FileM α} {handle : Fault → FileM α} {files after : Files} {a : α}
    (throws : ∀ fault mid b end', (handle fault).outcome mid ≠ (.ok b, end'))
    (h : FileM.outcome (tryCatch x handle) files = (.ok a, after)) : x.outcome files = (.ok a, after) := by
  rcases FileM.tryCatch_ok h with done | ⟨fault, mid, _, handled⟩
  · exact done
  · exact absurd handled (throws fault mid a after)

/-- What has been replaced is in its place, and everything else is as it was. -/
theorem replaceFile_put {s : ScriptStore} {path : Path} {text : String} {files after : Files}
    (h : (s.replaceFile path text).outcome files = (.ok (), after)) : '/' ∉ s.suffix.toList ∧ ∃ goal,
      files.locate path = .ok goal ∧ files.node? goal ≠ some .directory ∧
        after = files.put goal (.file (Utf8.encode text.toList)) := by
  rw [replaceFile, FileM.get_bind] at h
  dsimp only at h
  split at h
  · cases h
  rename_i whole
  refine ⟨by simpa using whole, ?_⟩
  obtain ⟨_, mid, written, h⟩ := FileM.bind_ok h
  obtain ⟨temporary, placed, file, rfl⟩ := FileM.writeBytes_ok written
  have free := s.temporaryPath_free files placed
  have renamed := tryCatch_throws (by
    intro fault mid b end' handled
    obtain ⟨_, _, _, thrown⟩ := FileM.bind_ok handled
    cases thrown) h
  obtain ⟨bytes, place, goal, read, left, reached, open', rfl⟩ := FileM.rename_ok renamed
  have keeps := Files.keepsDirectories_put file (.file (Utf8.encode text.toList))
  rw [Files.locate_keeps keeps placed] at left
  cases left
  have held := Files.node?_put files (.file (Utf8.encode text.toList)) (Files.not_base_of_file file)
  rw [Files.readBytes, Files.locate_keeps keeps placed] at read
  simp only [Bind.bind, Except.bind, held] at read
  cases read
  have occupied : (files.put temporary (.file (Utf8.encode text.toList))).node? temporary ≠ some .directory := by
    rw [held]
    nofun
  have back := Files.keepsDirectories_erase occupied
  rw [Files.erase_put free] at back ⊢
  refine ⟨goal, Files.locate_keeps back reached, fun directory => ?_, rfl⟩
  exact open' (keeps goal directory)

/-- A script that has been written is in its place, and everything else is as it was. -/
theorem write_put {s : ScriptStore} {id text : String} {files after : Files}
    (h : (s.write id text).outcome files = (.ok (), after)) : '/' ∉ s.suffix.toList ∧ ∃ path goal,
      s.path id = .ok path ∧ files.locate path = .ok goal ∧ files.node? goal ≠ some .directory ∧
        after = files.put goal (.file (Utf8.encode text.toList)) := by
  rw [write] at h
  split at h
  · cases h
  · obtain ⟨path, named, h⟩ := FileM.lift_bind_ok h
    have replaced : (s.replaceFile path text).outcome files = (.ok (), after) :=
      tryCatch_throws (fun fault mid b end' thrown => by cases thrown) h
    obtain ⟨whole, goal, reached, open', same⟩ := replaceFile_put replaced
    exact ⟨whole, path, goal, named, reached, open', same⟩

theorem write_ok {s : ScriptStore} {id text : String} {files after : Files}
    (h : (s.write id text).outcome files = (.ok (), after)) : ∃ path, s.path id = .ok path ∧
      after.find path = .ok (some (.file (Utf8.encode text.toList))) := by
  obtain ⟨_, path, goal, named, reached, open', rfl⟩ := write_put h
  refine ⟨path, named, ?_⟩
  rw [Files.find_of_locate (Files.locate_keeps (Files.keepsDirectories_put open' _) reached),
    Files.node?_put _ _ (Files.not_base_of_file open')]

theorem readText_encoded {files : Files} {path : Path} {text : String}
    (written : files.find path = .ok (some (.file (Utf8.encode text.toList)))) :
    files.readText path = .ok (String.ofList (Text.unifyNewlines text.toList)) := by
  obtain ⟨place, reached, held⟩ := Files.locate_of_find written
  have bytes : files.readBytes path = .ok (Utf8.encode text.toList) := by
    rw [Files.readBytes, reached]
    simp only [Bind.bind, Except.bind, held]
    rfl
  rw [Files.readText, bytes]
  simp only [Bind.bind, Except.bind, Utf8.decode_encode]
  rfl

theorem read_encoded {s : ScriptStore} {files : Files} {id text : String} {path : Path} (named : s.path id = .ok path)
    (written : files.find path = .ok (some (.file (Utf8.encode text.toList)))) :
    s.read files id = .ok (String.ofList (Text.unifyNewlines text.toList)) := by
  have existing : s.existing files id = .ok path := by
    rw [ScriptStore.existing, named]
    simp only [Bind.bind, Except.bind, written]
    rfl
  rw [ScriptStore.read, existing]
  simp only [Bind.bind, Except.bind, readText_encoded written]
  rfl

theorem read_written {s : ScriptStore} {files : Files} {id text : String} {path : Path} (named : s.path id = .ok path)
    (written : files.find path = .ok (some (.file (Utf8.encode text.toList))))
    (plain : Text.unifyNewlines text.toList = text.toList) : s.read files id = .ok text := by
  rw [read_encoded named written, plain, String.ofList_toList]

/-- A script that cannot be read is the store's own error, unless its name is too long for a file. -/
theorem read_fault {s : ScriptStore} {files : Files} {id : String} {fault : Fault}
    (fails : s.read files id = .error fault) :
    (∃ e, fault = .flow e) ∨ ∃ shown, fault = .file .nameTooLong shown := by
  rcases bind_error fails with fails | ⟨path, found, fails⟩
  · rcases bind_error fails with fails | ⟨path, _, fails⟩
    · unfold ScriptStore.path at fails
      split at fails <;> cases fails
      exact .inl ⟨_, rfl⟩
    · rcases bind_error fails with fails | ⟨node, _, fails⟩
      · unfold Files.find at fails
        split at fails <;> cases fails
        exact .inr ⟨_, rfl⟩
      · split at fails <;> cases fails
        exact .inl ⟨_, rfl⟩
  · obtain ⟨_, _, found⟩ := bind_ok found
    obtain ⟨node, found, there⟩ := bind_ok found
    cases node with
    | none => cases there
    | some node =>
      cases there
      obtain ⟨place, reached, held⟩ := Files.locate_of_find found
      rw [Files.readText, Files.readBytes, reached] at fails
      simp only [Bind.bind, Except.bind, held] at fails
      cases node with
      | directory =>
        cases fails
        exact .inl ⟨_, rfl⟩
      | file bytes =>
        cases decoded : Utf8.decode bytes with
        | ok cs =>
          simp only [Pure.pure, Except.pure, decoded] at fails
          cases fails
        | error refusal =>
          simp only [Pure.pure, Except.pure, decoded] at fails
          cases fails
          exact .inl ⟨_, rfl⟩

end BrowserFlow.ScriptStore
