import BrowserFlow.Proofs.Script.Description

/-!
What keeps a text from having a summary: a creation time in its header that falls out of the years 1 to 9999 when it is
taken to universal time. Nothing else in a script does, and the target site is the first page that it goes to.
-/

namespace BrowserFlow.Script

/-- The text of a time with a final `Z` written as an offset. -/
def zoned (cs : List Char) : List Char :=
  if (Text.trim cs).getLast? = some 'Z' then (Text.trim cs).dropLast ++ "+00:00".toList else Text.trim cs

/-- A date that lies outside the years 1 to 9999 in universal time. -/
def IsLost (cs : List Char) : Prop := ∃ reading, Iso8601.read? (zoned cs) = some reading ∧
  (⟨reading.micros - reading.offset.getD 0⟩ : Instant).isRepresentable = false

theorem readTimestamp_error {cs : List Char} {fault : Fault} :
    readTimestamp cs = .error fault ↔ fault = .dateOutOfRange ∧ IsLost cs := by
  have same : (if ((Text.trim cs).getLast? == some 'Z') = true then (Text.trim cs).dropLast ++ "+00:00".toList
      else Text.trim cs) = zoned cs := by simp [zoned]
  unfold readTimestamp IsLost
  dsimp only
  rw [same]
  cases read : Iso8601.read? (zoned cs) with
  | none => simp
  | some reading =>
    simp only [Option.some.injEq, exists_eq_left']
    split
    · rename_i representable
      exact ⟨nofun, fun ⟨_, lost⟩ => by cases representable.symm.trans lost⟩
    · rename_i lost
      refine ⟨fun fails => ?_, ?_⟩
      · cases fails
        exact ⟨rfl, Bool.eq_false_iff.mpr lost⟩
      · rintro ⟨rfl, _⟩
        rfl

/-- The line of a creation time that is lost. -/
def LosesTime (line : List Char) : Prop := ∃ rest, expect createdMarker.toList line = some rest ∧ IsLost rest

/-- The page that a line goes to. -/
def Statement.page? : Statement → Option String
  | navigate url => some url
  | _ => none

/-- The first page that a script goes to. -/
def firstPage? (text : String) : Option String := (commands text).findSome? (·.statement.page?)

theorem page?_ofCall? (cs : List Char) : (Statement.ofCall? cs).bind Statement.page? = textCall? "goto" cs := by
  rw [ofCall?_calls, calls, List.findSome?_cons, readCall_text "goto" fun _ => rfl]
  cases textCall? "goto" cs with
  | some url => rfl
  | none =>
    -- no other call has the name that a page is gone to by
    refine Option.bind_eq_none_iff.mpr fun t found => ?_
    obtain ⟨call, other, read⟩ := List.exists_of_findSome?_eq_some found
    obtain ⟨⟨s, rest⟩, taken, rfl⟩ := Option.map_eq_some_iff.mp read
    obtain ⟨_, _, captured⟩ := Option.bind_eq_some_iff.mp taken
    obtain ⟨_, _, named, _⟩ := calls_some (List.mem_cons_of_mem _ other) captured
    have apart := (List.nodup_cons.mp calls_apart).1
    cases s with
    | navigate url =>
      have again : call.1 ∈ _ := List.mem_map_of_mem other
      rw [← named] at again
      exact absurd again apart
    | _ => rfl

theorem page?_ofLine? (line : List Char) :
    (Statement.ofLine? line).bind Statement.page? = textCall? "goto" line := by
  unfold Statement.ofLine?
  split
  · rename_i importing
    obtain ⟨rest, rfl⟩ := expect_isSome.mp importing
    rfl
  · split
    · rename_i slashes
      obtain ⟨rest, rfl⟩ := expect_isSome.mp slashes
      cases expect manualStepMarker.toList ("//".toList ++ rest) <;> rfl
    · exact page?_ofCall? line

theorem firstPage?_lines (text : String) :
    firstPage? text = ((Text.splitLines text.toList).map Text.trim).findSome? (textCall? "goto") := by
  have line (n : Nat) (raw : List Char) :
      ((Command.ofLine? n raw).bind fun c => c.statement.page?) = textCall? "goto" (Text.trim raw) := by
    rw [← page?_ofLine?, Command.ofLine?]
    exact Option.bind_map ..
  rw [firstPage?, commands, ← List.head?_filterMap, List.filterMap_filterMap, List.head?_filterMap]
  simp only [line]
  conv_rhs => rw [← List.zipIdx_map_fst 1 (Text.splitLines text.toList), List.map_map, List.findSome?_map]
  rfl

/-- The lines up to the first statement, without the blanks around them. -/
def headerLines (text : String) : List (List Char) :=
  ((Text.splitLines text.toList).map Text.trim).takeWhile Scan.isHeaderLine

namespace Scan

theorem readBody_site (s : Scan) (line : List Char) :
    (s.readBody line).targetSite = (s.targetSite <|> textCall? "goto" line) := by
  unfold readBody
  split
  · rename_i marked
    obtain ⟨rest, read⟩ := Option.isSome_iff_exists.mp marked
    have none : textCall? "goto" line = none := by
      rw [expect_some read]
      rfl
    dsimp only
    rw [none, Option.orElse_eq_orElse, Option.orElse_eq_or, Option.or_none]
  · split
    · rename_i name named
      have opens : testName? line = some name := by
        split at named
        · exact named
        · cases named
      obtain ⟨rest, read, _⟩ := Option.bind_eq_some_iff.mp opens
      have none : textCall? "goto" line = none := by
        rw [expect_some read]
        rfl
      dsimp only
      rw [none, Option.orElse_eq_orElse, Option.orElse_eq_or, Option.or_none]
    · split
      · rename_i site
        dsimp only
        rw [site]
        rfl
      · rename_i site
        dsimp only
        rw [site]
        rfl

/-- A line with a field of the header is a comment. -/
theorem field_line {word line rest : List Char} {inner : List Char} (comment : word = '/' :: '/' :: inner)
    (read : expect word line = some rest) : isHeaderLine line = true ∧ textCall? "goto" line = none := by
  rw [expect_some read, comment]
  exact ⟨rfl, rfl⟩

/-- A line of a scan: either it is read, goes on with the header if it belongs there and tells the first page, or it is
    a line of the header that loses its time. -/
inductive Reads (s : Scan) (raw : List Char) : Except Fault Scan → Prop
  | read {t : Scan} (header : t.inHeader = (s.inHeader && isHeaderLine (Text.trim raw)))
      (site : t.targetSite = (s.targetSite <|> textCall? "goto" (Text.trim raw)))
      (kept : s.inHeader = true → ¬LosesTime (Text.trim raw)) : Reads s raw (.ok t)
  | lost (header : s.inHeader = true) (comment : isHeaderLine (Text.trim raw) = true)
      (loses : LosesTime (Text.trim raw)) : Reads s raw (.error .dateOutOfRange)

theorem readLine_reads (s : Scan) (raw : List Char) : Reads s raw (s.readLine raw) := by
  have body (kept : s.inHeader = true → ¬LosesTime (Text.trim raw)) : Reads s raw (.ok (s.readBody (Text.trim raw))) :=
    .read (readBody_inHeader s _) (readBody_site s _) kept
  unfold readLine
  dsimp only
  split
  · rename_i after
    exact body fun header => by simp [header] at after
  · rename_i header
    have header : s.inHeader = true := by simpa using header
    have field {word rest inner : List Char} (comment : word = '/' :: '/' :: inner)
        (read : expect word (Text.trim raw) = some rest) {t : Scan} (inHeader : t.inHeader = s.inHeader)
        (site : t.targetSite = s.targetSite) (kept : ¬LosesTime (Text.trim raw)) : Reads s raw (.ok t) := by
      obtain ⟨goesOn, none⟩ := field_line comment read
      refine .read ?_ ?_ fun _ => kept
      · rw [inHeader, goesOn, Bool.and_true]
      · rw [site, none, Option.orElse_eq_orElse, Option.orElse_eq_or, Option.or_none]
    split
    · rename_i rest read
      refine field rfl read rfl rfl ?_
      rintro ⟨_, created, _⟩
      rw [expect_some read] at created
      cases created
    · split
      · rename_i rest read
        cases time : readTimestamp rest with
        | ok t =>
          refine field rfl read rfl rfl ?_
          rintro ⟨other, created, lost⟩
          cases read.symm.trans created
          cases time.symm.trans (readTimestamp_error.mpr ⟨rfl, lost⟩)
        | error fault =>
          obtain ⟨rfl, lost⟩ := readTimestamp_error.mp time
          exact .lost header (field_line rfl read).1 ⟨rest, read, lost⟩
      · rename_i created
        have kept : ¬LosesTime (Text.trim raw) := by
          rintro ⟨_, time, _⟩
          cases created.symm.trans time
        split
        · rename_i rest read
          exact field rfl read rfl rfl kept
        · exact body fun _ => kept

/-- A scan of lines, with the header so far: either they are all read, or a line of the header loses its time. -/
theorem scan_reads (s : Scan) (lines : List (List Char)) :
    (∃ t, lines.foldlM readLine s = .ok t ∧
      t.targetSite = (s.targetSite <|> (lines.map Text.trim).findSome? (textCall? "goto")) ∧
      (s.inHeader = true → ∀ line ∈ (lines.map Text.trim).takeWhile isHeaderLine, ¬LosesTime line)) ∨
    lines.foldlM readLine s = .error .dateOutOfRange ∧ s.inHeader = true ∧
      ∃ line ∈ (lines.map Text.trim).takeWhile isHeaderLine, LosesTime line := by
  induction lines generalizing s with
  | nil => exact .inl ⟨s, rfl, by simp [Option.orElse_eq_orElse], by simp⟩
  | cons raw lines ih =>
    rw [List.foldlM_cons, List.map_cons, List.takeWhile_cons]
    have reads := readLine_reads s raw
    generalize s.readLine raw = result at reads
    cases reads with
    | lost header comment loses =>
      rw [if_pos comment]
      exact .inr ⟨rfl, header, _, List.mem_cons_self, loses⟩
    | @read t inHeader site kept =>
      rcases ih t with ⟨u, read, later, header⟩ | ⟨fails, header, line, member, loses⟩
      · refine .inl ⟨u, read, ?_, fun inside line member => ?_⟩
        · rw [later, site, List.findSome?_cons]
          cases s.targetSite with
          | some url => rfl
          | none => cases textCall? "goto" (Text.trim raw) <;> rfl
        · split at member
          · rename_i comment
            rcases List.mem_cons.mp member with rfl | member
            · exact kept inside
            · exact header (by rw [inHeader, inside, comment, Bool.and_self]) line member
          · cases member
      · rw [inHeader, Bool.and_eq_true] at header
        rw [if_pos header.2]
        exact .inr ⟨fails, header.1, line, List.mem_cons_of_mem _ member, loses⟩

end Scan

theorem summary_cases (fileName text suffix : String) :
    (∃ x, summary fileName text suffix = .ok x ∧ x.targetSite = firstPage? text ∧
      ∀ line ∈ headerLines text, ¬LosesTime line) ∨
    summary fileName text suffix = .error .dateOutOfRange ∧ ∃ line ∈ headerLines text, LosesTime line := by
  rw [summary, firstPage?_lines]
  rcases Scan.scan_reads { id := stem fileName suffix } (Text.splitLines text.toList) with
    ⟨t, read, site, kept⟩ | ⟨fails, _, lost⟩
  · refine .inl ⟨t.recording, ?_, site.trans (by simp [Option.orElse_eq_orElse]), kept rfl⟩
    rw [read]
    rfl
  · refine .inr ⟨?_, lost⟩
    rw [fails]
    rfl

end BrowserFlow.Script
