import BrowserFlow.Proofs.Session.Restore
import BrowserFlow.Proofs.Store.Contents

/-!
A session is kept under the name of its file, which hosts can share. Calls for other file names leave it as it is, and
what is loaded is what the last call for its own file name has left.
-/

namespace BrowserFlow.SessionStore

open SavedSession

/-- A call that can change the session of a host. -/
inductive Call
  | save (domain : String) (held : List Value) (now : Instant)
  | delete (domain : String)

namespace Call

def domain : Call → String
  | save domain _ _ => domain
  | delete domain => domain

def action (s : SessionStore) : Call → FileM Unit
  | save domain held now => s.save domain held now
  | delete domain => do
    let _ ← s.delete domain

/-- The cookies are data that JSON can hold, and no deadline is longer than an integer that is read. -/
def IsPlain : Call → Prop
  | save domain held _ => (∀ v ∈ held, v.Storable) ∧
      ∀ cookie ∈ ofHost domain held, ∀ t ∈ deadline? cookie, t.natAbs < tenTo Numeral.maxDigits
  | delete _ => True

end Call

/-- The files after the calls, one after the other; a call that fails does not stop the next. -/
def after (s : SessionStore) (files : Files) (calls : List Call) : Files :=
  calls.foldl (fun files call => ((call.action s).outcome files).2) files

/-- The calls that succeed. -/
def done (s : SessionStore) (files : Files) : List Call → List Call
  | [] => []
  | call :: rest =>
    let (result, next) := (call.action s).outcome files
    if result.isOk then call :: done s next rest else done s next rest

def fileName (domain : String) : String := Domain.fileName domain ++ ".json"

/-- The directory of the store is there. -/
structure Opened (s : SessionStore) (base : List String) (files : Files) : Prop where
  located : files.locate s.directory = .ok base
  directory : files.node? base = some .directory

theorem fileName_char {domain : String} {c : Char} (member : c ∈ (fileName domain).toList) :
    Domain.isFileChar c = true ∨ c = '_' := by
  rw [fileName, Domain.fileName, String.toList_append, String.toList_ofList, List.mem_append, List.mem_map] at member
  rcases member with ⟨d, _, rfl⟩ | suffix
  · split
    · rename_i plain
      exact .inl plain
    · exact .inr rfl
  · have letters : ".json".toList = ['.', 'j', 's', 'o', 'n'] := rfl
    simp only [letters, List.mem_cons, List.not_mem_nil, or_false] at suffix
    rcases suffix with rfl | rfl | rfl | rfl | rfl <;> exact .inl rfl

theorem fileName_plain (domain : String) : '/' ∉ (fileName domain).toList := fun member => by
  rcases fileName_char member with other | other <;> exact absurd other (by decide)

theorem fileName_clear (domain : String) : Char.ofNat 0 ∉ (fileName domain).toList := fun member => by
  rcases fileName_char member with other | other <;> exact absurd other (by decide)

/-- The name of a session's file is that of no directory. -/
theorem fileName_long (domain : String) : 5 ≤ (fileName domain).toList.length := by
  rw [fileName, String.toList_append, List.length_append]
  exact Nat.le_add_left 5 _

theorem fileName_ne (domain : String) {name : String} (short : name.toList.length < 5) : fileName domain ≠ name := by
  rintro rfl
  exact absurd (fileName_long domain) (not_le.mpr short)

theorem path_eq (s : SessionStore) (domain : String) :
    s.path domain = ⟨s.directory.parts ++ [fileName domain]⟩ :=
  Path.child_name (fileName_plain domain) (fileName_ne domain (by decide)) (fileName_ne domain (by decide))

theorem fileName_inj {domain other : String} : fileName domain = fileName other ↔
    Domain.fileName domain = Domain.fileName other := String.append_left_inj _

namespace Opened

variable {s : SessionStore} {base : List String} {files : Files} (opened : Opened s base files)

include opened

theorem locate (domain : String) : files.locate (s.path domain) =
    if Files.maxNameSize < Utf8.size (fileName domain) then .error (.file .nameTooLong (s.path domain).text)
    else .ok (base ++ [fileName domain]) := by
  have up : fileName domain ≠ ".." := fileName_ne domain (by decide)
  rw [path_eq, Files.locate_child opened.located opened.directory (fileName_plain domain) up,
    if_neg (fileName_clear domain)]

theorem place_eq {domain : String} {place : List String} (reached : files.locate (s.path domain) = .ok place) :
    place = base ++ [fileName domain] := by
  rw [opened.locate] at reached
  split at reached
  · cases reached
  · exact (Except.ok.inj reached).symm

theorem keeps {after : Files} (keeps : Files.KeepsDirectories files after) : Opened s base after :=
  ⟨Files.locate_keeps keeps opened.located, keeps base opened.directory⟩

/-- What is loaded depends on what is at the one place only. -/
theorem load_congr {other : Files} (opened' : Opened s base other) {domain : String}
    (same : other.node? (base ++ [fileName domain]) = files.node? (base ++ [fileName domain])) :
    s.load other domain = s.load files domain := by
  have found : other.find (s.path domain) = files.find (s.path domain) := by
    rw [Files.find, Files.find, opened.locate, opened'.locate]
    by_cases long : Files.maxNameSize < Utf8.size (fileName domain)
    · rw [if_pos long]
    · rw [if_neg long]
      exact congrArg Except.ok same
  have read : other.readText (s.path domain) = files.readText (s.path domain) := by
    rw [Files.readText, Files.readText, Files.readBytes, Files.readBytes, opened.locate, opened'.locate]
    by_cases long : Files.maxNameSize < Utf8.size (fileName domain)
    · rw [if_pos long]
      rfl
    · rw [if_neg long]
      simp only [Bind.bind, Except.bind, same]
  simp only [load, found, read]

end Opened

/-- What a call does: nothing if it fails, else it changes what is at the place of its file. -/
inductive Step (s : SessionStore) (base : List String) (files : Files) : Call → Except Fault Unit → Files → Prop
  | refused {call : Call} (fault : Fault) : Step s base files call (.error fault) files
  | saved {domain : String} {held : List Value} {now : Instant} {session : SavedSession}
      (made : SavedSession.ofCookies domain held now.millis = .ok session)
      (reached : files.locate (s.path domain) = .ok (base ++ [fileName domain]))
      (free : files.node? (base ++ [fileName domain]) ≠ some .directory) :
      Step s base files (.save domain held now) (.ok ())
        (files.put (base ++ [fileName domain]) (.file (Utf8.encode session.text.toList)))
  | deleted {domain : String} {bytes : List UInt8}
      (reached : files.locate (s.path domain) = .ok (base ++ [fileName domain]))
      (file : files.node? (base ++ [fileName domain]) = some (.file bytes)) :
      Step s base files (.delete domain) (.ok ()) (files.erase (base ++ [fileName domain]))
  | absent {domain : String} (none : files.find (s.path domain) = .ok none) :
      Step s base files (.delete domain) (.ok ()) files

theorem save_isAtomic (s : SessionStore) (domain : String) (held : List Value) (now : Instant) :
    FileM.IsAtomic (s.save domain held now) := by
  refine .lift_bind fun session => (FileM.writeBytes_isAtomic _ _).caught fun fault => ?_
  split <;> exact FileM.isAtomic_throw _

theorem delete_isAtomic (s : SessionStore) (domain : String) : FileM.IsAtomic (s.delete domain) := by
  refine .ask_bind fun found => ?_
  split
  · exact FileM.isAtomic_pure _
  · exact (FileM.remove_isAtomic _).bind_pure _

namespace Step

variable {s : SessionStore} {base : List String} {files next : Files} {call : Call} {result : Except Fault Unit}

theorem of_save (opened : Opened s base files) {domain : String} {held : List Value} {now : Instant}
    (h : (s.save domain held now).outcome files = (.ok (), next)) :
    Step s base files (.save domain held now) (.ok ()) next := by
  obtain ⟨session, made, h⟩ := FileM.lift_bind_ok h
  have written := ScriptStore.tryCatch_throws (fun fault mid b end' thrown => by split at thrown <;> cases thrown) h
  obtain ⟨place, reached, free, rfl⟩ := FileM.writeBytes_ok written
  cases opened.place_eq reached
  exact .saved made reached free

theorem of_delete (opened : Opened s base files) {domain : String} {there : Bool}
    (h : (s.delete domain).outcome files = (.ok there, next)) : Step s base files (.delete domain) (.ok ()) next := by
  obtain ⟨found, look, h⟩ := FileM.ask_bind_ok h
  cases found with
  | none =>
    cases h
    exact .absent look
  | some node =>
    obtain ⟨_, mid, removed, h⟩ := FileM.bind_ok h
    cases h
    obtain ⟨place, bytes, reached, file, rfl⟩ := FileM.remove_ok removed
    cases opened.place_eq reached
    exact .deleted reached file

/-- Every call makes such a step. -/
theorem of_action (opened : Opened s base files) (h : (call.action s).outcome files = (result, next)) :
    Step s base files call result next := by
  cases call with
  | save domain held now =>
    cases result with
    | ok _ => exact of_save opened h
    | error fault =>
      cases s.save_isAtomic domain held now _ _ _ h
      exact .refused fault
  | delete domain =>
    cases result with
    | ok _ =>
      obtain ⟨there, mid, deleted, h⟩ := FileM.bind_ok h
      cases h
      exact of_delete opened deleted
    | error fault =>
      cases (s.delete_isAtomic domain).bind_pure (fun _ => ()) _ _ _ h
      exact .refused fault

theorem keepsDirectories (step : Step s base files call result next) : Files.KeepsDirectories files next := by
  cases step with
  | refused fault => exact fun _ there => there
  | saved _ _ free => exact Files.keepsDirectories_put free _
  | deleted _ file =>
    refine Files.keepsDirectories_erase ?_
    rw [file]
    nofun
  | absent _ => exact fun _ there => there

/-- Nothing changes at the places of other files. -/
theorem node?_other (step : Step s base files call result next) {domain : String}
    (apart : Domain.fileName call.domain ≠ Domain.fileName domain) :
    next.node? (base ++ [fileName domain]) = files.node? (base ++ [fileName domain]) := by
  have elsewhere : base ++ [fileName domain] ≠ base ++ [fileName call.domain] := by
    intro same
    have last := List.singleton_inj.mp (List.append_cancel_left same)
    exact apart (fileName_inj.mp last).symm
  cases step with
  | refused fault => rfl
  | saved _ _ _ => exact Files.node?_put_other _ _ elsewhere
  | deleted _ _ => exact Files.node?_erase _ elsewhere
  | absent _ => rfl

theorem load_other (step : Step s base files call result next) (opened : Opened s base files) {domain : String}
    (apart : Domain.fileName call.domain ≠ Domain.fileName domain) : s.load next domain = s.load files domain :=
  opened.load_congr (opened.keeps step.keepsDirectories) (step.node?_other apart)

end Step

theorem load_shared (s : SessionStore) (files : Files) {domain other : String}
    (shared : Domain.fileName other = Domain.fileName domain) : s.load files domain = s.load files other := by
  have same : s.path domain = s.path other := by rw [path, path, shared]
  simp only [load, same]

theorem load_absent {s : SessionStore} {files : Files} {domain : String}
    (none : files.find (s.path domain) = .ok none) :
    s.load files domain = .ok .none := by
  rw [load, none]
  rfl

/-- What a load gives when a call is the last one that has succeeded for its file. -/
def Call.Leaves (loaded : Except Fault (Option SavedSession)) : Call → Prop
  | save domain held now => ∃ session, SavedSession.ofCookies domain held now.millis = .ok session ∧
      ((save domain held now).IsPlain → loaded = .ok (some session))
  | delete _ => loaded = .ok none

theorem Step.leaves {s : SessionStore} {base : List String} {files next : Files} {call : Call}
    (step : Step s base files call (.ok ()) next) :
    call.Leaves (s.load next call.domain) := by
  have keeps := step.keepsDirectories
  cases step with
  | @saved domain held now session made reached free =>
    have held := Files.find_of_locate (Files.locate_keeps keeps reached)
    rw [Files.node?_put _ _ (Files.not_base_of_file free)] at held
    exact ⟨session, made, fun plain => load_written (ofCookies_storable plain.1 plain.2 made) held⟩
  | @deleted domain bytes reached file =>
    have there : files.node? (base ++ [fileName domain]) ≠ some .directory := by
      rw [file]
      nofun
    have gone := Files.find_of_locate (Files.locate_keeps keeps reached)
    rw [Files.node?_erase_self _ (Files.not_base_of_file there)] at gone
    exact load_absent gone
  | absent none => exact load_absent none

theorem after_append (s : SessionStore) (files : Files) (calls : List Call) (call : Call) :
    s.after files (calls ++ [call]) = ((call.action s).outcome (s.after files calls)).2 := List.foldl_concat ..

theorem Opened.after {s : SessionStore} {base : List String} {files : Files} (opened : Opened s base files)
    (calls : List Call) : Opened s base (s.after files calls) := by
  induction calls generalizing files with
  | nil => exact opened
  | cons call calls ih => exact ih (opened.keeps (Step.of_action opened rfl).keepsDirectories)

/-- The last call that has succeeded for the file of a host. -/
def last? (s : SessionStore) (files : Files) (calls : List Call) (domain : String) : Option Call :=
  ((s.done files calls).filter fun call => Domain.fileName call.domain == Domain.fileName domain).getLast?


theorem last?_failed {s : SessionStore} {files next : Files} {call : Call} {fault : Fault}
    (run : (call.action s).outcome files = (.error fault, next)) (calls : List Call) (domain : String) :
    s.last? files (call :: calls) domain = s.last? next calls domain := by
  rw [last?, done, run]
  rfl

theorem last?_done {s : SessionStore} {files next : Files} {call : Call}
    (run : (call.action s).outcome files = (.ok (), next)) (calls : List Call) (domain : String) :
    s.last? files (call :: calls) domain = (s.last? next calls domain <|>
      if Domain.fileName call.domain = Domain.fileName domain then some call else none) := by
  rw [last?, done, run]
  simp only [Except.isOk, Except.toBool, if_true, List.filter_cons, beq_iff_eq]
  split
  · rw [List.getLast?_cons, ← last?]
    cases s.last? next calls domain <;> rfl
  · rw [← last?]
    cases s.last? next calls domain <;> rfl

theorem done_sublist (s : SessionStore) (files : Files) (calls : List Call) : (s.done files calls).Sublist calls := by
  induction calls generalizing files with
  | nil => exact .refl _
  | cons call calls ih =>
    rw [done]
    dsimp only
    split
    · exact (ih _).cons_cons call
    · exact (ih _).cons call

theorem last?_mem {s : SessionStore} {files : Files} {calls : List Call} {domain : String} {call : Call}
    (last : s.last? files calls domain = some call) : call ∈ calls :=
  (s.done_sublist files calls).subset (List.mem_of_mem_filter (List.mem_of_getLast? last))

section Calls

variable {s : SessionStore} {base : List String} {files : Files} (opened : Opened s base files) (domain : String)

include opened

/-- What is loaded was left by the last call that has succeeded for the file, and else it was there before. -/
theorem load_after (calls : List Call) : match s.last? files calls domain with
    | some call => call.Leaves (s.load (s.after files calls) domain)
    | none => s.load (s.after files calls) domain = s.load files domain := by
  induction calls generalizing files with
  | nil => rfl
  | cons call calls ih =>
    rcases run : (call.action s).outcome files with ⟨result, next⟩
    have step := Step.of_action opened run
    have later : s.after files (call :: calls) = s.after next calls := by rw [after, List.foldl_cons, run, ← after]
    have rest := ih (opened.keeps step.keepsDirectories)
    rw [later]
    cases result with
    | error fault =>
      rw [last?_failed run]
      cases step with
      | refused _ => exact rest
    | ok _ =>
      rw [last?_done run]
      cases last : s.last? next calls domain with
      | some final =>
        rw [last] at rest
        exact rest
      | none =>
        rw [last] at rest
        by_cases shared : Domain.fileName call.domain = Domain.fileName domain
        · have left := step.leaves
          rw [← s.load_shared next shared, ← rest] at left
          rw [if_pos shared]
          exact left
        · rw [if_neg shared]
          exact rest.trans (step.load_other opened shared)

end Calls

/-- A store with an empty directory. -/
def shelf : SessionStore := ⟨⟨["sessions"]⟩⟩

def emptyShelf : Files := ⟨[(["sessions"], .directory)]⟩

/-- A browser without cookies is saved at the start of 2025. -/
def saveBare (domain : String) : Call := .save domain [] ⟨1735689600000000⟩

def bare (domain : String) : SavedSession := { domain, savedAt := Instant.millis ⟨1735689600000000⟩ }

theorem saveBare_plain (domain : String) : (saveBare domain).IsPlain := by
  refine ⟨fun _ member => absurd member List.not_mem_nil, fun _ member => absurd member List.not_mem_nil⟩

theorem emptyShelf_opened : Opened shelf ["sessions"] emptyShelf := ⟨rfl, rfl⟩

/-- The last of these calls that succeeds decides what is loaded. -/
theorem load_bare (domains : List String) {domain other : String}
    (last : (shelf.last? emptyShelf (domains.map saveBare) domain).map Call.domain = some other) :
    shelf.load (shelf.after emptyShelf (domains.map saveBare)) domain = .ok (some (bare other)) := by
  obtain ⟨call, found, rfl⟩ := Option.map_eq_some_iff.mp last
  obtain ⟨_, _, rfl⟩ := List.mem_map.mp (last?_mem found)
  have left := load_after emptyShelf_opened domain (domains.map saveBare)
  rw [found] at left
  obtain ⟨session, made, loaded⟩ := left
  cases made
  exact loaded (saveBare_plain _)

end BrowserFlow.SessionStore
