import BrowserFlow.Text.Case
import BrowserFlow.Value.Display

/-!
What can be asked of the record and replay mode: a dictionary that names an action and carries its arguments.
-/

namespace BrowserFlow

inductive ModeAction
  | record
  | pause
  | resume
  | stop
  | recordAction
  | manualStep
  | list
  | get
  | delete
  | replay
  | replayPause
  | replayResume
  | replayStop
  | replayStatus
  | status
  deriving DecidableEq, Repr, Inhabited

namespace ModeAction

def all : List ModeAction :=
  [record, pause, resume, stop, recordAction, manualStep, list, get, delete, replay, replayPause, replayResume,
    replayStop, replayStatus, status]

def word : ModeAction → String
  | record => "record"
  | pause => "pause"
  | resume => "resume"
  | stop => "stop"
  | recordAction => "record_action"
  | manualStep => "manual_step"
  | list => "list"
  | get => "get"
  | delete => "delete"
  | replay => "replay"
  | replayPause => "replay_pause"
  | replayResume => "replay_resume"
  | replayStop => "replay_stop"
  | replayStatus => "replay_status"
  | status => "status"

def ofWord? (word : String) : Option ModeAction := all.find? fun action => action.word == word

end ModeAction

structure ModeRequest where
  action : ModeAction
  arguments : Entries
  deriving Inhabited

namespace ModeRequest

/-- The name of the action in small letters; empty if there is none. -/
def actionWord (entries : Entries) : String :=
  match entries.get? "action" with
  | some v => Text.lower v.text
  | none => ""

def ofInput (input : Value) : Except String ModeRequest :=
  match input with
  | .dict entries =>
    let word := actionWord entries
    match ModeAction.ofWord? word with
    | some action => .ok ⟨action, entries⟩
    | none =>
      .error ("Unknown action: " ++ word ++ ". Valid actions: " ++
        ", ".intercalate (ModeAction.all.map ModeAction.word))
  | _ => .error "Input must be a dict with 'action' key."

/-- An argument; null counts as none. -/
def argument? (r : ModeRequest) (key : String) : Option Value :=
  match r.arguments.get? key with
  | some .null | none => none
  | some v => some v

def argument (r : ModeRequest) (key : String) : Value := (r.arguments.get? key).getD (.str "")

end ModeRequest

end BrowserFlow
