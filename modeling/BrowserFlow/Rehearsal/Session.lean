import BrowserFlow.Page.Request

/-!
A double of the saved sessions of a replay.
-/

namespace BrowserFlow.Rehearsal

structure SessionDouble where
  restored : Value := .bool true
  restoreFault : Option String := none
  saveFault : Option String := none
  log : List (String × String) := []
  deriving Inhabited

namespace SessionDouble

def answer (fault : Option String) (v : Value) : Reply :=
  match fault with
  | some text => .error (.raised text)
  | none => .ok (.value v)

def restore (s : SessionDouble) (domain : String) : SessionDouble × Reply :=
  ({ s with log := s.log ++ [("restore", domain)] }, answer s.restoreFault s.restored)

def save (s : SessionDouble) (domain : String) : SessionDouble × Reply :=
  ({ s with log := s.log ++ [("save", domain)] }, answer s.saveFault .null)

end SessionDouble

end BrowserFlow.Rehearsal
