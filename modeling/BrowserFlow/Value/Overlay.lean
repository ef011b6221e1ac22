import BrowserFlow.Value.Basic

/-!
Laying one dictionary over another: dictionaries that meet are merged, anything else is replaced.
-/

namespace BrowserFlow

mutual

def Value.overlay (base : Value) : Value → Value
  | .dict updates =>
    match base with
    | .dict entries => .dict (Entries.overlay entries updates)
    | _ => .dict updates
  | v => v

def Entries.overlay (entries : List (String × Value)) : List (String × Value) → List (String × Value)
  | [] => entries
  | (key, v) :: rest =>
    let merged := match Entries.get? entries key with
      | some w => Value.overlay w v
      | none => v
    Entries.overlay (Entries.put entries key merged) rest

end

end BrowserFlow
