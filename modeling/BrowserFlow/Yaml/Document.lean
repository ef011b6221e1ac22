import BrowserFlow.Yaml.Node

/-!
The value of a YAML document. Of a mapping only the entries under strings are kept. Among several refusals the one
that stands least deep comes first.
-/

namespace BrowserFlow.Yaml

namespace Node

def isCollection : Node → Bool
  | .scalar _ _ => false
  | _ => true

def isSinglePair : Node → Bool
  | .mapping _ [_] => true
  | _ => false

mutual

def value : Node → Value
  | .scalar tag text => (Scalar.value tag text).toOption.getD .null
  | .sequence tag items => if tag == coreTag "seq" then .list (itemValues items) else .foreign "list"
  | .mapping tag pairs =>
    if tag == coreTag "set" then .foreign "set" else .dict (Entries.collect (pairValues pairs))
  | .cycle isMapping => .foreign (if isMapping then "dict" else "list")

def itemValues : List Node → List Value
  | [] => []
  | node :: rest => node.value :: itemValues rest

def pairValues : List (Node × Node) → List (String × Value)
  | [] => []
  | (key, node) :: rest =>
    match key.value with
    | .str s => (s, node.value) :: pairValues rest
    | _ => pairValues rest

end

mutual

/-- The refusals in a node, each with its depth. -/
def refusals (depth : Nat) : Node → List (Nat × Refusal)
  | .scalar tag text =>
    match Scalar.value tag text with
    | .ok _ => []
    | .error refusal => [(depth, refusal)]
  | .sequence tag items =>
    let isKnown := tag == coreTag "seq" ||
      ((tag == coreTag "omap" || tag == coreTag "pairs") && items.all isSinglePair)
    if isKnown then itemRefusals (depth + 1) items else [(depth, .malformed)]
  | .mapping tag pairs =>
    if tag == coreTag "map" || tag == coreTag "set" then pairRefusals (depth + 1) pairs else [(depth, .malformed)]
  | .cycle _ => []

def itemRefusals (depth : Nat) : List Node → List (Nat × Refusal)
  | [] => []
  | node :: rest => refusals depth node ++ itemRefusals depth rest

def pairRefusals (depth : Nat) : List (Node × Node) → List (Nat × Refusal)
  | [] => []
  | (key, node) :: rest =>
    refusals depth key ++ (if key.isCollection then [(depth, .malformed)] else []) ++ refusals depth node ++
      pairRefusals depth rest

end

def hasOtherKey : Node → Bool
  | .mapping _ pairs => pairs.any fun pair => pair.1.value.str?.isNone
  | _ => false

end Node

structure Document where
  value : Value
  hasOtherKey : Bool

def Document.ofText (cs : List Char) : Except Refusal Document := do
  match ← Node.ofText? cs with
  | none => return ⟨.null, false⟩
  | some node =>
    let refusals := node.refusals 0
    let least := refusals.foldl (fun depth entry => min depth entry.1) ((refusals.head?.map (·.1)).getD 0)
    match refusals.find? fun entry => entry.1 == least with
    | some (_, refusal) => throw refusal
    | none => return ⟨node.value, node.hasOtherKey⟩

end BrowserFlow.Yaml
