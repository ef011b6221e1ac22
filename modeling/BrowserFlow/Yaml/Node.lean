import BrowserFlow.Yaml.Scalar
import BrowserFlow.Yaml.Token

/-!
The nodes of a YAML document, read from its tokens. Every node has its tag, aliases stand for what their anchors
name, and merge keys have been resolved.
-/

namespace BrowserFlow.Yaml

inductive Node
  | scalar (tag text : String)
  | sequence (tag : String) (items : List Node)
  | mapping (tag : String) (pairs : List (Node × Node))
  | cycle (isMapping : Bool)
  deriving Inhabited

structure Reading where
  tokens : List Token
  anchors : List (String × Node) := []
  handles : List (String × String) := []

abbrev NodeM := StateT Reading (Except Refusal)

namespace Node

def plain (text : String) : Node := .scalar (Scalar.plainTag text.toList) text

def empty : Node := plain ""

def peek : NodeM (Option Token) := return (← get).tokens.head?

def drop : NodeM Unit := modify fun r => { r with tokens := r.tokens.drop 1 }

def expect (token : Token) : NodeM Unit := do
  if (← peek) != some token then throw .malformed
  drop

def isNextIn (tokens : List Token) : NodeM Bool := return (← peek).any tokens.contains

/-- Names a node. A name is given once; a node that is being read has it already. -/
def name (anchor : Option String) (node : Node) (isNew : Bool) : NodeM Unit := do
  match anchor with
  | none => return
  | some name =>
    if isNew && ((← get).anchors.any fun entry => entry.1 == name) then throw .malformed
    modify fun r => { r with anchors := (name, node) :: r.anchors }

def resolveTag (handle : Option String) (suffix : String) : NodeM String := do
  match handle with
  | none => return suffix
  | some handle =>
    match (← get).handles.find? fun entry => entry.1 == handle with
    | some (_, beginning) => return beginning ++ suffix
    | none => throw .malformed

def readProperties : NodeM (Option String × Option String) := do
  let anchor ← readAnchor
  match ← peek with
  | some (.tag handle suffix) =>
    drop
    let tag ← resolveTag handle suffix
    let anchor ← if anchor.isNone then readAnchor else pure anchor
    return (anchor, some tag)
  | _ => return (anchor, none)
where
  readAnchor : NodeM (Option String) := do
    match ← peek with
    | some (.anchor name) =>
      drop
      return some name
    | _ => return none

def collectionTag (tag : Option String) (basic : String) : String :=
  match tag with
  | none => coreTag basic
  | some "!" => coreTag basic
  | some tag => tag

def isTagged (name : String) (node : Node) : Bool :=
  match node with
  | .scalar tag _ => tag == coreTag name
  | _ => false

def pairs? (node : Node) : Option (List (Node × Node)) :=
  match node with
  | .mapping _ pairs => some pairs
  | .cycle true => some []
  | _ => none

/-- What a merge key brings in: the pairs of a mapping, or those of several, of which the first counts most. -/
def mergedPairs (node : Node) : Except Refusal (List (Node × Node)) :=
  match node with
  | .sequence _ items =>
    match items.mapM pairs? with
    | some parts => .ok parts.reverse.flatten
    | none => .error .malformed
  | node =>
    match node.pairs? with
    | some pairs => .ok pairs
    | none => .error .malformed

/-- The pairs with those of merge keys in front. The default key is a string like any other. -/
def mergePairs (pairs : List (Node × Node)) : Except Refusal (List (Node × Node)) := do
  let merged ← (pairs.filter fun pair => pair.1.isTagged "merge").mapM fun pair => mergedPairs pair.2
  let own := pairs.filterMap fun (key, v) =>
    if key.isTagged "merge" then none
    else if key.isTagged "value" then some (.scalar (coreTag "str") "=", v)
    else some (key, v)
  return merged.flatten ++ own

mutual

/-- One node. In a block it may be a block itself, and as part of a mapping a sequence without indent. -/
def read : Nat → Bool → Bool → NodeM Node
  | 0, _, _ => throw .malformed
  | fuel + 1, isBlock, isPart => do
    match ← peek with
    | some (.alias name) =>
      drop
      match (← get).anchors.find? fun entry => entry.1 == name with
      | some (_, node) => return node
      | none => throw .malformed
    | _ =>
      let (anchor, tag) ← readProperties
      let sequence (items : NodeM (List Node)) : NodeM Node := do
        name anchor (.cycle false) true
        let node := .sequence (collectionTag tag "seq") (← items)
        name anchor node false
        return node
      let mapping (pairs : NodeM (List (Node × Node))) : NodeM Node := do
        name anchor (.cycle true) true
        let node := .mapping (collectionTag tag "map") (← mergePairs (← pairs))
        name anchor node false
        return node
      let scalar (node : Node) : NodeM Node := do
        name anchor node true
        return node
      match ← peek with
      | some (.scalar text isPlain) =>
        drop
        match tag with
        | none => scalar (if isPlain then plain text else .scalar (coreTag "str") text)
        | some "!" => scalar (plain text)
        | some tag => scalar (.scalar tag text)
      | some .flowSequence =>
        drop
        sequence (readFlowItems fuel true)
      | some .flowMapping =>
        drop
        mapping (readFlowPairs fuel true)
      | token =>
        if isPart && token == some .entry then sequence (readEntries fuel true)
        else if isBlock && token == some .blockSequence then
          drop
          sequence (readEntries fuel false)
        else if isBlock && token == some .blockMapping then
          drop
          mapping (readBlockPairs fuel)
        else match anchor, tag with
          | none, none => throw .malformed
          | _, none => scalar empty
          | _, some "!" => scalar empty
          | _, some tag => scalar (.scalar tag "")

def readEntries : Nat → Bool → NodeM (List Node)
  | 0, _ => throw .malformed
  | fuel + 1, isUnindented => do
    if (← peek) == some .entry then
      drop
      let ends := if isUnindented then [.entry, .key, .value, .blockEnd] else [.entry, .blockEnd]
      let item ← readUnless fuel ends true false
      return item :: (← readEntries fuel isUnindented)
    else if isUnindented then return []
    else
      expect .blockEnd
      return []

def readBlockPairs : Nat → NodeM (List (Node × Node))
  | 0 => throw .malformed
  | fuel + 1 => do
    if (← peek) == some .key then
      drop
      let key ← readUnless fuel [.key, .value, .blockEnd] true true
      let v ← readAfterColon fuel [.key, .value, .blockEnd] true
      return (key, v) :: (← readBlockPairs fuel)
    else
      expect .blockEnd
      return []

def readUnless : Nat → List Token → Bool → Bool → NodeM Node
  | 0, _, _, _ => throw .malformed
  | fuel + 1, ends, isBlock, isPart => do
    if ← isNextIn ends then return empty
    read fuel isBlock isPart

def readAfterColon : Nat → List Token → Bool → NodeM Node
  | 0, _, _ => throw .malformed
  | fuel + 1, ends, isBlock => do
    if (← peek) != some .value then return empty
    drop
    readUnless fuel ends isBlock isBlock

/-- The items of a flow sequence. A pair among them is a mapping of its own. -/
def readFlowItems : Nat → Bool → NodeM (List Node)
  | 0, _ => throw .malformed
  | fuel + 1, isFirst => do
    if (← peek) == some .flowSequenceEnd then
      drop
      return []
    if !isFirst then expect .comma
    match ← peek with
    | some .flowSequenceEnd =>
      drop
      return []
    | some .key =>
      drop
      let key ← readUnless fuel [.value, .comma, .flowSequenceEnd] false false
      let v ← readAfterColon fuel [.comma, .flowSequenceEnd] false
      let item := .mapping (coreTag "map") (← mergePairs [(key, v)])
      return item :: (← readFlowItems fuel false)
    | _ =>
      let item ← read fuel false false
      return item :: (← readFlowItems fuel false)

def readFlowPairs : Nat → Bool → NodeM (List (Node × Node))
  | 0, _ => throw .malformed
  | fuel + 1, isFirst => do
    if (← peek) == some .flowMappingEnd then
      drop
      return []
    if !isFirst then expect .comma
    match ← peek with
    | some .flowMappingEnd =>
      drop
      return []
    | some .key =>
      drop
      let key ← readUnless fuel [.value, .comma, .flowMappingEnd] false false
      let v ← readAfterColon fuel [.comma, .flowMappingEnd] false
      return (key, v) :: (← readFlowPairs fuel false)
    | _ =>
      let key ← read fuel false false
      return (key, empty) :: (← readFlowPairs fuel false)

end

def readDirectives : Nat → Bool → NodeM Unit
  | 0, _ => throw .malformed
  | fuel + 1, hasVersion => do
    match ← peek with
    | some (.version major) =>
      if hasVersion || major != 1 then throw .malformed
      drop
      readDirectives fuel true
    | some (.tagHandle handle beginning) =>
      if (← get).handles.any fun entry => entry.1 == handle then throw .malformed
      drop
      modify fun r => { r with handles := r.handles ++ [(handle, beginning)] }
      readDirectives fuel hasVersion
    | some .otherDirective =>
      drop
      readDirectives fuel hasVersion
    | _ => return

def isDirective (token : Token) : Bool :=
  match token with
  | .version _ | .tagHandle _ _ | .otherDirective => true
  | _ => false

def readDocument : NodeM (Option Node) := do
  let tokens := (← get).tokens
  let fuel := 4 * tokens.length + 4
  let basic : List (String × String) := [("!", "!"), ("!!", coreTag "")]
  match tokens with
  | [] => return none
  | first :: _ =>
    let isExplicit := first == .documentStart || isDirective first
    if isExplicit then
      readDirectives fuel false
      expect .documentStart
    modify fun r => { r with handles := r.handles ++ basic }
    let isBare := match ← peek with
      | none => true
      | some token => token == .documentStart || token == .documentEnd || isDirective token
    let node ← if isExplicit && isBare then pure empty else read fuel true false
    if (← get).tokens.all (· == .documentEnd) then return some node
    throw .malformed

def ofText? (cs : List Char) : Except Refusal (Option Node) := do
  return (← readDocument { tokens := ← tokens cs }).1

end Node

end BrowserFlow.Yaml
