import ProcessTriggers.Yaml.Node
import ProcessTriggers.Yaml.Token

/-!
Documents: the node that the tokens of a text describe, and its value. Names that stand for nodes
are known from their anchors on, and the tokens are taken one by one, so that a fault in the text
counts only when nothing before it is wrong.
-/

namespace ProcessTriggers.Yaml

/-- What is left of the tokens, and the names that are known. -/
structure Draft where
  tokens : List Token
  /-- What is wrong with the text behind the tokens. -/
  fault : Option Error
  /-- The beginnings of tags by their handles. -/
  handles : List (String × String) := []
  anchors : List (String × Node) := []
  /-- The names of the collections that are not finished, and whether each is a mapping. -/
  unfinished : List (String × Bool) := []
  /-- Whether some mapping lies in itself. -/
  endless : Bool := false

/-- Takes tokens from the front of a draft. -/
abbrev Drafting (α : Type) := StateT Draft (Except Error) α

def misplaced : Error := .malformedDocument .misplaced

def badName : Error := .malformedDocument .unknownAlias

/-- How deep nodes may lie in each other. -/
def depthLimit : Nat := 485

def tooDeep : Error := .foreign .tooDeep "nodes lie too deep in each other"

/-- The kind of a node with a tag, or else the kind that it is taken for. -/
def kindOf (tag : Option String) (default : Kind) : Kind :=
  match tag with
  | none | some "!" => default
  | some t => .ofTag t

namespace Drafting

/-- The next token, none at the end of the text. -/
def peek : Drafting (Option Token) := do
  let d ← get
  match d.tokens, d.fault with
  | t :: _, _ => return some t
  | [], some e => throw e
  | [], none => return none

def drop : Drafting Unit := modify fun d => { d with tokens := d.tokens.drop 1 }

/-- Whether the next token is one of those given, which is left where it is. -/
def sees (ts : List Token) : Drafting Bool := do return (← peek).any ts.contains

/-- Takes the next token if it is the one given. -/
def take (t : Token) : Drafting Bool := do
  let found ← sees [t]
  if found then drop
  return found

/-- Takes the comma before a further item in brackets. -/
def takeComma : Drafting Unit := do
  if !(← take .flowEntry) then throw misplaced

/-- The node that a name stands for. -/
def refer (name : String) : Drafting Node := do
  let d ← get
  match d.unfinished.lookup name, d.anchors.lookup name with
  | some isMapping, _ =>
    set { d with endless := d.endless || isMapping }
    return .around isMapping
  | none, some n => return n
  | none, none => throw badName

def takeAnchor : Drafting (Option String) := do
  match ← peek with
  | some (.anchor name) => drop; return some name
  | _ => return none

def takeTag : Drafting (Option TagName) := do
  match ← peek with
  | some (.tag t) => drop; return some t
  | _ => return none

/-- A tag in full. -/
def expand (t : TagName) : Drafting String := do
  match t.handle with
  | none => return t.suffix
  | some h =>
    match (← get).handles.lookup h with
    | some start => return start ++ t.suffix
    | none => throw misplaced

/-- The anchor and the tag in front of a node, in either order. -/
def takeMarks : Drafting (Option String × Option String) := do
  let before ← takeAnchor
  let tag ← takeTag
  let anchor ← if before.isNone && tag.isSome then takeAnchor else pure before
  return (anchor, ← tag.mapM expand)

/-- A node with marks and without content. -/
def empty (anchor tag : Option String) : Drafting Node :=
  if anchor.isNone && tag.isNone then throw misplaced
  else return .scalar (kindOf tag .null) ""

/-- A name is given once. -/
def checkNew (name : String) : Drafting Unit := do
  let d ← get
  if (d.anchors.lookup name).isSome || (d.unfinished.lookup name).isSome then throw badName

/-- Names a node that is finished. -/
def named (anchor : Option String) (n : Node) : Drafting Node := do
  if let some name := anchor then
    checkNew name
    modify fun d => { d with anchors := (name, n) :: d.anchors }
  return n

/-- Names a collection while its members are read. -/
def collecting (anchor : Option String) (isMapping : Bool) (read : Drafting Node) :
    Drafting Node := do
  match anchor with
  | none => read
  | some name =>
    checkNew name
    modify fun d => { d with unfinished := (name, isMapping) :: d.unfinished }
    let n ← read
    modify fun d => { d with
      unfinished := d.unfinished.filter (·.1 ≠ name), anchors := (name, n) :: d.anchors }
    return n

end Drafting

/-- Where a node stands. Below a key the items of a list need no deeper column. -/
inductive Spot
  | flow
  | block
  | belowKey
  deriving DecidableEq

/-- A node that is left out. -/
def nothing : Node := .scalar .null ""

open Drafting

mutual

/-- A node. The first number bounds the steps, and the second tells how deep nodes may still lie in
each other. -/
def readNode : Nat → Nat → Spot → Drafting Node
  | 0, _, _ => throw misplaced
  | n + 1, depth, spot => do
    if let some (.reference name) ← peek then
      drop
      return ← refer name
    let (anchor, tag) ← takeMarks
    let items (read : Drafting (List Node)) : Drafting Node :=
      collecting anchor false do return .ofItems (kindOf tag .sequence) (← read)
    let pairs (read : Drafting (List (Node × Node))) : Drafting Node :=
      collecting anchor true do return .ofPairs (kindOf tag .mapping) (← read)
    let inBlock := spot ≠ .flow
    let deeper : Drafting Nat := if depth = 0 then throw tooDeep else pure (depth - 1)
    match ← peek with
    | some (.scalar text isPlain) =>
      drop
      let kind := if isPlain || tag = some "!" then Kind.ofPlain text else .text
      named anchor (.scalar (kindOf tag kind) text)
    | some .flowSequence => items do drop; readFlowItems n (← deeper) true
    | some .flowMapping => pairs do drop; readFlowPairs n (← deeper) true
    | some .blockSequence =>
      if inBlock then items do drop; readItems n (← deeper) else named anchor (← empty anchor tag)
    | some .blockMapping =>
      if inBlock then pairs do drop; readPairs n (← deeper) else named anchor (← empty anchor tag)
    | some .blockEntry =>
      if spot = .belowKey then items do readLooseItems n (← deeper)
      else named anchor (← empty anchor tag)
    | _ => named anchor (← empty anchor tag)

/-- The items of a list, each behind a dash. -/
def readItems : Nat → Nat → Drafting (List Node)
  | 0, _ => throw misplaced
  | n + 1, depth => do
    if ← take .blockEntry then
      let first ← if ← sees [.blockEntry, .blockEnd] then pure nothing else readNode n depth .block
      return first :: (← readItems n depth)
    else if ← take .blockEnd then return []
    else throw misplaced

/-- The items of a list in the column of the key above it. -/
def readLooseItems : Nat → Nat → Drafting (List Node)
  | 0, _ => throw misplaced
  | n + 1, depth => do
    if ← take .blockEntry then
      let first ← if ← sees [.blockEntry, .key, .value, .blockEnd] then pure nothing
        else readNode n depth .block
      return first :: (← readLooseItems n depth)
    else return []

/-- What stands behind the mark of a key or of a value, which may be left out. -/
def readPart : Nat → Nat → Drafting Node
  | 0, _ => throw misplaced
  | n + 1, depth => do
    if ← sees [.key, .value, .blockEnd] then return nothing else readNode n depth .belowKey

/-- The pairs of a mapping. -/
def readPairs : Nat → Nat → Drafting (List (Node × Node))
  | 0, _ => throw misplaced
  | n + 1, depth => do
    if ← take .key then
      let k ← readPart n depth
      let v ← if ← take .value then readPart n depth else pure nothing
      return (k, v) :: (← readPairs n depth)
    else if ← take .blockEnd then return []
    else throw misplaced

/-- A key in brackets, or a value, with the tokens before which it may be left out. -/
def readFlowPart : Nat → Nat → List Token → Drafting Node
  | 0, _, _ => throw misplaced
  | n + 1, depth, ends => do if ← sees ends then return nothing else readNode n depth .flow

/-- The value behind a key in brackets that end with a token. -/
def readFlowValue : Nat → Nat → Token → Drafting Node
  | 0, _, _ => throw misplaced
  | n + 1, depth, close => do
    if ← take .value then readFlowPart n depth [.flowEntry, close] else return nothing

/-- The items of a list in brackets. A key with its value is a mapping of its own. -/
def readFlowItems : Nat → Nat → Bool → Drafting (List Node)
  | 0, _, _ => throw misplaced
  | n + 1, depth, isFirst => do
    if ← take .flowSequenceEnd then return []
    if !isFirst then takeComma
    if ← take .key then
      if depth = 0 then throw tooDeep
      let k ← readFlowPart n (depth - 1) [.value, .flowEntry, .flowSequenceEnd]
      let v ← readFlowValue n (depth - 1) .flowSequenceEnd
      return .ofPairs .mapping [(k, v)] :: (← readFlowItems n depth false)
    else if ← take .flowSequenceEnd then return []
    else
      let first ← readNode n depth .flow
      return first :: (← readFlowItems n depth false)

/-- The pairs of a mapping in brackets. A node without a mark is a key without a value. -/
def readFlowPairs : Nat → Nat → Bool → Drafting (List (Node × Node))
  | 0, _, _ => throw misplaced
  | n + 1, depth, isFirst => do
    if ← take .flowMappingEnd then return []
    if !isFirst then takeComma
    if ← take .key then
      let k ← readFlowPart n depth [.value, .flowEntry, .flowMappingEnd]
      let v ← readFlowValue n depth .flowMappingEnd
      return (k, v) :: (← readFlowPairs n depth false)
    else if ← take .flowMappingEnd then return []
    else
      let k ← readNode n depth .flow
      return (k, nothing) :: (← readFlowPairs n depth false)

end

/-- The handles that every document knows. -/
def defaultHandles : List (String × String) := [("!", "!"), ("!!", kindMark)]

/-- The handles that directives declare. They must not repeat each other. -/
def handlesOf (hasVersion : Bool) (handles : List (String × String)) :
    List Directive → Except Error (List (String × String))
  | [] => .ok handles
  | .version major :: r =>
    if hasVersion || major ≠ 1 then .error misplaced else handlesOf true handles r
  | .handle name start :: r =>
    if (handles.lookup name).isSome then .error misplaced
    else handlesOf hasVersion ((name, start) :: handles) r
  | .other :: r => handlesOf hasVersion handles r

/-- Takes the directives before a document, and the mark at its beginning. -/
def openDocument : Drafting Unit := do
  let directive? (t : Token) : Option Directive :=
    match t with
    | .directive d => some d
    | _ => none
  let d ← get
  let directives := (d.tokens.takeWhile (directive? · |>.isSome)).filterMap directive?
  let handles ← handlesOf false [] directives
  set { d with tokens := d.tokens.drop directives.length, handles := handles ++ defaultHandles }
  if !(← take .documentStart) then throw misplaced

def isBeginning : Token → Bool
  | .directive _ | .documentStart => true
  | _ => false

/-- The node of a text, which holds at most one document. -/
def readDocument (fuel : Nat) : Drafting (Option Node) := do
  match ← peek with
  | none => return none
  | some t =>
    let isMarked := isBeginning t
    if isMarked then openDocument else modify ({ · with handles := defaultHandles })
    let isEmpty ← if isMarked then pure ((← peek).all fun t => isBeginning t || t == .documentEnd)
      else pure false
    let n ← if isEmpty then pure nothing else readNode fuel depthLimit .block
    let _ ← peek
    modify fun d => { d with tokens := d.tokens.dropWhile (· == .documentEnd) }
    if (← peek).isSome then
      openDocument
      throw badName
    return some n

/-- The value of a document, and whether some mapping lies in itself. -/
structure Document where
  value : Value
  endless : Bool

/-- The characters that a document may hold. -/
def isAllowed (c : Char) : Bool :=
  let n := c.toNat
  n = 9 || n = 0xa || n = 0xd || (0x20 ≤ n && n ≤ 0x7e) || n = 0x85 ||
    (0xa0 ≤ n && n ≤ 0xfffd) || 0x10000 ≤ n

/-- The document in a text; one without a node is null. -/
def read (cs : List Char) : Except Error Document := do
  if !cs.all isAllowed then throw (.malformedDocument .badCharacter)
  let (tokens, fault) := Token.ofText cs
  let (n, draft) ← (readDocument (4 * tokens.length + 16)).run { tokens, fault }
  match n.map Node.outcome with
  | none => return ⟨.null, false⟩
  | some ⟨v, none⟩ => return ⟨v, draft.endless⟩
  | some ⟨_, some f⟩ => throw f.cause

end ProcessTriggers.Yaml
