import ProcessTriggers.Yaml.Scalar

/-!
The nodes of a document, and the values that they stand for. A collection is begun as soon as its
node is met and filled later, those nearest to the root first, so that of several faults the one
nearest to the root counts.
-/

namespace ProcessTriggers.Yaml

/-- A fault, and how many collections are filled before it is met. -/
structure Fault where
  round : Nat
  cause : Error

/-- The fault of a member as the collection around it sees it. -/
def Fault.later (f : Fault) : Fault := { f with round := f.round + 1 }

/-- A fault that is met while a collection is filled. -/
def Fault.inside (cause : Error) : Fault := ⟨1, cause⟩

/-- The fault that is met first; of several in one round the first of the list. -/
def Fault.first? (fs : List Fault) : Option Fault :=
  fs.foldl (fun best f => some (match best with
    | some b => if f.round < b.round then f else b
    | none => f)) none

/-- What a node stands for: a value, unless a fault is met. -/
structure Outcome where
  value : Value
  fault : Option Fault := none

inductive Node
  | scalar (kind : Kind) (text : String)
  | sequence (kind : Kind) (items : List Node) (outcome : Outcome)
  | mapping (kind : Kind) (pairs : List (Node × Node)) (outcome : Outcome)
  /-- A collection around this place, which is not finished yet. -/
  | around (isMapping : Bool)

namespace Node

def kind : Node → Kind
  | .scalar kind _ | .sequence kind _ _ | .mapping kind _ _ => kind
  | .around isMapping => if isMapping then .mapping else .sequence

/-- A node whose content does not suit its kind. A collection notices that when it is filled. -/
def unsuited (kind : Kind) : Outcome :=
  ⟨.list [], some (if kind.isCollection then .inside noValue else ⟨0, noValue⟩)⟩

/-- The value of a node that has the given text where a scalar is needed. -/
def ofText (kind : Kind) (text : Option String) : Outcome :=
  match text.map kind.read with
  | some (.ok v) => ⟨v, none⟩
  | some (.error e) => if kind.isCollection then unsuited kind else ⟨.null, some ⟨0, e⟩⟩
  | none => unsuited kind

def outcome : Node → Outcome
  | .scalar kind text => ofText kind (some text)
  | .sequence _ _ o | .mapping _ _ o => o
  | .around isMapping => ⟨if isMapping then .object [] else .list [], none⟩

def value (n : Node) : Value := n.outcome.value

/-- The faults of the members of a collection. -/
def faults (ns : List Node) : List Fault := ns.filterMap fun n => n.outcome.fault.map .later

mutual

/-- The text of a scalar, or of the value that a mapping has where a scalar is needed. -/
def text? : Node → Option String
  | .scalar _ text => some text
  | .mapping _ pairs _ => textOf? pairs
  | _ => none

def textOf? : List (Node × Node) → Option String
  | [] => none
  | (k, v) :: r => if k.kind = .value then v.text? else textOf? r

end

/-- A key that names the value of its mapping is a text where that value is not asked for. -/
def asKey : Node → Node
  | .scalar .value text => .scalar .text text
  | n => n

/-- The pairs that a mapping has by itself. -/
def own (pairs : List (Node × Node)) : List (Node × Node) :=
  (pairs.filter fun (k, _) => k.kind ≠ .merge).map fun (k, v) => (k.asKey, v)

mutual

/-- The pairs that a mapping hands on to one around it: those that it has from others and then its
own. -/
def handedOn : Node → Except Error (List (Node × Node))
  | .mapping _ pairs _ => do return (← inherited pairs) ++ own pairs
  | .around _ => .ok []
  | _ => .error noValue

/-- The pairs that a mapping has from others, which stand under a merging key. -/
def inherited : List (Node × Node) → Except Error (List (Node × Node))
  | [] => .ok []
  | (k, v) :: r => do
    let first ← if k.kind ≠ .merge then .ok [] else match v with
      | .sequence _ items _ => handedOnAll items
      | v => handedOn v
    return first ++ (← inherited r)

/-- Of several mappings the first one counts, so that its pairs come last. -/
def handedOnAll : List Node → Except Error (List (Node × Node))
  | [] => .ok []
  | n :: r => do
    let pairs ← handedOn n
    return (← handedOnAll r) ++ pairs

end

/-- A list of nodes; it is one of pairs where each of them is a mapping with one entry. -/
def ofItems (kind : Kind) (items : List Node) : Node :=
  let single? (n : Node) : Option (Node × Node) :=
    match n with
    | .mapping _ [pair] _ => some pair
    | _ => none
  let pairFaults (n : Node) : List Fault :=
    match single? n with
    | some (k, v) => faults [k, v]
    | none => [.inside noValue]
  .sequence kind items <|
    match kind with
    | .sequence => ⟨.list (items.map value), Fault.first? (faults items)⟩
    | .ordered | .pairs =>
      let pairs := (items.filterMap single?).map fun (k, v) => Value.list [k.value, v.value]
      ⟨.list pairs, Fault.first? (items.flatMap pairFaults)⟩
    | kind => unsuited kind

/-- The faults of a pair. Keys must not be collections. -/
def entryFaults (pair : Node × Node) : List Fault :=
  let (k, v) := pair
  faults [k] ++ (if k.value.isHashable then [] else [.inside noValue]) ++ faults [v]

/-- The keys and values of pairs. Of equal keys the last value counts, at the place of the first. -/
def distinct (pairs : List (Node × Node)) : List (Value × Value) :=
  let put (es : List (Value × Value)) (p : Node × Node) : List (Value × Value) :=
    let isSame (e : Value × Value) : Bool := e.1.equal p.1.value
    if es.any isSame then es.map fun e => if isSame e then (e.1, p.2.value) else e
    else es ++ [(p.1.value, p.2.value)]
  pairs.foldl put []

/-- A mapping, whose keys stand for their texts, or the set of its keys. -/
def ofPairs (kind : Kind) (pairs : List (Node × Node)) : Node :=
  let filled (make : List (Node × Node) → Value) : Outcome :=
    match inherited pairs with
    | .ok others =>
      let all := others ++ own pairs
      ⟨make all, Fault.first? (all.flatMap entryFaults)⟩
    | .error e => ⟨.object [], some (.inside e)⟩
  .mapping kind pairs <|
    match kind with
    | .mapping => filled fun all =>
      .object (Entries.ofPairs ((distinct all).map fun (k, v) => (k.shown, v)))
    | .set => filled fun all => .list ((distinct all).map (·.1))
    | kind => ofText kind (textOf? pairs)

end Node
end ProcessTriggers.Yaml
