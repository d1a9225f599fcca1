import Quire.Failure
import Quire.Value.Slots
import Quire.Yaml.Node

/-! From nodes to values. In a mapping the merge keys are spread out first; then
keys and values follow in order, and of a set the keys alone are kept. Collections are filled one level after
another, so of two troubles the one nearer to the root is met first. -/

namespace Quire.Yaml
namespace Node

mutual

/-- The pairs that the value of a merge key brings in: of a mapping its own, of
a list those of its mappings, the last mapping first. A mapping merged into
itself brings nothing that it has not got. -/
def merged : Node → Scan (List (Node × Node))
  | .mapping _ pairs => spread pairs
  | .sequence _ items => do return (← mergedItems items).reverse.flatten
  | .again .mapping => .ok []
  | .again _ | .scalar _ _ => refuse

def mergedItems : List Node → Scan (List (List (Node × Node)))
  | [] => .ok []
  | .mapping _ pairs :: rest => do
    let own ← spread pairs
    return own :: (← mergedItems rest)
  | .again .mapping :: rest => mergedItems rest
  | _ :: _ => refuse

/-- Merged pairs in front of the mapping's own. -/
def spread (pairs : List (Node × Node)) : Scan (List (Node × Node)) := do
  let (brought, own) ← parted pairs
  return brought ++ own

def parted : List (Node × Node) → Scan (List (Node × Node) × List (Node × Node))
  | [] => .ok ([], [])
  | (key, value) :: rest => do
    match key with
    | .scalar .merge _ =>
      let here ← merged value
      let (brought, own) ← parted rest
      return (here ++ brought, own)
    | .sequence .merge _ | .mapping .merge _ =>
      let here ← merged value
      let (brought, own) ← parted rest
      return (here ++ brought, own)
    | .scalar .default text =>
      let (brought, own) ← parted rest
      return (brought, (.scalar .str text, value) :: own)
    | key =>
      let (brought, own) ← parted rest
      return (brought, (key, value) :: own)

end

mutual

/-- Levels of nodes below and including this one. -/
def height : Node → Nat
  | .scalar _ _ => 1
  | .again _ => 1
  | .sequence _ items => heightItems items + 1
  | .mapping _ pairs => heightPairs pairs + 1

def heightItems : List Node → Nat
  | [] => 0
  | n :: ns => max (height n) (heightItems ns)

def heightPairs : List (Node × Node) → Nat
  | [] => 0
  | (k, v) :: ps => max (height k) (max (height v) (heightPairs ps))

end

/-- The text of a scalar; a mapping may hold it under the key `=`. -/
def textOf : Node → Scan String
  | .scalar _ text => .ok text
  | .mapping _ pairs => textAmong pairs
  | .sequence _ _ => refuse
  | .again _ => .error .endless
where
  textAmong : List (Node × Node) → Scan String
    | [] => refuse
    | (.scalar .default _, value) :: _ => textOf value
    | _ :: rest => textAmong rest

def isScalar : Node → Bool
  | .scalar _ _ => true
  | _ => false

/-- The time that a text names; only a node that is text itself has one. -/
def timestamp (n : Node) : Scan Value := do
  let text ← n.textOf
  if n.isScalar then Scalar.readTimestamp text
  else throw (.badKind "expected string or bytes-like object, got 'list'")

/-- The value of a node that is complete at once, or an empty collection. -/
def start (n : Node) : Scan Value := do
  match n.kind with
  | .null =>
    let _ ← n.textOf
    return .null
  | .bool => return .bool (← Scalar.readBool (← n.textOf))
  | .int => return .int (← Scalar.readInt (← n.textOf))
  | .real => return .real (← Scalar.readReal (← n.textOf))
  | .str => return .str (← n.textOf)
  | .binary => return .bytes (← Scalar.readBinary (← n.textOf))
  | .timestamp => n.timestamp
  | .sequence | .orderedPairs | .pairs => return .list []
  | .mapping => return .map []
  | .set => return .set []
  | .merge | .default | .unknown => refuse

/-- The single pair of each element of a list of pairs. -/
def pairOf : Node → Scan (Node × Node)
  | .mapping _ [pair] => .ok pair
  | _ => refuse

/-- The whole value of a node. -/
def build (levels : Nat) (n : Node) : Scan Value :=
  match levels with
  | 0 => refuse
  | levels + 1 => do
    match n.kind, n with
    | .sequence, .sequence _ items => return .list (← items.mapM (build levels))
    | .mapping, .mapping _ pairs =>
      let entries ← (← spread pairs).mapM fun pair => do
        return (← pair.1.start, ← build levels pair.2)
      return .map (Entries.ofList entries)
    | .set, .mapping _ pairs =>
      return .set (Value.inSlots (← (← spread pairs).mapM fun pair => pair.1.start))
    | .mapping, .again _ => return .cycle true
    | .sequence, .again _ | .orderedPairs, .again _ | .pairs, .again _ | .set, .again _ =>
      return .cycle false
    | .orderedPairs, .sequence _ items | .pairs, .sequence _ items =>
      return .list (← items.mapM fun item => do
        let (key, value) ← pairOf item
        return .tuple [← build levels key, ← build levels value])
    | .sequence, _ | .mapping, _ | .orderedPairs, _ | .pairs, _ | .set, _ => refuse
    | _, _ => n.start

/-- A key must not be a collection, whatever that would hold. -/
def startKey (n : Node) : Scan Unit := do
  if (← n.start).isFixed then return () else refuse

def startPairs (pairs : List (Node × Node)) : Scan (List Node) := do
  let pairs ← spread pairs
  pairs.forM fun pair => do
    startKey pair.1
    let _ ← pair.2.start
  return pairs.map (·.2)

/-- Starts everything right below a node; answers with the nodes to go on to. -/
def fill (n : Node) : Scan (List Node) := do
  match n.kind, n with
  | .sequence, .sequence _ items =>
    items.forM fun item => do let _ ← item.start
    return items
  | .mapping, .mapping _ pairs | .set, .mapping _ pairs => startPairs pairs
  | _, .again _ => return []
  | .orderedPairs, .sequence _ items | .pairs, .sequence _ items =>
    let nested ← items.mapM fun item => do
      let (key, value) ← pairOf item
      let _ ← key.start
      let _ ← value.start
      return [key, value]
    return nested.flatten
  | .sequence, _ | .mapping, _ | .orderedPairs, _ | .pairs, _ | .set, _ => refuse
  | _, _ => return []

/-- Meets the troubles of a tree level by level. -/
def survey (levels : Nat) (nodes : List Node) : Scan Unit :=
  match levels with
  | 0 => .ok ()
  | levels + 1 => do
    if nodes.isEmpty then return ()
    else survey levels (← nodes.mapM fill).flatten

end Node

/-- What a text is refused for: bad form, or a scalar without a value. -/
inductive ReadError
  | malformed
  | mishap (m : Mishap)

/-- Where a text is malformed is not told. -/
def ReadError.message : ReadError → String
  | .malformed => "<yaml>"
  | .mishap m => m.text

def Trouble.toReadError : Trouble → ReadError
  | .malformed => .malformed
  | .badValue text => .mishap (.badValue text)
  | .noIndex => .mishap ⟨.noIndex, "string index out of range"⟩
  | .noKey name => .mishap (.noKey name)
  | .noField text => .mishap (.noField text)
  | .badKind text => .mishap (.badKind text)
  | .endless => .mishap (.tooDeep " while calling a Python object")
  | .overflow text => .mishap ⟨.overflow, text⟩

def readDocument (cs : List Char) : Scan Value := do
  match ← Node.ofText cs with
  | none => return .null
  | some node =>
    let levels := node.height
    let _ ← node.start
    Node.survey levels [node]
    Node.build levels node

/-- The value of the one document in a text; an empty text holds null. -/
def read (s : String) : Except ReadError Value :=
  match readDocument s.toList with
  | .ok v => .ok v
  | .error e => .error e.toReadError

end Quire.Yaml
