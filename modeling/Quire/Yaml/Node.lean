import Quire.Yaml.Lexer
import Quire.Yaml.Scalar

/-! The tree of nodes that the tokens of one document describe, with the kind
of each node settled and every alias replaced by the node it names. An alias
inside the node it names stays a leaf. -/

namespace Quire.Yaml

inductive Node
  | scalar (kind : Kind) (text : String)
  | sequence (kind : Kind) (items : List Node)
  | mapping (kind : Kind) (pairs : List (Node × Node))
  /-- A collection of the kind that is around this place already. -/
  | again (kind : Kind)

namespace Node

def kind : Node → Kind
  | .scalar k _ => k
  | .sequence k _ => k
  | .mapping k _ => k
  | .again k => k

/-- An empty place where a node could stand. -/
def absent : Node := .scalar .null ""

end Node

/-- Tokens still to come, the anchors met so far with what an alias stands for
at this place, and how many collections are open. -/
structure Stream where
  tokens : List Token
  trouble : Option Trouble
  anchors : List (String × Node) := []
  handles : List (String × String) := [("!", "!"), ("!!", coreTag)]
  depth : Nat := 0

namespace Stream

/-- Collections may be nested so deep and no deeper. -/
def depthLimit : Nat := 485

def peek (s : Stream) : Scan Token :=
  match s.tokens with
  | t :: _ => .ok t
  | [] => .error (s.trouble.getD .malformed)

def drop (s : Stream) : Stream := { s with tokens := s.tokens.drop 1 }

/-- Whether the next token is one of those given. -/
def meets (s : Stream) (ts : List Token) : Scan Bool := do return ts.contains (← s.peek)

def anchored (s : Stream) (anchor : Option String) (node : Node) : Stream :=
  match anchor with
  | none => s
  | some name =>
    { s with anchors := s.anchors.map fun a => if a.1 = name then (name, node) else a }

/-- Into a collection of the kind; until it is complete its anchor stands for
the collection around the place. -/
def enter (s : Stream) (anchor : Option String) (kind : Kind) : Scan Stream :=
  if depthLimit ≤ s.depth then .error .endless
  else .ok { (s.anchored anchor (.again kind)) with depth := s.depth + 1 }

end Stream

/-- What may stand before a node. -/
structure Properties where
  anchor : Option String
  tag : Option String

def resolveTag (s : Stream) (handle : Option String) (suffix : String) : Scan String :=
  match handle with
  | none => .ok suffix
  | some h =>
    match s.handles.find? (·.1 = h) with
    | some (_, expansion) => .ok (expansion ++ suffix)
    | none => refuse

def properties (s : Stream) : Scan (Properties × Stream) := do
  match ← s.peek with
  | .anchor name =>
    let s := s.drop
    match ← s.peek with
    | .tag handle suffix => return (⟨some name, some (← resolveTag s handle suffix)⟩, s.drop)
    | _ => return (⟨some name, none⟩, s)
  | .tag handle suffix =>
    let tag ← resolveTag s handle suffix
    let s := s.drop
    match ← s.peek with
    | .anchor name => return (⟨some name, some tag⟩, s.drop)
    | _ => return (⟨none, some tag⟩, s)
  | _ => return (⟨none, none⟩, s)

/-- A tag decides; without one the form of plain text does, and other text is
text. The tag `!` leaves it to the form. -/
def scalarKind (tag : Option String) (isPlain : Bool) (text : String) : Kind :=
  match tag with
  | none => if isPlain then Scalar.kindOf text else .str
  | some "!" => Scalar.kindOf text
  | some t => Kind.ofTag t

def collectionKind (tag : Option String) (kind : Kind) : Kind :=
  match tag with
  | none => kind
  | some "!" => kind
  | some t => Kind.ofTag t

def Stream.announce (s : Stream) (anchor : Option String) : Scan Stream :=
  match anchor with
  | none => .ok s
  | some name =>
    if s.anchors.any (·.1 = name) then refuse
    else .ok { s with anchors := (name, .absent) :: s.anchors }

def Stream.settle (s : Stream) (anchor : Option String) (node : Node) : Node × Stream :=
  (node, s.anchored anchor node)

/-- Out of a collection, which is complete now. -/
def Stream.leave (s : Stream) (anchor : Option String) (node : Node) : Node × Stream :=
  { s with depth := s.depth - 1 }.settle anchor node

mutual

/-- One node. Inside a block mapping a sequence may stand at the column of its
key, without an indent of its own. -/
def readNode (steps : Nat) (inBlock bare : Bool) (s : Stream) : Scan (Node × Stream) :=
  match steps with
  | 0 => refuse
  | steps + 1 => do
    match ← s.peek with
    | .alias name =>
      match s.anchors.find? (·.1 = name) with
      | some (_, node) => return (node, s.drop)
      | none => refuse
    | _ =>
      let (props, s) ← properties s
      let s ← s.announce props.anchor
      let listKind := collectionKind props.tag .sequence
      let mapKind := collectionKind props.tag .mapping
      match ← s.peek with
      | .scalar text isPlain =>
        return s.drop.settle props.anchor (.scalar (scalarKind props.tag isPlain text) text)
      | .flowSequenceStart =>
        let (items, s) ← flowItems steps true [] (← s.drop.enter props.anchor listKind)
        return s.leave props.anchor (.sequence listKind items)
      | .flowMappingStart =>
        let (pairs, s) ← flowPairs steps true [] (← s.drop.enter props.anchor mapKind)
        return s.leave props.anchor (.mapping mapKind pairs)
      | t =>
        if bare ∧ t = .blockEntry then
          let (items, s) ← bareItems steps [] (← s.enter props.anchor listKind)
          return s.leave props.anchor (.sequence listKind items)
        else if inBlock ∧ t = .blockSequenceStart then
          let (items, s) ← blockItems steps [] (← s.drop.enter props.anchor listKind)
          return s.leave props.anchor (.sequence listKind items)
        else if inBlock ∧ t = .blockMappingStart then
          let (pairs, s) ← blockPairs steps [] (← s.drop.enter props.anchor mapKind)
          return s.leave props.anchor (.mapping mapKind pairs)
        else if props.anchor.isSome ∨ props.tag.isSome then
          return s.settle props.anchor (.scalar (scalarKind props.tag true "") "")
        else refuse

/-- A node, or an empty place when one of `stops` comes next. -/
def readOrAbsent (steps : Nat) (inBlock bare : Bool) (stops : List Token) (s : Stream) :
    Scan (Node × Stream) :=
  match steps with
  | 0 => refuse
  | steps + 1 => do
    if ← s.meets stops then return (.absent, s) else readNode steps inBlock bare s

def blockItems (steps : Nat) (acc : List Node) (s : Stream) : Scan (List Node × Stream) :=
  match steps with
  | 0 => refuse
  | steps + 1 => do
    match ← s.peek with
    | .blockEntry =>
      let (node, s) ← readOrAbsent steps true false [.blockEntry, .blockEnd] s.drop
      blockItems steps (node :: acc) s
    | .blockEnd => return (acc.reverse, s.drop)
    | _ => refuse

def bareItems (steps : Nat) (acc : List Node) (s : Stream) : Scan (List Node × Stream) :=
  match steps with
  | 0 => refuse
  | steps + 1 => do
    match ← s.peek with
    | .blockEntry =>
      let (node, s) ← readOrAbsent steps true false [.blockEntry, .key, .value, .blockEnd] s.drop
      bareItems steps (node :: acc) s
    | _ => return (acc.reverse, s)

def blockPairs (steps : Nat) (acc : List (Node × Node)) (s : Stream) :
    Scan (List (Node × Node) × Stream) :=
  match steps with
  | 0 => refuse
  | steps + 1 => do
    match ← s.peek with
    | .key =>
      let (key, s) ← readOrAbsent steps true true [.key, .value, .blockEnd] s.drop
      match ← s.peek with
      | .value =>
        let (value, s) ← readOrAbsent steps true true [.key, .value, .blockEnd] s.drop
        blockPairs steps ((key, value) :: acc) s
      | _ => blockPairs steps ((key, .absent) :: acc) s
    | .blockEnd => return (acc.reverse, s.drop)
    | _ => refuse

/-- The value of a pair between brackets, if its colon comes next. -/
def flowValue (steps : Nat) (stops : List Token) (s : Stream) : Scan (Node × Stream) :=
  match steps with
  | 0 => refuse
  | steps + 1 => do
    match ← s.peek with
    | .value => readOrAbsent steps false false stops s.drop
    | _ => return (.absent, s)

def flowItems (steps : Nat) (first : Bool) (acc : List Node) (s : Stream) :
    Scan (List Node × Stream) :=
  match steps with
  | 0 => refuse
  | steps + 1 => do
    if (← s.peek) = .flowSequenceEnd then return (acc.reverse, s.drop)
    else
      let s ← if first then pure s
        else if (← s.peek) = .flowEntry then pure s.drop
        else refuse
      match ← s.peek with
      | .flowSequenceEnd => return (acc.reverse, s.drop)
      | .key =>
        let (key, s) ← readOrAbsent steps false false [.value, .flowEntry, .flowSequenceEnd] s.drop
        let (value, s) ← flowValue steps [.flowEntry, .flowSequenceEnd] s
        flowItems steps false (.mapping .mapping [(key, value)] :: acc) s
      | _ =>
        let (node, s) ← readNode steps false false s
        flowItems steps false (node :: acc) s

def flowPairs (steps : Nat) (first : Bool) (acc : List (Node × Node)) (s : Stream) :
    Scan (List (Node × Node) × Stream) :=
  match steps with
  | 0 => refuse
  | steps + 1 => do
    if (← s.peek) = .flowMappingEnd then return (acc.reverse, s.drop)
    else
      let s ← if first then pure s
        else if (← s.peek) = .flowEntry then pure s.drop
        else refuse
      match ← s.peek with
      | .flowMappingEnd => return (acc.reverse, s.drop)
      | .key =>
        let (key, s) ← readOrAbsent steps false false [.value, .flowEntry, .flowMappingEnd] s.drop
        let (value, s) ← flowValue steps [.flowEntry, .flowMappingEnd] s
        flowPairs steps false ((key, value) :: acc) s
      | _ =>
        let (node, s) ← readNode steps false false s
        flowPairs steps false ((node, .absent) :: acc) s

end

/-- The directives before a document: one version at most, each handle once. -/
def directives (versioned : Bool) (own : List (String × String)) :
    List Token → Scan (List (String × String) × List Token)
  | .directive (.version major) :: rest =>
    if versioned ∨ major ≠ 1 then refuse else directives true own rest
  | .directive (.tagHandle handle expansion) :: rest =>
    if own.any (·.1 = handle) then refuse
    else directives versioned ((handle, expansion) :: own) rest
  | .directive .other :: rest => directives versioned own rest
  | rest => .ok (own, rest)

def isDirective : Token → Bool
  | .directive _ => true
  | _ => false

/-- After the one document nothing but end marks may come. -/
def Stream.finish (s : Stream) : Scan Unit := do
  let next ← peek { s with tokens := s.tokens.dropWhile (· = .documentEnd) }
  if next = .streamEnd then return () else refuse

/-- The node of the one document in a text, if there is one. -/
def Node.ofText (cs : List Char) : Scan (Option Node) := do
  if cs.any (!isAllowed ·) then refuse
  else
    let (tokens, trouble) := Token.scan cs
    let steps := 4 * tokens.size + 4
    let s : Stream := { tokens := tokens.toList, trouble }
    let first ← s.peek
    if first = .streamEnd then return none
    else if isDirective first ∨ first = .documentStart then
      let (own, rest) ← directives false [] s.tokens
      let s := { s with tokens := rest, handles := own ++ s.handles }
      if (← s.peek) ≠ .documentStart then refuse
      else
        let s := s.drop
        let next ← s.peek
        if isDirective next ∨ [.documentStart, .documentEnd, .streamEnd].contains next then
          s.finish
          return some .absent
        else
          let (node, s) ← readNode steps true false s
          s.finish
          return some node
    else
      let (node, s) ← readNode steps true false s
      s.finish
      return some node

end Quire.Yaml
