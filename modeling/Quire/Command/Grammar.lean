import Quire.Number.Numeral

/-! Command lines: options, which may stand anywhere and be shortened, and the
arguments between them. -/

namespace Quire.Command

inductive OptionKind
  | help
  | flag
  | value (accepts : String → Bool)

structure OptionSpec where
  names : List String
  key : String
  kind : OptionKind
  required : Bool := false

/-- How many arguments go to one name: one, one or more, or all that follow. -/
inductive Arity
  | one | many | rest
  deriving DecidableEq, Repr

structure Grammar where
  options : List OptionSpec
  arguments : List (String × Arity)

/-- Why nothing is run: help was asked for, or the line makes no sense. -/
inductive Halt
  | help
  | misuse
  deriving DecidableEq, Repr

def Halt.code : Halt → Nat
  | .help => 0
  | .misuse => 2

/-- What an argument is: an option, perhaps with its value attached, or a plain
one, or the mark after which all are plain. -/
inductive Mark
  | option (spec : Option OptionSpec) (name : String) (attached : Option String)
  | plain
  | mark

/-- What was given, and whether some of it has no place. -/
structure Parsed where
  given : List (String × List String) := []
  stray : Bool := false

namespace Parsed

def all (p : Parsed) (key : String) : List String := (p.given.lookup key).getD []

def last? (p : Parsed) (key : String) : Option String := (p.all key).getLast?

def has (p : Parsed) (key : String) : Bool := (p.given.lookup key).isSome

def put (p : Parsed) (key : String) (values : List String) : Parsed :=
  { p with given := (key, values) :: p.given }

end Parsed

namespace Grammar

def names (g : Grammar) : List (String × OptionSpec) :=
  g.options.flatMap fun o => o.names.map (·, o)

def startsWith (s start : String) : Bool := start.toList.isPrefixOf s.toList

/-- The text before the first equals sign and the one after it. -/
def cutValue (s : String) : String × Option String :=
  match s.toList.span (· ≠ '=') with
  | (name, _ :: value) => (String.ofList name, some (String.ofList value))
  | (name, []) => (String.ofList name, none)

/-- Options whose names go on from a shortened one. -/
def longMatches (g : Grammar) (s : String) : List Mark :=
  let (start, value) := cutValue s
  (g.names.filter fun n => startsWith n.1 start).map fun n =>
    .option (some n.2) n.1 value

/-- A short option with its value right behind it, or a shortened name. -/
def shortMatches (g : Grammar) (s : String) : List Mark :=
  g.names.filterMap fun n =>
    if n.1 = String.ofList (s.toList.take 2) then
      some (.option (some n.2) n.1 (some (String.ofList (s.toList.drop 2))))
    else if startsWith n.1 s then some (.option (some n.2) n.1 none)
    else none

def isNegative (s : String) : Bool :=
  match s.toList with
  | '-' :: cs =>
    match cs.span (· ≠ '.') with
    | (ds, []) => !ds.isEmpty && ds.all Char.isDigit
    | (ds, _ :: fraction) =>
      ds.all Char.isDigit && !fraction.isEmpty && fraction.all Char.isDigit
  | _ => false

def isPlain (s : String) : Bool := s.toList.head? ≠ some '-' || s = "-"

def spelled? (g : Grammar) (s : String) : Option Mark :=
  match g.names.lookup s with
  | some o => some (.option (some o) s none)
  | none =>
    let (name, value) := cutValue s
    match value, g.names.lookup name with
    | some v, some o => some (.option (some o) name (some v))
    | _, _ => none

/-- A shortened name must be that of one option only. -/
def classify (g : Grammar) (s : String) : Except Halt Mark :=
  if isPlain s then .ok .plain
  else match g.spelled? s with
    | some m => .ok m
    | none =>
      match if startsWith s "--" then g.longMatches s else g.shortMatches s with
      | [m] => .ok m
      | _ :: _ :: _ => .error .misuse
      | [] =>
        if isNegative s || s.toList.contains ' ' then .ok .plain else .ok (.option none s none)

def classifyAll (g : Grammar) : List String → Except Halt (List (String × Mark))
  | [] => .ok []
  | s :: rest =>
    if s = "--" then .ok ((s, .mark) :: rest.map (·, .plain))
    else do
      let m ← g.classify s
      return (s, m) :: (← classifyAll g rest)

def isOption : Mark → Bool
  | .option _ _ _ => true
  | _ => false

def isMark : Mark → Bool
  | .mark => true
  | _ => false

/-- How many of the arguments ahead an arity takes; none if there are too few. -/
def taken (arity : Arity) (line : List (String × Mark)) : Option Nat :=
  let marks := line.takeWhile fun x => isMark x.2
  match line.drop marks.length with
  | (_, .plain) :: rest =>
    let more := match arity with
      | .one => (rest.takeWhile fun x => isMark x.2).length
      | .many => (rest.takeWhile fun x => !isOption x.2).length
      | .rest => rest.length
    some (marks.length + 1 + more)
  | _ => none

/-- The arguments taken, without the mark among them. -/
def texts (arity : Arity) (line : List (String × Mark)) : List String :=
  let given := line.map (·.1)
  if arity = .rest then given else given.erase "--"

structure Scan where
  parsed : Parsed := {}
  waiting : List (String × Arity)
  line : List (String × Mark)

def Scan.withStray (s : Scan) : Scan := { s with parsed := { s.parsed with stray := true } }

/-- Gives the arguments ahead to the names that wait for some. -/
def Scan.takeArguments (s : Scan) : List (String × Arity) → Scan
  | [] => s
  | (key, arity) :: waiting =>
    match taken arity s.line with
    | none => s
    | some n =>
      Scan.takeArguments
        { parsed := s.parsed.put key (texts arity (s.line.take n))
          waiting
          line := s.line.drop n } waiting

/-- The options in one argument, with what is attached to each. All but the last
of a group of short ones must be without a value. -/
def expand (g : Grammar) :
    Nat → OptionSpec → String → Option String → Except Halt (List (OptionSpec × Option String))
  | 0, _, _, _ => .error .misuse
  | fuel + 1, o, name, attached =>
    match o.kind, attached.map String.toList with
    | .value _, _ => .ok [(o, attached)]
    | _, none => .ok [(o, none)]
    | _, some [] => .error .misuse
    | _, some (c :: rest) =>
      let next := String.ofList ['-', c]
      match startsWith name "--", g.names.lookup next with
      | false, some o' => do
        let others ← g.expand fuel o' next (if rest = [] then none else some (String.ofList rest))
        return (o, none) :: others
      | _, _ => .error .misuse

/-- Takes the value of an option: the attached one, or the next argument. -/
def Scan.store (s : Scan) (o : OptionSpec) (attached : Option String) : Except Halt Scan :=
  match o.kind with
  | .help => .error .help
  | .flag => .ok { s with parsed := s.parsed.put o.key [] }
  | .value accepts =>
    match attached, s.line with
    | some v, _ =>
      if accepts v then .ok { s with parsed := s.parsed.put o.key [v] } else .error .misuse
    | none, (v, .plain) :: rest =>
      if accepts v then .ok { s with parsed := s.parsed.put o.key [v], line := rest }
      else .error .misuse
    | none, _ => .error .misuse

/-- Whether an option finds the value it needs. -/
def Scan.supplies (s : Scan) (o : OptionSpec) (attached : Option String) : Bool :=
  match o.kind, attached, s.line with
  | .value _, none, (_, .plain) :: _ => true
  | .value _, none, _ => false
  | _, _, _ => true

/-- No option of a group counts unless all find their values. -/
def Scan.takeOption (g : Grammar) (s : Scan) (m : Mark) : Except Halt Scan :=
  match m with
  | .option (some o) name attached => do
    let group ← g.expand ((attached.map (·.length)).getD 0 + 1) o name attached
    if group.all fun x => s.supplies x.1 x.2 then
      group.foldlM (fun s x => s.store x.1 x.2) s
    else throw .misuse
  | _ => .ok s.withStray

/-- Through the line; each turn takes one argument at least. -/
def scan (g : Grammar) : Nat → Scan → Except Halt Scan
  | 0, s => .ok s
  | fuel + 1, s =>
    if s.line.any fun x => isOption x.2 then
      match s.line with
      | (_, m) :: rest =>
        if isOption m then do scan g fuel (← Scan.takeOption g { s with line := rest } m)
        else
          let after := s.takeArguments s.waiting
          if after.line.length < s.line.length then scan g fuel after
          else scan g fuel { s.withStray with line := s.line.dropWhile fun x => !isOption x.2 }
      | [] => .ok s
    else
      let s := s.takeArguments s.waiting
      .ok (if s.line.isEmpty then s else s.withStray)

def isMissing (p : Parsed) (o : OptionSpec) : Bool := o.required && !p.has o.key

/-- What a line gives. Names that got nothing and required options that are
missing make it senseless; arguments without a place are only told of. -/
def parse (g : Grammar) (line : List String) : Except Halt Parsed := do
  let line ← g.classifyAll line
  let s ← g.scan (2 * line.length + 1) ⟨{}, g.arguments, line⟩
  if !s.waiting.isEmpty || g.options.any (isMissing s.parsed) then throw .misuse
  return s.parsed

end Grammar
end Quire.Command
