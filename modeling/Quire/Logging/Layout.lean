import Quire.Logging.Field
import Quire.Text.Word

/-! Layouts of log lines: literal text with fields such as `%(name)-8s` in it. -/

namespace Quire

structure LogRecord where
  logger : String
  level : Value
  levelName : String
  message : Value
  time : String

namespace Layout

inductive Piece
  | literal (c : Char)
  | field (name : String) (style : Style)

def content? (r : LogRecord) : String → Option Value
  | "name" => some (.str r.logger)
  | "levelname" => some (.str r.levelName)
  | "levelno" => some r.level
  | "message" => some r.message.toText
  | "msg" => some r.message
  | "args" => some (.tuple [])
  | "asctime" => some (.str r.time)
  | "exc_info" => some .null
  | "exc_text" => some .null
  | "stack_info" => some .null
  | "threadName" => some (.str "MainThread")
  | "processName" => some (.str "MainProcess")
  | _ => none

def digitsOf (cs : List Char) : Nat :=
  cs.foldl (fun n c => 10 * n + (c.toNat - '0'.toNat)) 0

/-- The style at the start of `cs`, and what follows it. -/
def style? (cs : List Char) : Option (Style × List Char) :=
  let flags := cs.takeWhile fun c => ['-', '+', ' ', '#', '0'].contains c
  let cs := cs.drop flags.length
  let width := cs.takeWhile Char.isDigit
  let cs := cs.drop width.length
  let (limit, cs) := match cs with
    | '.' :: rest =>
      let digits := rest.takeWhile Char.isDigit
      (some (digitsOf digits), rest.drop digits.length)
    | _ => (none, cs)
  let cs := match cs with
    | c :: rest => if ['h', 'l', 'L'].contains c then rest else cs
    | [] => []
  match cs with
  | form :: rest => some (⟨flags, digitsOf width, limit, form⟩, rest)
  | [] => none

def cut : Nat → List Char → Option (List Piece)
  | _, [] => some []
  | 0, _ => none
  | fuel + 1, '%' :: '%' :: rest => do return .literal '%' :: (← cut fuel rest)
  | fuel + 1, '%' :: '(' :: rest => do
    let name := rest.takeWhile (· ≠ ')')
    let (style, rest) ← style? (rest.drop (name.length + 1))
    return .field (String.ofList name) style :: (← cut fuel rest)
  | _ + 1, '%' :: _ => none
  | fuel + 1, c :: rest => do return .literal c :: (← cut fuel rest)

def pieces? (layout : String) : Option (List Piece) := cut layout.toList.length layout.toList

def Piece.write? (r : LogRecord) : Piece → Option (List Char)
  | .literal c => some [c]
  | .field name style => (content? r name).bind style.write?

/-- The line for a record; none where the layout asks for what a record lacks. -/
def render? (layout : String) (r : LogRecord) : Option String := do
  return String.ofList (← (← pieces? layout).mapM (Piece.write? r)).flatten

def isForm (c : Char) : Bool := "diouxefgcrsa%".toList.contains c.toLower

def dropNumber (cs : List Char) : Option (List Char) :=
  match cs with
  | '*' :: rest => some rest
  | _ =>
    let rest := cs.dropWhile fun c => (Text.digitValue? c).isSome
    if rest.length < cs.length then some rest else none

/-- Whether a whole field stands at the start of `cs`. -/
def startsField (cs : List Char) : Bool :=
  match cs with
  | '%' :: '(' :: rest =>
    let name := rest.takeWhile Text.isWord
    match rest.drop name.length with
    | ')' :: rest =>
      let rest := rest.dropWhile fun c => ['#', '0', '+', ' ', '-'].contains c
      let rest := (dropNumber rest).getD rest
      let rest := match rest with
        | '.' :: more => (dropNumber more).getD rest
        | _ => rest
      !name.isEmpty && rest.head?.any isForm
    | _ => false
  | _ => false

def holdsField : List Char → Bool
  | [] => false
  | c :: cs => startsField (c :: cs) || holdsField cs

/-- A layout is of use when some field is in it. -/
def isUsable (layout : String) : Bool := holdsField layout.toList

end Layout
end Quire
