import Quire.Config
import Quire.Number.Numeral
import Quire.Value.Extent
import Quire.Value.Sequence

/-! Settings made to fit: text to numbers and truth values, single texts to
lists. Null always stays null. -/

namespace Quire.Coercion

/-- Bytes as characters, for a reader of numbers; those beyond ASCII are in none. -/
def byteChars (b : List UInt8) : List Char :=
  b.map fun n => if n < 128 then Char.ofNat n.toNat else '?'

/-- A whole number: read from text or bytes, or cut off towards zero. -/
def wholeNumber (v : Value) : Except Mishap Int :=
  match v with
  | .str s => (Numeral.whole s).mapError .badValue
  | .bytes b => (Numeral.wholeOf (byteChars b) (Text.quotedBytes b)).mapError .badValue
  | .bool b => .ok (if b then 1 else 0)
  | .int n => .ok n
  | .real x => match x.truncate? with
    | some n => .ok n
    | none => .error (if x.isNaN then .badValue "cannot convert float NaN to integer"
        else ⟨.overflow, "cannot convert float infinity to integer"⟩)
  | v => .error (.badKind ("int() argument must be a string, a bytes-like object or a real number, not '"
      ++ v.kind.fullName ++ "'"))

def whole (v : Value) : Except Mishap Value := (wholeNumber v).map .int

/-- A whole number as floating point, where that has room for it. -/
def orOverflow (x : Option Binary64) : Except Mishap Value :=
  match x with
  | some x => .ok (.real x)
  | none => .error ⟨.overflow, "int too large to convert to float"⟩

def real (v : Value) : Except Mishap Value :=
  match v with
  | .str s => (Numeral.real s).mapError .badValue |>.map .real
  | .bytes b => (Numeral.realOf (byteChars b) (Text.quotedBytes b)).mapError .badValue |>.map .real
  | .bool b => .ok (.real (.ofInt (if b then 1 else 0)))
  | .int n => orOverflow (Number.toReal? (.whole n))
  | .real x => .ok (.real x)
  | v => .error (.badKind ("float() argument must be a string or a real number, not '"
      ++ v.kind.fullName ++ "'"))

/-- A truth value; of texts only a few mean yes. -/
def flag (v : Value) : Except Mishap Value :=
  match v with
  | .str s => .ok (.bool (["1", "true", "yes", "on"].contains (Text.lower (Text.strip s))))
  | v => .ok (.bool v.truthy)

/-- Text as it is, and of anything else what it reads like. -/
def text (v : Value) : Except Mishap Value :=
  if v.isWritable then .ok v.toText else .error (.badValue Numeral.unwritable)

def unlessNull (f : Value → Except Mishap Value) (v : Value) : Except Mishap Value :=
  if v.isNull then .ok .null else f v

/-- A list of texts; one text is a list of one. -/
def texts (v : Value) : Except Mishap Value := do
  let items ← match v with
    | .str s => pure [.str s]
    | v => v.members
  return .list (← items.mapM (unlessNull text))

def anything (v : Value) : Except Mishap Value := .ok v

/-- Whether a failure tells of a setting that does not fit. -/
def isMisfit : Failure → Bool
  | .fault f => f.kind = .configuration
  | .mishap m => m.kind = .badKind || m.kind.isValue

def misfit (table name : String) (e : Failure) : Failure :=
  if isMisfit e then
    .fault (.configuration ("Invalid value for " ++ table ++ "." ++ name ++ ": " ++ e.text) none)
  else e

/-- A setting from a table: the default when it is absent. -/
def field {α : Type} (table : String) (es : Entries) (name : String) (default null : α)
    (convert : Value → Outcome α) : Outcome α :=
  match Entries.field? es name with
  | none => .ok default
  | some .null => .ok null
  | some v => match convert v with
    | .ok a => .ok a
    | .error e => .error (misfit table name e)

def value (table : String) (es : Entries) (name : String) (default : Value)
    (convert : Value → Except Mishap Value) : Outcome Value :=
  field table es name default .null fun v => (convert v : Except Mishap Value)

/-- A table of its own within another. -/
def inner {α : Type} (table : String) (es : Entries) (name : String) (default : Section α)
    (convert : Value → Outcome α) : Outcome (Section α) :=
  field table es name default (.other .null) fun v => do return .fields (← convert v)

/-- Settings must come as a table; null stands for an empty one. -/
def entriesOf (table : String) (v : Value) : Outcome Entries :=
  match v with
  | .null => .ok []
  | .map es => .ok es
  | v => .error (.fault (.configuration
      ("Expected a table for " ++ table ++ "; got " ++ v.kindName ++ ".") none))

end Quire.Coercion
