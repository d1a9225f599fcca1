import Quire.Calendar
import Quire.Number

/-! The loose tree that metadata, schemas and aggregates are made of. Mappings
keep the order of their entries and take any value as a key; a text key is the
usual case. A collection may lie inside itself: where it would start over the
tree has a leaf that says so. -/

namespace Quire

inductive Value
  | null
  | bool (b : Bool)
  | int (n : Int)
  | real (x : Binary64)
  | str (s : String)
  | date (d : Date)
  | moment (m : Moment)
  | time (t : TimeOfDay)
  | bytes (b : List UInt8)
  | list (xs : List Value)
  | tuple (xs : List Value)
  | map (es : List (Value × Value))
  /-- Members without an order of their own, in the order in which they are shown. -/
  | set (xs : List Value)
  /-- A list or, when `mapping`, a mapping that is around this place already. -/
  | cycle (mapping : Bool)
  /-- What stands for no value at all, or a copy of that, which does not. -/
  | missing (copy : Bool)
  deriving Inhabited

/-- A mapping, in the order in which its keys were first written. -/
abbrev Entries := List (Value × Value)

namespace Value

inductive Kind
  | null | bool | int | real | str | date | moment | time | bytes | list | tuple | map | set
  | missing
  deriving DecidableEq, Repr

def kind : Value → Kind
  | .null => .null
  | .bool _ => .bool
  | .int _ => .int
  | .real _ => .real
  | .str _ => .str
  | .date _ => .date
  | .moment _ => .moment
  | .time _ => .time
  | .bytes _ => .bytes
  | .list _ => .list
  | .tuple _ => .tuple
  | .map _ => .map
  | .set _ => .set
  | .cycle mapping => if mapping then .map else .list
  | .missing _ => .missing

/-- How messages name a kind of value. -/
def Kind.name : Kind → String
  | .null => "NoneType"
  | .bool => "bool"
  | .int => "int"
  | .real => "float"
  | .str => "str"
  | .date => "date"
  | .moment => "datetime"
  | .time => "time"
  | .bytes => "bytes"
  | .list => "list"
  | .tuple => "tuple"
  | .map => "dict"
  | .set => "set"
  | .missing => "_Missing"

def kindName (v : Value) : String := v.kind.name

/-- The name of a kind together with the family it belongs to. -/
def Kind.fullName : Kind → String
  | .date => "datetime.date"
  | .moment => "datetime.datetime"
  | .time => "datetime.time"
  | k => k.name

def isNull : Value → Bool
  | .null => true
  | _ => false

/-- Truth of a value: zero, the empty and the absent are false. -/
def truthy : Value → Bool
  | .null => false
  | .bool b => b
  | .int n => n != 0
  | .real x => match x with
    | .finite _ 0 => false
    | _ => true
  | .str s => !s.isEmpty
  | .bytes b => !b.isEmpty
  | .list xs => !xs.isEmpty
  | .tuple xs => !xs.isEmpty
  | .map es => !es.isEmpty
  | .set xs => !xs.isEmpty
  | .missing _ => false
  | _ => true

/-- Booleans count as zero and one. -/
def number? : Value → Option Number
  | .bool b => some (.whole (if b then 1 else 0))
  | .int n => some (.whole n)
  | .real x => some (.real x)
  | _ => none

def str? : Value → Option String
  | .str s => some s
  | _ => none

def list? : Value → Option (List Value)
  | .list xs => some xs
  | _ => none

def map? : Value → Option Entries
  | .map es => some es
  | _ => none

/-- The elements of a list or tuple. -/
def elements? : Value → Option (List Value)
  | .list xs => some xs
  | .tuple xs => some xs
  | _ => none

def ofNumber : Number → Value
  | .whole n => .int n
  | .real x => .real x

mutual

/-- Equality across kinds: numbers by their value, truth values among them,
moments by their instant, mappings and sets without regard to order. A NaN that
has a name is equal to itself, as one and the same thing. -/
def same : Value → Value → Bool
  | .null, .null => true
  | .str a, .str b => a = b
  | .date a, .date b => a = b
  | .moment a, .moment b => a.same b
  | .time a, .time b => a = b
  | .bytes a, .bytes b => a = b
  | .list xs, .list ys => sameList xs ys
  | .tuple xs, .tuple ys => sameList xs ys
  | .map es, .map fs => es.length = fs.length && sameEntries es fs
  | .set xs, .set ys => xs.length = ys.length && allAmong xs ys
  | .cycle a, .cycle b => a = b
  | .missing a, .missing b => a = b
  | .real (.nan a), .real (.nan b) => a = b && a != 0
  | .bool a, w => w.number?.any (Number.same (.whole (if a then 1 else 0)))
  | .int a, w => w.number?.any (Number.same (.whole a))
  | .real a, w => w.number?.any (Number.same (.real a))
  | _, _ => false

def sameList : List Value → List Value → Bool
  | [], [] => true
  | x :: xs, y :: ys => same x y && sameList xs ys
  | _, _ => false

/-- Every entry of the first has its like in the second. -/
def sameEntries : List (Value × Value) → List (Value × Value) → Bool
  | [], _ => true
  | (k, v) :: es, fs => fs.any (fun entry => same k entry.1 && same v entry.2) && sameEntries es fs

/-- Every one of the first has its like among the second. -/
def allAmong : List Value → List Value → Bool
  | [], _ => true
  | x :: xs, ys => ys.any (same x) && allAmong xs ys

end

mutual

/-- Whether a value may be a key: lists, mappings and sets change and may not. -/
def isFixed : Value → Bool
  | .list _ => false
  | .map _ => false
  | .set _ => false
  | .cycle _ => false
  | .tuple xs => allFixed xs
  | _ => true

def allFixed : List Value → Bool
  | [] => true
  | x :: xs => isFixed x && allFixed xs

end

mutual

/-- A copy through and through: what stood for no value becomes a thing of its own. -/
def copied : Value → Value
  | .list xs => .list (copiedList xs)
  | .tuple xs => .tuple (copiedList xs)
  | .map es => .map (copiedEntries es)
  | .missing _ => .missing true
  | v => v

def copiedList : List Value → List Value
  | [] => []
  | x :: xs => copied x :: copiedList xs

def copiedEntries : List (Value × Value) → List (Value × Value)
  | [] => []
  | (k, v) :: es => (copied k, copied v) :: copiedEntries es

end

/-- Whether something is there that does not stand for nothing. -/
def present (v : Option Value) : Option Value :=
  match v with
  | some (.missing false) => none
  | v => v

theorem present_copied (v : Value) : present (some v.copied) = some v.copied := by
  cases v <;> rfl

/-- Whether `v` occurs in `xs`, kinds of number not told apart. -/
def among (v : Value) (xs : List Value) : Bool := xs.any (same v)

end Value

namespace Entries

def get? (es : Entries) (key : Value) : Option Value :=
  (es.find? fun entry => entry.1.same key).map (·.2)

def has (es : Entries) (key : Value) : Bool := es.any fun entry => entry.1.same key

/-- Overwrites in place; a new key goes last. -/
def put : Entries → Value → Value → Entries
  | [], key, value => [(key, value)]
  | (k, v) :: rest, key, value =>
    if k.same key then (k, value) :: rest else (k, v) :: put rest key value

def erase (es : Entries) (key : Value) : Entries := es.filter fun entry => !entry.1.same key

/-- Written one after the other, later entries over earlier ones. -/
def update (es fs : Entries) : Entries := fs.foldl (fun acc entry => put acc entry.1 entry.2) es

def ofList (fs : List (Value × Value)) : Entries := update [] fs

def keys (es : Entries) : List Value := es.map (·.1)

/-- Lookup under a text key. -/
def field? (es : Entries) (name : String) : Option Value := get? es (.str name)

def putField (es : Entries) (name : String) (value : Value) : Entries := put es (.str name) value

@[simp] theorem get?_nil (key : Value) : get? [] key = none := rfl

@[simp] theorem get?_cons (k v : Value) (es : Entries) (key : Value) :
    get? ((k, v) :: es) key = if k.same key then some v else get? es key := by
  unfold get?
  by_cases h : k.same key <;> simp [h]

theorem isSome_get? (es : Entries) (key : Value) : (get? es key).isSome = has es key := by
  induction es with
  | nil => rfl
  | cons e es ih =>
    obtain ⟨k, v⟩ := e
    by_cases h : k.same key <;> simp [has, h]
    simpa [has] using ih

end Entries

/-- A mapping given by text keys. -/
def Value.record (fields : List (String × Value)) : Value :=
  .map (fields.map fun f => (.str f.1, f.2))

end Quire
