import Quire.Number.Numeral
import Quire.Value.Shown

/-! Values in the kinds that a line of JSON has. A value of another kind is a
mapping with one entry, whose key is the tag of the kind. A mapping that could be
taken for one of these, or that has other keys than text, is written in pairs. -/

namespace Quire.Value

/-- The tags that a mapping of one entry must not have for its key. -/
def tags : List String :=
  ["$int", "$float", "$date", "$datetime", "$time", "$bytes", "$map", "$tuple", "$missing"]

/-- Whole numbers up to this size need no tag. -/
def plainLimit : Nat := Nat.pow 2 53

def withTag (tag : String) (v : Value) : Value := .record [(tag, v)]

def isTagged : List (Value × Value) → Bool
  | [(.str k, _)] => tags.contains k
  | _ => false

def isRecord (es : List (Value × Value)) : Bool := es.all fun e => e.1.str?.isSome

def pairs (es : List (Value × Value)) : Value := .list (es.map fun e => .list [e.1, e.2])

mutual

/-- The value with tags where they are needed. -/
def tagged : Value → Value
  | .int n => if n.natAbs ≤ plainLimit then .int n else withTag "$int" (.str (toString n))
  | .real x => withTag "$float" (.str x.text)
  | .date d => withTag "$date" (.str d.text)
  | .moment m => withTag "$datetime" (.str m.text)
  | .time t => withTag "$time" (.str t.text)
  | .bytes b => withTag "$bytes" (.str (String.ofList (b.flatMap fun n => Text.hexDigits 2 n.toNat)))
  | .list xs => .list (taggedList xs)
  | .tuple xs => .list (taggedList xs)
  | .map es =>
    if isRecord es && !isTagged es then .map (taggedFields es)
    else withTag "$map" (pairs (taggedFields es))
  | .set _ => .str "<set>"
  | .missing false => withTag "$missing" (.bool true)
  | .missing true => .str "<_Missing>"
  | v => v

def taggedList : List Value → List Value
  | [] => []
  | x :: xs => tagged x :: taggedList xs

def taggedFields : List (Value × Value) → List (Value × Value)
  | [] => []
  | (k, v) :: es => (tagged k, tagged v) :: taggedFields es

end

/-! ### Reading tags -/

def digitsAt (cs : List Char) (start count : Nat) : Nat :=
  Numeral.decimal ((cs.drop start).take count)

def dateAt (cs : List Char) : Date := ⟨digitsAt cs 0 4, digitsAt cs 5 2, digitsAt cs 8 2⟩

/-- A time of day and the text after it. -/
def timeAt (cs : List Char) : TimeOfDay × List Char :=
  let (micro, rest) := match cs.drop 8 with
    | '.' :: more => (Numeral.decimal (more.take 6), more.drop 6)
    | rest => (0, rest)
  (⟨digitsAt cs 0 2, digitsAt cs 3 2, digitsAt cs 6 2, micro⟩, rest)

def offsetAt : List Char → Option Int
  | [] => none
  | sign :: rest => some (Numeral.negateIf (sign = '-')
      (digitsAt rest 0 2 * 3600 + digitsAt rest 3 2 * 60 + digitsAt rest 6 2))

def bytesAt : List Char → List UInt8
  | a :: b :: rest =>
    UInt8.ofNat ((Numeral.hexValue? a).getD 0 * 16 + (Numeral.hexValue? b).getD 0) :: bytesAt rest
  | _ => []

/-- The value of a tag with text. -/
def ofTag? (tag s : String) : Option Value :=
  let cs := s.toList
  match tag with
  | "$int" =>
    let (negative, ds) := Numeral.signed cs
    some (.int (Numeral.negateIf negative (Numeral.decimal ds)))
  | "$float" => (Numeral.real s).toOption.map .real
  | "$date" => some (.date (dateAt cs))
  | "$datetime" =>
    let (t, rest) := timeAt (cs.drop 11)
    some (.moment ⟨dateAt cs, t, offsetAt rest⟩)
  | "$time" => some (.time (timeAt cs).1)
  | "$bytes" => some (.bytes (bytesAt cs))
  | _ => none

def pair? : Value → Option (Value × Value)
  | .list [k, v] => some (k, v)
  | _ => none

/-- What a mapping stands for. -/
def ofEntries : List (Value × Value) → Value
  | [(.str "$map", .list ps)] => .map (Entries.ofList (ps.filterMap pair?))
  | [(.str "$tuple", .list xs)] => .tuple xs
  | [(.str "$missing", _)] => .missing false
  | [(.str tag, .str s)] => (ofTag? tag s).getD (.map [(.str tag, .str s)])
  | es => .map es

mutual

/-- The value that tags stand for. -/
def untagged : Value → Value
  | .list xs => .list (untaggedList xs)
  | .map es => ofEntries (untaggedFields es)
  | v => v

def untaggedList : List Value → List Value
  | [] => []
  | x :: xs => untagged x :: untaggedList xs

def untaggedFields : List (Value × Value) → List (Value × Value)
  | [] => []
  | (k, v) :: es => (k, untagged v) :: untaggedFields es

end

end Quire.Value
