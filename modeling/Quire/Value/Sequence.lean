import Quire.Failure

/-! Values taken one by one, and mappings built from sequences of pairs. -/

namespace Quire.Value

/-- The members of a value that has any: elements, characters, bytes or keys. -/
def members (v : Value) : Except Mishap (List Value) :=
  match v with
  | .list xs => .ok xs
  | .tuple xs => .ok xs
  | .str s => .ok (s.toList.map fun c => .str (String.singleton c))
  | .bytes b => .ok (b.map fun n => .int n.toNat)
  | .map es => .ok (es.map (·.1))
  | .set xs => .ok xs
  | .cycle _ => .ok []
  | _ => .error (.badKind ("'" ++ v.kind.fullName ++ "' object is not iterable"))

def pairOf (index : Nat) (v : Value) : Except Mishap (Value × Value) :=
  match v.members with
  | .error _ => .error (.badKind (s!"cannot convert dictionary update sequence element #{index}"
      ++ " to a sequence"))
  | .ok [k, x] =>
    if k.isFixed then .ok (k, x) else .error (.badKind ("unhashable type: '" ++ k.kindName ++ "'"))
  | .ok xs => .error (.badValue (s!"dictionary update sequence element #{index} has length "
      ++ s!"{xs.length}; 2 is required"))

def pairsFrom : Nat → List Value → Except Mishap (List (Value × Value))
  | _, [] => .ok []
  | i, v :: vs => do
    let entry ← pairOf i v
    return entry :: (← pairsFrom (i + 1) vs)

/-- A mapping as it is; any other value must be a sequence of pairs. -/
def toEntries : Value → Except Mishap Entries
  | .map es => .ok es
  | .cycle true => .ok []
  | v => do return Entries.ofList (← pairsFrom 0 (← v.members))

/-- A number twice as large, or a sequence followed by itself. -/
def doubled : Value → Except Mishap Value
  | .bool b => .ok (.int (if b then 2 else 0))
  | .int n => .ok (.int (2 * n))
  | .real x => .ok (.real (x.mul (.ofInt 2)))
  | .str s => .ok (.str (s ++ s))
  | .bytes b => .ok (.bytes (b ++ b))
  | .list xs => .ok (.list (xs ++ xs))
  | .tuple xs => .ok (.tuple (xs ++ xs))
  | v => .error (.badKind ("unsupported operand type(s) for *: '" ++ v.kindName ++ "' and 'int'"))

@[simp] theorem toEntries_map (es : Entries) : toEntries (.map es) = .ok es := rfl

end Quire.Value
