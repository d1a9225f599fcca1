import Quire.Number.Numeral
import Quire.Value

/-! How far a value reaches: how deep its collections are nested, whether they have
an end at all, and whether its whole numbers are short enough to be written out. -/

namespace Quire.Value

mutual

/-- Whether collections are nested in more than so many levels. One inside itself
is nested in more than any number of them. -/
def isDeeper (levels : Nat) : Value → Bool
  | .list xs => levels = 0 || anyDeeper (levels - 1) xs
  | .tuple xs => levels = 0 || anyDeeper (levels - 1) xs
  | .map es => levels = 0 || anyFieldDeeper (levels - 1) es
  | .set xs => levels = 0 || anyDeeper (levels - 1) xs
  | .cycle _ => true
  | _ => false

def anyDeeper (levels : Nat) : List Value → Bool
  | [] => false
  | x :: xs => isDeeper levels x || anyDeeper levels xs

def anyFieldDeeper (levels : Nat) : List (Value × Value) → Bool
  | [] => false
  | (k, v) :: es => isDeeper levels k || isDeeper levels v || anyFieldDeeper levels es

end

mutual

/-- Whether a collection lies inside itself. -/
def isEndless : Value → Bool
  | .list xs => anyEndless xs
  | .tuple xs => anyEndless xs
  | .map es => anyFieldEndless es
  | .set xs => anyEndless xs
  | .cycle _ => true
  | _ => false

def anyEndless : List Value → Bool
  | [] => false
  | x :: xs => isEndless x || anyEndless xs

def anyFieldEndless : List (Value × Value) → Bool
  | [] => false
  | (_, v) :: es => isEndless v || anyFieldEndless es

end

mutual

/-- Whether every whole number in a value can be written out. -/
def isWritable : Value → Bool
  | .int n => Numeral.isWritable n
  | .list xs => allWritable xs
  | .tuple xs => allWritable xs
  | .map es => fieldsWritable es
  | .set xs => allWritable xs
  | _ => true

def allWritable : List Value → Bool
  | [] => true
  | x :: xs => isWritable x && allWritable xs

def fieldsWritable : List (Value × Value) → Bool
  | [] => true
  | (k, v) :: es => isWritable k && isWritable v && fieldsWritable es

end

end Quire.Value
