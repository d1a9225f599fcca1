import Quire.Number.Shortest

/-! Numbers as documents and limits hold them: whole numbers of any size beside
floating point ones. Order between the two is exact; arithmetic that meets a
floating point number is done in floating point. -/

namespace Quire

inductive Number
  | whole (n : Int)
  | real (x : Binary64)
  deriving DecidableEq, Repr, Inhabited

namespace Number

def flip : Ordering → Ordering
  | .lt => .gt
  | .gt => .lt
  | .eq => .eq

def compare? : Number → Number → Option Ordering
  | .whole a, .whole b => some (compare a b)
  | .real x, .real y => x.compare? y
  | .real x, .whole b => x.compareInt? b
  | .whole a, .real y => (y.compareInt? a).map flip

def same (a b : Number) : Bool := a.compare? b = some .eq
def less (a b : Number) : Bool := a.compare? b = some .lt
def lessEq (a b : Number) : Bool := a.compare? b = some .lt || a.compare? b = some .eq

/-- As floating point; none for a whole number beyond its range. -/
def toReal? : Number → Option Binary64
  | .real x => some x
  | .whole n =>
    match Binary64.ofInt n with
    | .finite s u => some (.finite s u)
    | _ => none

def combine? (onWhole : Int → Int → Int) (onReal : Binary64 → Binary64 → Binary64) :
    Number → Number → Option Number
  | .whole a, .whole b => some (.whole (onWhole a b))
  | a, b => do return .real (onReal (← a.toReal?) (← b.toReal?))

def sub? : Number → Number → Option Number := combine? (· - ·) Binary64.sub
def mul? : Number → Number → Option Number := combine? (· * ·) Binary64.mul

/-- The quotient in floating point; of two whole numbers it is rounded once. -/
def quotient? : Number → Number → Option Binary64
  | .whole a, .whole b =>
    if b = 0 then none
    else match Binary64.ofRatio (decide (a < 0) != decide (b < 0)) a.natAbs b.natAbs with
      | .finite s u => some (.finite s u)
      | _ => none
  | a, b => do (← a.toReal?).div? (← b.toReal?)

/-- The binary logarithm of a number that is at least one. -/
def log2 : Number → Binary64
  | .real x => x.log2
  | .whole n => ((Number.whole n).toReal?.map Binary64.log2).getD (Binary64.log2Of n.toNat 0)

def text : Number → String
  | .whole n => toString n
  | .real x => x.text

/-- With a fixed count of digits after the point. -/
def fixed? (places : Nat) (n : Number) : Option String := n.toReal?.map (Binary64.fixed places)

theorem same_whole (a b : Int) : same (.whole a) (.whole b) = decide (a = b) := by
  simp [same, compare?]

theorem less_whole (a b : Int) : less (.whole a) (.whole b) = decide (a < b) := by
  simp [less, compare?, Int.compare_eq_lt]

theorem lessEq_whole (a b : Int) : lessEq (.whole a) (.whole b) = decide (a ≤ b) := by
  rw [lessEq, compare?, ← Bool.decide_or, decide_eq_decide, Option.some_inj, Option.some_inj,
    Int.compare_eq_lt, Int.compare_eq_eq]
  omega

end Number
end Quire
