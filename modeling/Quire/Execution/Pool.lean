import Quire.Failure

/-! A pool works on items with a bounded number of them in flight. Which of the
items in flight finish first is decided outside; whatever finishes is delivered
at once, so results come in the order of finishing. -/

namespace Quire

structure Pool where
  workers : Int
  window : Int

namespace Pool

/-- The positions, among the items in flight, that have finished at a look;
looks are counted from zero. -/
abbrev Finishing := Nat → Nat → List Nat

/-- The oldest item always finishes first. -/
def oldestFirst : Finishing := fun _ _ => [0]

/-- What was delivered, in order, and the error that ended it all, if any. -/
structure Delivery (ε ρ : Type) where
  results : List ρ := []
  errors : List ε := []
  raised : Option ε := none

namespace Delivery

/-- Takes one outcome in. After an error that was raised nothing is taken. -/
def take {ε ρ : Type} (failFast : Bool) (d : Delivery ε ρ) (outcome : Except ε ρ) : Delivery ε ρ :=
  if d.raised.isSome then d
  else match outcome with
    | .ok r => { d with results := d.results ++ [r] }
    | .error e =>
      { d with errors := d.errors ++ [e], raised := if failFast then some e else none }

end Delivery

/-- The places that finish among `n + 1` items: at least one, each one once. -/
def finished (order : Finishing) (look n : Nat) : List Nat :=
  match (order look (n + 1)).filter (· ≤ n) with
  | [] => [0]
  | places => places.eraseDups

/-- Splits the items in flight into the finished ones and those still going. -/
def split {ι : Type} (places : List Nat) (flight : List ι) : List ι × List ι :=
  (places.filterMap fun i => flight[i]?,
    (flight.zipIdx.filter fun x => !places.contains x.2).map (·.1))

structure Flight (ι ε ρ : Type) where
  pending : List ι := []
  looks : Nat := 0
  delivery : Delivery ε ρ := {}

/-- Waits until something finishes and delivers it. -/
def Flight.drain {ι ε ρ : Type} (order : Finishing) (failFast : Bool) (work : ι → Except ε ρ)
    (f : Flight ι ε ρ) : Flight ι ε ρ :=
  match f.pending with
  | [] => f
  | _ :: others =>
    let (done, pending) := split (finished order f.looks others.length) f.pending
    { pending
      looks := f.looks + 1
      delivery := done.foldl (fun d i => d.take failFast (work i)) f.delivery }

/-- Sends one item off, waiting where the window is full. -/
def Flight.submit {ι ε ρ : Type} (order : Finishing) (window : Nat) (failFast : Bool)
    (work : ι → Except ε ρ) (f : Flight ι ε ρ) (item : ι) : Flight ι ε ρ :=
  if f.delivery.raised.isSome then f
  else
    let f := { f with pending := f.pending ++ [item] }
    if window ≤ f.pending.length then f.drain order failFast work else f

/-- Waits for all that is in flight; each wait lets one item go at least. -/
def Flight.finish {ι ε ρ : Type} (order : Finishing) (failFast : Bool) (work : ι → Except ε ρ) :
    Nat → Flight ι ε ρ → Flight ι ε ρ
  | 0, f => f
  | fuel + 1, f =>
    if f.delivery.raised.isSome || f.pending.isEmpty then f
    else Flight.finish order failFast work fuel (f.drain order failFast work)

def noWorkers : Mishap := .badValue "Executor requires max_workers >= 1"

def span (p : Pool) : Nat := (max p.window p.workers).toNat

/-- The first count that is not below a number; without one, more than `most`. -/
def countFor (most : Nat) : Number → Int
  | .whole n => n
  | .real (.infinite true) => 0
  | .real x => x.ceiling?.getD (most + 1)

/-- A pool for a number of items. Its settings may be any numbers: what is in
flight is counted against them, so parts of one count as one. -/
def ofValues (items : Nat) (workers window : Value) : Except Mishap Pool :=
  match workers.number?, window.number? with
  | some workers, some window =>
    if workers.less (.whole 1) then .error noWorkers
    else .ok ⟨countFor items workers, countFor items window⟩
  | _, _ => .error (.badKind ("'>' not supported between instances of '" ++ workers.kindName
      ++ "' and '" ++ window.kindName ++ "'"))

/-- Works on all the items. With `failFast` the first error ends it. -/
def run {ι ε ρ : Type} (p : Pool) (order : Finishing) (failFast : Bool) (work : ι → Except ε ρ)
    (items : List ι) : Except Mishap (Delivery ε ρ) :=
  if p.workers < 1 then .error noWorkers
  else
    let f := items.foldl (Flight.submit order p.span failFast work) {}
    .ok (f.finish order failFast work f.pending.length).delivery

end Pool
end Quire
