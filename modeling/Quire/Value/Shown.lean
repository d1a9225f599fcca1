import Quire.Value
import Quire.Text.Quoted

/-! How values appear inside messages and text: `shown` with quotes around text
and the full form of dates, `plain` with text and dates as they read. -/

namespace Quire

def Date.shown (d : Date) : String :=
  s!"datetime.date({d.year}, {d.month}, {d.day})"

/-- Seconds and microseconds are left out from the end while they are zero. -/
def TimeOfDay.shownFields (t : TimeOfDay) : List Nat :=
  [t.hour, t.minute] ++
    (if t.micro ≠ 0 then [t.second, t.micro] else if t.second ≠ 0 then [t.second] else [])

def TimeOfDay.shown (t : TimeOfDay) : String :=
  "datetime.time(" ++ ", ".intercalate (t.shownFields.map toString) ++ ")"

def Moment.shown (m : Moment) : String :=
  let fields := [m.date.year, m.date.month, m.date.day] ++ m.time.shownFields
  let zone := match m.offset with
    | none => ""
    | some 0 => ", tzinfo=datetime.timezone.utc"
    | some seconds => ", tzinfo=datetime.timezone(" ++ spanText seconds ++ ")"
  "datetime.datetime(" ++ ", ".intercalate (fields.map toString) ++ zone ++ ")"

namespace Value

mutual

def shown : Value → String
  | .null => "None"
  | .bool b => if b then "True" else "False"
  | .int n => toString n
  | .real x => x.text
  | .str s => Text.quoted s
  | .date d => d.shown
  | .moment m => m.shown
  | .time t => t.shown
  | .bytes b => Text.quotedBytes b
  | .list xs => "[" ++ ", ".intercalate (shownList xs) ++ "]"
  | .tuple [x] => "(" ++ shown x ++ ",)"
  | .tuple xs => "(" ++ ", ".intercalate (shownList xs) ++ ")"
  | .map es => "\x7b" ++ ", ".intercalate (shownEntries es) ++ "\x7d"
  | .set [] => "set()"
  | .set xs => "\x7b" ++ ", ".intercalate (shownList xs) ++ "\x7d"
  | .cycle mapping => if mapping then "\x7b...\x7d" else "[...]"
  | .missing _ => "MISSING"

def shownList : List Value → List String
  | [] => []
  | x :: xs => shown x :: shownList xs

def shownEntries : List (Value × Value) → List String
  | [] => []
  | (k, v) :: es => (shown k ++ ": " ++ shown v) :: shownEntries es

end

theorem shownList_eq_map (xs : List Value) : shownList xs = xs.map shown := by
  induction xs with
  | nil => rfl
  | cons x xs ih => simp [shownList, ih]

/-- Text and dates as they read, everything else as shown. -/
def plain : Value → String
  | .str s => s
  | .date d => d.text
  | .moment m => m.text
  | .time t => t.text
  | v => v.shown

/-- Text stays text; other values become their plain text. -/
def toText (v : Value) : Value := .str v.plain

end Value
end Quire
