import Quire.Logging.Layout
import Quire.Logging.Level

/-! Loggers, named by dotted paths. A record goes to the sink of its logger and
on to the loggers above it, as long as they pass records on. -/

namespace Quire

/-- Where lines go, and how they are laid out. -/
structure Sink where
  stream : String
  layout : String

structure Logger where
  level : Value := .int 0
  propagate : Value := .bool true
  sink : Option Sink := none

/-- The loggers that were ever set up, and what was written to each stream. -/
structure Logging where
  loggers : List (String × Logger) := []
  streams : List (String × String) := []

namespace Logging

def rootName : String := "root"

/-- The level of the root logger until it is set up. -/
def rootLevel : Int := 30

def inits : List String → List (List String)
  | [] => []
  | x :: xs => [x] :: (inits xs).map (x :: ·)

/-- A logger and those above it, nearest first; the root is above all. -/
def lineage (name : String) : List String :=
  if name = rootName then [rootName]
  else
    let above := (inits (name.splitOn ".")).map ".".intercalate
    (above.filter (· ≠ rootName)).reverse ++ [rootName]

def get (l : Logging) (name : String) : Logger := (l.loggers.lookup name).getD {}

def put (l : Logging) (name : String) (logger : Logger) : Logging :=
  { l with loggers := (name, logger) :: l.loggers.filter fun entry => entry.1 ≠ name }

def text (l : Logging) (stream : String) : String := (l.streams.lookup stream).getD ""

def isOpen (l : Logging) (stream : String) : Bool := l.streams.any fun entry => entry.1 = stream

def openStream (l : Logging) (stream : String) : Logging :=
  if l.isOpen stream then l else { l with streams := l.streams ++ [(stream, "")] }

def appendTo (stream line : String) (entry : String × String) : String × String :=
  if entry.1 = stream then (entry.1, entry.2 ++ line) else entry

def write (l : Logging) (stream line : String) : Logging :=
  let l := l.openStream stream
  { l with streams := l.streams.map (appendTo stream line) }

/-- The nearest level that is set decides. -/
def threshold (l : Logging) (name : String) : Int :=
  match (lineage name).find? fun n => Level.rank (l.get n).level ≠ 0 with
  | some n => Level.rank (l.get n).level
  | none => rootLevel

def isEnabled (l : Logging) (name : String) (level : Int) : Bool :=
  decide (0 < level) && decide (l.threshold name ≤ level)

def sinksFrom (l : Logging) : List String → List Sink
  | [] => []
  | n :: above =>
    let logger := l.get n
    logger.sink.toList ++ (if logger.propagate.truthy then sinksFrom l above else [])

def sinks (l : Logging) (name : String) : List Sink := l.sinksFrom (lineage name)

def send (r : LogRecord) (l : Logging) (s : Sink) : Logging :=
  match Layout.render? s.layout r with
  | some line => l.write s.stream (line ++ "\n")
  | none => l

/-- What a logger says at a level, at a time. -/
def emit (l : Logging) (logger : String) (level message : Value) (time : String) : Logging :=
  if l.isEnabled logger (Level.rank level) then
    (l.sinks logger).foldl (send ⟨logger, level, Level.label level, message, time⟩) l
  else l

def plainLayout : String := "%(message)s"

def layoutOf (given : Value) : Except Mishap String :=
  match given.orElse (.str defaultLogFormat) with
  | .str s =>
    if Layout.isUsable s then .ok s
    else .error (.badValue ("Invalid format '" ++ s ++ "' for '%' style"))
  | v => .error (.badKind ("expected string or bytes-like object, got '" ++ v.kindName ++ "'"))

def nameOf (given : Value) : Except Mishap String :=
  match given.orElse (.str packageLogger) with
  | .str s => .ok s
  | _ => .error (.badKind "A logger name must be a string")

/-- What a logger says, if it has a name and the level a number. -/
def tell (l : Logging) (logger level message : Value) (time : String) : Except Mishap Logging := do
  let name ← nameOf logger
  if Level.isNumber level then return l.emit name level message time
  throw (.badKind "level must be an integer")

/-- Points a logger at a stream. A layout of no use is refused after the level
and the stream were set; the sink keeps the layout that it had. -/
def configure (l : Logging) (c : LoggingConfig) (stream : String) : Logging × Except Mishap String :=
  match nameOf c.logger with
  | .error e => (l, .error e)
  | .ok name => match Level.ofValue c.level with
    | .error e => (l, .error e)
    | .ok level =>
      let before := ((l.get name).sink.map (·.layout)).getD plainLayout
      let aimed := fun layout =>
        (l.openStream stream).put name ⟨level, c.propagate, some ⟨stream, layout⟩⟩
      match layoutOf c.format with
      | .error e => (aimed before, .error e)
      | .ok layout => (aimed layout, .ok name)

end Logging
end Quire
