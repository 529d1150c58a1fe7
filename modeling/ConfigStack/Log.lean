/-!
# Records and events

What is worth reporting while the environment is set up is kept as records and handed on later,
each record once. An event is what an observer of the program is told: a record handed on, or a
step of the program itself, with fields and perhaps the span it happened in.
-/
namespace ConfigStack

inductive Level where
  | error
  | warn
  | info
  | debug
  | trace
  deriving DecidableEq, Repr

def Level.name : Level → String
  | .error => "ERROR"
  | .warn => "WARN"
  | .info => "INFO"
  | .debug => "DEBUG"
  | .trace => "TRACE"

/-- A message and the component that produced it. -/
structure LogRecord where
  level : Level
  origin : String
  message : String
  deriving DecidableEq, Repr

/-- The records of a bootstrap, oldest first. -/
structure DeferredLog where
  records : List LogRecord := []
  deriving DecidableEq, Repr

namespace DeferredLog

def write (log : DeferredLog) (record : LogRecord) : DeferredLog :=
  ⟨log.records ++ [record]⟩

def writeAll (log : DeferredLog) (records : List LogRecord) : DeferredLog :=
  records.foldl write log

theorem writeAll_append (log : DeferredLog) (records more : List LogRecord) :
    log.writeAll (records ++ more) = (log.writeAll records).writeAll more :=
  List.foldl_append

theorem records_writeAll (log : DeferredLog) (records : List LogRecord) :
    (log.writeAll records).records = log.records ++ records := by
  induction records generalizing log with
  | nil => exact (List.append_nil _).symm
  | cons record rest ih =>
    rw [writeAll, List.foldl_cons, ← writeAll, ih, write, List.append_assoc, List.singleton_append]

def isEmpty (log : DeferredLog) : Bool :=
  log.records.isEmpty

/-- What a sink has after the records were handed to it, oldest first, and how many they were. -/
def flush {σ : Type} (log : DeferredLog) (accept : σ → LogRecord → σ) (sink : σ) : σ × Nat :=
  (log.records.foldl accept sink, log.records.length)

end DeferredLog

structure Span where
  name : String
  fields : List (String × String)
  deriving DecidableEq, Repr

structure Event where
  level : Level
  fields : List (String × String)
  span : Option Span := none
  deriving DecidableEq, Repr

def LogRecord.event (record : LogRecord) : Event where
  level := record.level
  fields := [("message", record.message), ("origin", record.origin)]

end ConfigStack
