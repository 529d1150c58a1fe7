import ConfigStack.Environment
import ConfigStack.Log
import ConfigStack.Oidc.Discovery

/-!
# Bootstrap

Processors change the environment one after the other before it is used, in ascending order, and
in the order of their registration where that is equal. The first that fails ends the bootstrap.
What the processors that ran have reported is handed on afterwards, once, whether one failed or
not.
-/
namespace ConfigStack

open Oidc (Trail)

/-- The order of a processor that runs after all others. -/
def lowestPrecedence : Int32 := Int32.maxValue

/-- A processor: from an environment and the records so far to a new environment or an error, with
what it reports besides. It may read the environment, and a read may never end. -/
structure Processor where
  name : String
  order : Int32 := 0
  process : Environment → List LogRecord → Option (Except ConfigError Environment × Trail)

/-- A processor that ran: its place in the registration and what it reported. -/
structure Execution where
  place : Nat
  trail : Trail

structure Report where
  executions : List Execution
  log : DeferredLog
  outcome : Except ConfigError Environment

namespace Bootstrap

/-- The processors with their places, in the order in which they run. -/
def inOrder (processors : List Processor) : List (Processor × Nat) :=
  processors.zipIdx.mergeSort fun a b => decide (a.1.order ≤ b.1.order)

/-- Runs the processors up to the first that fails. All of them write to one log. -/
def runAll (env : Environment) (log : DeferredLog) : List (Processor × Nat) → Option Report
  | [] => some ⟨[], log, .ok env⟩
  | (p, place) :: rest =>
    match p.process env log.records with
    | none => none
    | some (.error e, trail) => some ⟨[⟨place, trail⟩], log.writeAll trail.records, .error e⟩
    | some (.ok next, trail) =>
      match runAll next (log.writeAll trail.records) rest with
      | none => none
      | some report => some { report with executions := ⟨place, trail⟩ :: report.executions }

def run (env : Environment) (processors : List Processor) : Option Report :=
  runAll env {} (inOrder processors)

/-- A processor alone decides the outcome, and what it records is the log. -/
theorem run_singleton (env : Environment) (p : Processor) :
    run env [p] =
      (p.process env []).map fun (outcome, trail) =>
        ⟨[⟨0, trail⟩], ⟨trail.records⟩, outcome⟩ := by
  have alone : inOrder [p] = [(p, 0)] := List.mergeSort_singleton _
  have logged (records : List LogRecord) : ({} : DeferredLog).writeAll records = ⟨records⟩ :=
    congrArg DeferredLog.mk (DeferredLog.records_writeAll {} records)
  rw [run, alone, runAll]
  dsimp only
  rcases p.process env [] with _ | ⟨e | next, trail⟩
  · rfl
  · simp only [Option.map_some, logged]
  · simp only [Option.map_some, runAll, logged]

end Bootstrap

namespace Report

/-- What a sink has after the bootstrap: the log is handed to it, whether one failed or not. -/
def replay {σ : Type} (r : Report) (accept : σ → LogRecord → σ) (sink : σ) : σ :=
  (r.log.flush accept sink).1

def completeEvent (env : Environment) : Event where
  level := .debug
  fields :=
    [("message", "Environment bootstrap complete"), ("sources", Text.quotedList env.sourceNames)]

/-- What an observer is told: the events of the processors, then the records, then the end. -/
def events (r : Report) : List Event :=
  r.executions.flatMap (·.trail.events) ++
    (r.replay (fun seen record => seen ++ [record.event]) [] ++
      match r.outcome with
      | .ok env => [completeEvent env]
      | .error _ => [])

end Report

end ConfigStack
