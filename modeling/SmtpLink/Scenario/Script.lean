import SmtpLink.Scenario.Bench

/-!
# Scripts

A script is a scenario for one connection from its making on. Its answer tells, step by step,
what happened and how the connection stood afterwards.

## Main definitions

* `Stage` — a step at the top of a script, or steps taken inside a task of their own.
* `Report` — what came of a stage.
* `Script.run` — the reports of a script.
-/

namespace SmtpLink

/-- A part of a script. -/
inductive Stage
  /-- One step, outside of any task. -/
  | step (step : Step Callback)
  /-- Steps inside a task of their own. -/
  | inTask (steps : List (Step Callback))

/-- What happened in a step, and how the connection stood afterwards. -/
structure StepReport where
  /-- What happened, oldest first. -/
  entries : List Entry
  /-- How the connection stood. -/
  snapshot : Snapshot

/-- What came of a stage. -/
inductive Report
  /-- One step. -/
  | step (report : StepReport)
  /-- The steps inside a task, and how the connection looked from outside afterwards. -/
  | inTask (reports : List StepReport) (outside : Snapshot)

/-- A scenario for one connection. -/
structure Script where
  /-- The listener keeps a record. -/
  listening : Bool := true
  /-- Down to which level remarks are recorded, if they are. -/
  kept : Option Level := none
  /-- The stages, in order. -/
  stages : List Stage

namespace Script

/-- Takes one step and everything that follows from it. -/
def runStep (b : Bench) (step : Step Callback) : Bench × StepReport :=
  let (entries, b) := (b.run [.step step]).takeRecord
  (b, { entries, snapshot := b.endpoint.snapshot })

/-- Takes steps one after the other. -/
def runSteps (b : Bench) : List (Step Callback) → Bench × List StepReport
  | [] => (b, [])
  | step :: rest =>
    let (b, report) := runStep b step
    let (b, reports) := runSteps b rest
    (b, report :: reports)

/-- The bench with another task running. -/
def inTask (b : Bench) (task : Option TaskId) : Bench :=
  { b with endpoint := { b.endpoint with task } }

/-- Runs stages one after the other. Each stage inside a task is a new task, named by its place
in the script. -/
def runStages (b : Bench) (place : Nat) : List Stage → List Report
  | [] => []
  | .step step :: rest =>
    let (b, report) := runStep b step
    .step report :: runStages b (place + 1) rest
  | .inTask steps :: rest =>
    let (b, reports) := runSteps (inTask b (some place)) steps
    let b := inTask b none
    .inTask reports b.endpoint.snapshot :: runStages b (place + 1) rest

/-- The reports of a script. -/
def run (script : Script) : List Report :=
  runStages { listening := script.listening, kept := script.kept } 0 script.stages

end Script

end SmtpLink
