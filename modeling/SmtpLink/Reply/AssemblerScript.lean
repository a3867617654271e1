import SmtpLink.Reply.Assembler

/-!
# Scripts for the reply assembler

## Main definitions

* `AssemblerStep` — one use of an assembler.
* `Assembler.pollAll` — polls until nothing is left.
* `AssemblerScript.run` — takes the steps on a fresh assembler and reports on each.
-/

namespace SmtpLink

/-- One use of an assembler. -/
inductive AssemblerStep
  | feed (data : Bytes)
  | poll
  | pollAll
  | expect (n : Nat)
  | reset

/-- What a step yields. -/
inductive AssemblerResult
  | nothing
  | polled (result : Except Error (List Reply))
  | polledAll (results : List (Except Error (List Reply)))

/-- What came of a step, and how the assembler stands after it. -/
structure AssemblerReport where
  /-- What the step yielded. -/
  result : AssemblerResult
  /-- How many replies make a batch. -/
  expected : Nat
  /-- Nothing has come that is not handed out. -/
  empty : Bool

namespace Assembler

/-- Polls until nothing is left, at most so many times. -/
def pollFor : Nat → Assembler → Assembler × List (Except Error (List Reply))
  | 0, a => (a, [])
  | times + 1, a =>
    match a.poll with
    | (a, none) => (a, [])
    | (a, some result) =>
      let (a, results) := pollFor times a
      (a, result :: results)

/-- Polls until nothing is left. Every poll that yields something uses up a completed reply, a
line, or an unended line that is too long, so their number bounds the polls. -/
def pollAll (a : Assembler) : Assembler × List (Except Error (List Reply)) :=
  pollFor (a.completed.length + a.ready.length + 2) a

end Assembler

namespace AssemblerScript

/-- Takes one step. -/
def step (a : Assembler) : AssemblerStep → Assembler × AssemblerResult
  | .feed data => (a.feed data, .nothing)
  | .poll => match a.poll with
    | (a, none) => (a, .nothing)
    | (a, some result) => (a, .polled result)
  | .pollAll =>
    let (a, results) := a.pollAll
    (a, .polledAll results)
  | .expect n => (a.expect n, .nothing)
  | .reset => (a.reset, .nothing)

/-- Takes the steps one after the other. -/
def runOn (a : Assembler) : List AssemblerStep → List AssemblerReport
  | [] => []
  | s :: rest =>
    let (a, result) := step a s
    { result, expected := a.expected, empty := a.isEmpty } :: runOn a rest

/-- Takes the steps on a fresh assembler and reports on each. -/
def run (steps : List AssemblerStep) : List AssemblerReport := runOn {} steps

end AssemblerScript

end SmtpLink
