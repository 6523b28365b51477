import SnippetProfiler.Json.Access
import SnippetProfiler.Probe.Recorder

/-!
# Instruments that follow a script

A clock that is moved by hand and, before each reading, by a fixed step, and a memory meter
that shows given readings one after the other, the last one again and again.
-/

namespace SnippetProfiler.Probe

/-- The state of scripted instruments. -/
structure Scripted where
  time : Float := 0
  step : Float := 0
  memory : List (Int × Int) := []
  deriving Repr

/-- Moves the clock. -/
def Scripted.tick (s : Scripted) (amount : Float) : Scripted := { s with time := s.time + amount }

/-- Instruments that follow a script. -/
def scripted : Instruments Scripted Float where
  clock s :=
    let time := s.time + s.step
    (time, { s with time })
  memory s :=
    match s.memory with
    | [] => ((0, 0), s)
    | [reading] => (reading, s)
    | reading :: rest => (reading, { s with memory := rest })

/-- The two numbers of a reading of the meter. -/
def readingOfJson (v : Json) : Int × Int :=
  let number (i : Nat) := (v.items.getD i .null).int?.getD 0
  (number 0, number 1)

/-- The scripted instruments that data describe. -/
def Scripted.ofJson (v : Json) : Scripted where
  step := (v.part "step").number?.getD 0
  memory := (v.part "memory").items.map readingOfJson

end SnippetProfiler.Probe
