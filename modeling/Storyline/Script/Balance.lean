-- SUMMARY: Mending a list of instructions so that its conditions nest.
import Storyline.Anomaly
import Storyline.Instruction

/-!
# Balancing conditions

In a well-nested list every `ifLevel` has one `endIf` and at most one `otherwise` at its own level.
`balance` drops the markers that fit nowhere and closes what is open at the end, so that its result is
well-nested; every marker that it drops or adds is reported.
-/

namespace Storyline.Script

/-- Mends a list of instructions inside open conditions. `opened` has an entry for each of them,
innermost first: has its `otherwise` been met? -/
def balanceFrom : (opened : List Bool) → List Instruction → List Instruction × List Imbalance
  | opened, [] => (opened.map fun _ => .endIf, opened.map fun _ => .ifNotClosed)
  | opened, .ifLevel role level :: rest =>
    let (list, faults) := balanceFrom (false :: opened) rest
    (.ifLevel role level :: list, faults)
  | false :: opened, .otherwise :: rest =>
    let (list, faults) := balanceFrom (true :: opened) rest
    (.otherwise :: list, faults)
  | true :: opened, .otherwise :: rest =>
    let (list, faults) := balanceFrom (true :: opened) rest
    (list, .secondElse :: faults)
  | [], .otherwise :: rest =>
    let (list, faults) := balanceFrom [] rest
    (list, .elseOutsideIf :: faults)
  | _ :: opened, .endIf :: rest =>
    let (list, faults) := balanceFrom opened rest
    (.endIf :: list, faults)
  | [], .endIf :: rest =>
    let (list, faults) := balanceFrom [] rest
    (list, .endIfOutsideIf :: faults)
  | opened, other :: rest =>
    let (list, faults) := balanceFrom opened rest
    (other :: list, faults)

/-- The mended list, and what was mended. -/
def balance (list : List Instruction) : List Instruction × List Imbalance :=
  balanceFrom [] list

end Storyline.Script
