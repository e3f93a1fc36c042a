import TriggerFlow.Automation

/-!
The loop that ticks by itself. It goes on whatever a tick comes to, until somebody asks it to stop.
-/

namespace TriggerFlow.Scheduler

variable {S : Type}

/-- Ticks until the loop is asked to stop, at most so many times, and counts the ticks. -/
def loop (tick : Act S Automation.Ticked) (stopped : S → Bool) : Nat → S → Nat × S
  | 0, s => (0, s)
  | budget + 1, s =>
    if stopped s then (0, s)
    else
      let (count, s) := loop tick stopped budget (tick s).2
      (count + 1, s)

end TriggerFlow.Scheduler
