import Milp.Proofs.Action
import Milp.Surroundings
set_option autoImplicit false

/-! # What handlers do with messages

A message that is made without fault can always be reported: the handler counts it, and all that
happens elsewhere is that it may be logged (`Handler.perform_report`). -/

namespace Milp.Handler

open Milp.Action

/-- Counting a message does not change the level. -/
theorem count_level (h : Handler) (severity : Severity) : (h.count severity).level = h.level := by
  cases severity <;> rfl

/-- What is logged of a message that is made without fault. -/
def printed (h : Handler) (severity : Severity) (text : String) : List LogRecord :=
  if h.prints severity then [{ severity, text }] else []

theorem records_ok (h : Handler) (severity : Severity) (text : String) :
    h.records severity (.ok text) = .ok (h.printed severity text) := by
  unfold records printed
  split <;> rfl

theorem perform_report_printed (severity : Severity) (text : View → String) (h : Handler)
    (w : Surroundings) :
    (report severity fun view => .ok (text view)).perform (h, w) =
      (.ok (), h.count severity, w.addLog ((h.count severity).printed severity (text w.view))) := by
  rw [report, perform_modify_bind, perform_get_bind]
  dsimp only
  rw [records_ok]
  rfl

theorem perform_report (severity : Severity) (text : View → String) (h : Handler)
    (w : Surroundings) :
    ∃ records, (report severity fun view => .ok (text view)).perform (h, w) =
      (.ok (), h.count severity, w.addLog records) :=
  ⟨_, perform_report_printed severity text h w⟩

end Milp.Handler
