import MachineFleet.Cloud.Error

/-!
The class of a failure and the terminal failure that it carries: one is there exactly if the class
says so.
-/

namespace MachineFleet.CloudError

theorem classify_terminal_iff (e : CloudError) :
    e.classify = .terminal ↔ e.terminal?.isSome = true := by
  cases e with
  | transient f => cases h : f.terminal? <;> simp [classify, terminal?, h]
  | terminal t => simp [classify, terminal?]
  | providerNotFound n => simp [classify, terminal?]
  | instanceNotFound => simp [classify, terminal?]
  | config c => simp [classify, terminal?]
  | spec c => simp [classify, terminal?]
  | api status message => simp [classify, terminal?]

end MachineFleet.CloudError
