set_option autoImplicit false

/-! # Faults

The failures that say only what went wrong with a basic operation. Most have no message of their own;
settings say what they do not have (`Fault.message?`). Failures of the modelling layer, which carry the
offending values, are in `Milp.Failure`. -/

namespace Milp

inductive Fault where
  /-- A value of a kind that the operation does not take. -/
  | wrongType
  /-- A value of the right kind that is not acceptable. -/
  | wrongValue
  /-- A number too large for its target. -/
  | overflow
  /-- A key that is not in a table. -/
  | missingKey
  /-- A position outside a sequence. -/
  | badIndex
  /-- A member that the object does not have. -/
  | missingMember
  /-- A setting that is not there; `owner` names the kind of settings. -/
  | missingSetting (owner name : String)
  /-- A setting whose name starts with two underscores, which settings do not have. -/
  | reservedSetting
  /-- A file that does not exist. -/
  | missingFile
  /-- A directory where a file is needed. -/
  | isDirectory
  /-- A file where a directory is needed. -/
  | notDirectory
  /-- A path that the system of files does not take. -/
  | badPath
  /-- A file that cannot be opened, whatever the reason. -/
  | unopenable
  /-- A text that is not a program of the expected form. -/
  | badSyntax
  /-- A line of a program that does not begin where it should. -/
  | badIndentation
  /-- A name in a program that means nothing. -/
  | unknownName
  /-- Arrays whose elements do not have the operation. -/
  | noOperation
  /-- A value that contains itself where it has to be written out. -/
  | tooDeep
  /-- A sequence without an end where all of it is needed. -/
  | exhausted
deriving DecidableEq, Repr

namespace Fault

/-- The fault as callers can tell it from others: a setting is a member like any other. -/
def kind : Fault → Fault
  | missingSetting .. | reservedSetting => missingMember
  | f => f

/-- The message of a fault that has one. -/
def message? : Fault → Option String
  | missingSetting owner name => some s!"'{owner}' object has no attribute '{name}'"
  | reservedSetting => some ""
  | _ => none

theorem kind_kind (f : Fault) : f.kind.kind = f.kind := by cases f <;> rfl

end Fault

end Milp
