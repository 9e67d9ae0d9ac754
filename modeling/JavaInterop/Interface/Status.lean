/-!
# Status codes

A function of the invocation interface answers with a signed code, where zero is success. Six
negative codes have a meaning of their own; every other one is kept as it is.
-/

namespace JavaInterop

/-- Why a function of the invocation interface failed. -/
inductive Status where
  | unknown
  | threadDetached
  | wrongVersion
  | noMemory
  | alreadyCreated
  | invalidArguments
  | other (code : Int32)
deriving DecidableEq

namespace Status

/-- The code that the failure was reported with. -/
def code : Status → Int32
  | unknown => -1
  | threadDetached => -2
  | wrongVersion => -3
  | noMemory => -4
  | alreadyCreated => -5
  | invalidArguments => -6
  | other code => code

/-- The failure that a code other than zero stands for. -/
def ofCode (code : Int32) : Status :=
  if code = -1 then unknown
  else if code = -2 then threadDetached
  else if code = -3 then wrongVersion
  else if code = -4 then noMemory
  else if code = -5 then alreadyCreated
  else if code = -6 then invalidArguments
  else other code

/-- Zero is success, every other code a failure. -/
def check (code : Int32) : Except Status Unit :=
  if code = 0 then .ok () else .error (ofCode code)

/-- A failure keeps the code it was made from. -/
theorem code_ofCode (code : Int32) : (ofCode code).code = code := by
  unfold ofCode
  repeat' split
  all_goals simp_all [Status.code]

/-- What the failure means, for people. -/
def message : Status → String
  | unknown => "Unknown error"
  | threadDetached => "Current thread is not attached to the Java VM"
  | wrongVersion => "JNI version error"
  | noMemory => "Not enough memory"
  | alreadyCreated => "VM already created"
  | invalidArguments => "Invalid arguments"
  | other code => s!"Error code {code.toInt}"

end Status

end JavaInterop
