import JavaInterop.Interface.Call

/-!
# References that go in and out

Which references native code hands to a machine with a call, and which ones it gets with the answer.
A machine may only be handed references that it has issued itself, so for everything that goes in
there is the question where it comes from.
-/

namespace JavaInterop

/-- The reference that is passed as an argument, if it is one. -/
def Argument.handle? : Argument → Option Handle
  | scalar _ => none
  | reference object => object

namespace EnvFunction

/-- The references that a function is given. -/
def operands : EnvFunction → List Handle
  | getSuperclass reference | throw reference | newLocalRef reference | newGlobalRef reference
  | deleteLocalRef reference | deleteGlobalRef reference | getObjectClass reference
  | getMethodId reference .. | getStringChars reference | releaseStringChars reference
  | getArrayLength reference | getArrayElement reference _ | registerNatives reference _ =>
    [reference]
  | isAssignableFrom sub sup => [sub, sup]
  | isInstanceOf object classObject => classObject :: object.toList
  | throwNew classObject _ => classObject.toList
  | callObject receiver _ arguments | callVoid receiver _ arguments
  | callPrimitive _ receiver _ arguments | callStaticObject receiver _ arguments
  | callStaticVoid receiver _ arguments | newObject receiver _ arguments =>
    receiver :: arguments.filterMap Argument.handle?
  | getVersion | findClass _ | exceptionOccurred | exceptionDescribe | exceptionClear
  | exceptionCheck | newString _ => []

/-- The reference that a function answers with. -/
def answered : (function : EnvFunction) → function.Reply → Option Handle
  | findClass _, reply | getSuperclass _, reply | exceptionOccurred, reply | newLocalRef _, reply
  | newGlobalRef _, reply | getObjectClass _, reply | callObject .., reply
  | callStaticObject .., reply | newObject .., reply | newString _, reply
  | getArrayElement .., reply => reply
  | _, _ => none

end EnvFunction

/-- The references that go into a machine with a call.  Besides the functions of an environment only
attaching a thread takes one, the group that the thread is to belong to. -/
def Call.Passes (vm : VmId) (handle : Handle) : Call → Prop
  | env pointer function => pointer.vm = vm ∧ handle ∈ function.operands
  | attach target request => target = vm ∧ request.group = some handle
  | _ => False

end JavaInterop
