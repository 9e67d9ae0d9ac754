import JavaInterop.Interface.Call
import JavaInterop.Simulation.Invocation

/-!
# Traces of calls

How a call of a function is shown: its name, its arguments as they were when it began, and what it
answered, references by their labels and text in printable form. Functions that answer nothing show
nothing, except calls of methods, which say so.
-/

namespace JavaInterop

/-- The word for a primitive kind in the name of a function. -/
def Primitive.functionWord : Primitive → String
  | boolean => "Boolean"
  | byte => "Byte"
  | char => "Char"
  | short => "Short"
  | int => "Int"
  | long => "Long"
  | float => "Float"
  | double => "Double"

namespace EnvFunction

/-- The name of a function in the native interface. -/
def name : EnvFunction → String
  | getVersion => "GetVersion"
  | findClass _ => "FindClass"
  | getSuperclass _ => "GetSuperclass"
  | isAssignableFrom .. => "IsAssignableFrom"
  | isInstanceOf .. => "IsInstanceOf"
  | EnvFunction.throw _ => "Throw"
  | throwNew .. => "ThrowNew"
  | exceptionOccurred => "ExceptionOccurred"
  | exceptionDescribe => "ExceptionDescribe"
  | exceptionClear => "ExceptionClear"
  | exceptionCheck => "ExceptionCheck"
  | newLocalRef _ => "NewLocalRef"
  | newGlobalRef _ => "NewGlobalRef"
  | deleteLocalRef _ => "DeleteLocalRef"
  | deleteGlobalRef _ => "DeleteGlobalRef"
  | getObjectClass _ => "GetObjectClass"
  | getMethodId _ _ _ isStatic => if isStatic then "GetStaticMethodID" else "GetMethodID"
  | callObject .. => "CallObjectMethodA"
  | callVoid .. => "CallVoidMethodA"
  | callPrimitive kind .. => s!"Call{kind.functionWord}MethodA"
  | callStaticObject .. => "CallStaticObjectMethodA"
  | callStaticVoid .. => "CallStaticVoidMethodA"
  | newObject .. => "NewObjectA"
  | newString _ => "NewStringUTF"
  | getStringChars _ => "GetStringUTFChars"
  | releaseStringChars _ => "ReleaseStringUTFChars"
  | getArrayLength _ => "GetArrayLength"
  | getArrayElement .. => "GetObjectArrayElement"
  | registerNatives .. => "RegisterNatives"

/-- Whether a function runs Java code. -/
def runsMethod : EnvFunction → Bool
  | callObject .. | callVoid .. | callPrimitive .. | callStaticObject .. | callStaticVoid ..
  | newObject .. => true
  | _ => false

/-- Whether a function can be made to fail. Those that clean up or look at exceptions cannot. -/
def canFail : EnvFunction → Bool
  | exceptionOccurred | exceptionDescribe | exceptionClear | exceptionCheck | deleteLocalRef _
  | deleteGlobalRef _ | releaseStringChars _ => false
  | _ => true

/-- What stands before the answer of a function that was made to fail. A wrong version shows as a
version like any other. -/
def failureMark : EnvFunction → String
  | getVersion => "="
  | _ => "=!"

/-- What a function answers that was made to fail with the given status. -/
def failure (status : Int32) : (function : EnvFunction) → function.Reply
  | getVersion | getArrayLength _ => status
  | findClass _ | getSuperclass _ | exceptionOccurred | newLocalRef _ | newGlobalRef _
  | getObjectClass _ | callObject .. | callStaticObject .. | newObject .. | newString _
  | getArrayElement .. => none
  | isAssignableFrom .. | isInstanceOf .. | exceptionCheck => decide (0 < status)
  | EnvFunction.throw _ | throwNew .. | registerNatives .. => Status.check status
  | getMethodId .. => none
  | callPrimitive kind .. => kind.zero
  | getStringChars _ => none
  | exceptionDescribe | exceptionClear | deleteLocalRef _ | deleteGlobalRef _ | callVoid ..
  | callStaticVoid .. | releaseStringChars _ => ()

end EnvFunction

namespace Simulation

/-- A status in a trace. -/
def shownStatus {α : Type} : Except Status α → String
  | .ok _ => "0"
  | .error status => toString status.code.toInt

namespace Machine

/-- The method with the given identifier. -/
def method (machine : Machine) (id : MethodId) : Method :=
  let known := if id.vm = machine.id then machine.methods[id.number]? else none
  known.getD { name := "?", signature := "()V" }

/-- How a call of a method is shown. The name of the method is shown as it is. -/
def showInvocation (machine : Machine) (receiver : Handle) (method : MethodId)
    (arguments : List Argument) : String :=
  let method := machine.method method
  let shown := machine.showArguments (Signature.read method.signature) arguments
  s!"{machine.label receiver},{method.name},{shown}"

/-- How the arguments of a function are shown. -/
def showCall (machine : Machine) (function : EnvFunction) : String :=
  let label (handle : Handle) := machine.label (some handle)
  match function with
  | .getVersion | .exceptionOccurred | .exceptionDescribe | .exceptionClear | .exceptionCheck => ""
  | .findClass name => Text.escape name.bytes
  | .getSuperclass handle | .throw handle | .newLocalRef handle | .newGlobalRef handle
  | .deleteLocalRef handle | .deleteGlobalRef handle | .getObjectClass handle
  | .getStringChars handle | .releaseStringChars handle | .getArrayLength handle => label handle
  | .isAssignableFrom sub sup => s!"{label sub},{label sup}"
  | .isInstanceOf object classObject => s!"{machine.label object},{label classObject}"
  | .throwNew classObject message =>
    s!"{machine.label classObject},{Text.escape message.bytes}"
  | .getMethodId classObject name signature _ =>
    s!"{label classObject},{Text.escape name.bytes},{Text.escape signature.bytes}"
  | .callObject receiver method arguments | .callVoid receiver method arguments
  | .callPrimitive _ receiver method arguments | .callStaticObject receiver method arguments
  | .callStaticVoid receiver method arguments | .newObject receiver method arguments =>
    machine.showInvocation receiver method arguments
  | .newString content => Text.escape content.bytes
  | .getArrayElement array index => s!"{label array},{index.toInt}"
  | .registerNatives classObject methods =>
    let shown := methods.map fun method =>
      Text.escape method.name.bytes ++ Text.escape method.signature.bytes
    s!"{label classObject},[" ++ String.intercalate "," shown ++ "]"

/-- How the answer of a function is shown. -/
def showReply (machine : Machine) : (function : EnvFunction) → function.Reply → Option String
  | .getVersion, number | .getArrayLength _, number => toString number.toInt
  | .findClass _, handle | .getSuperclass _, handle | .exceptionOccurred, handle
  | .newLocalRef _, handle | .newGlobalRef _, handle | .getObjectClass _, handle
  | .callObject .., handle | .callStaticObject .., handle | .newObject .., handle
  | .newString _, handle | .getArrayElement .., handle => machine.label handle
  | .isAssignableFrom .., answer | .isInstanceOf .., answer | .exceptionCheck, answer =>
    toString answer
  | .throw _, status | .throwNew .., status | .registerNatives .., status => shownStatus status
  | .getMethodId .., method => if method.isSome then "M" else "null"
  | .callPrimitive kind .., content => (Scalar.of kind content).shown
  | .getStringChars _, some chars => Text.escape chars.bytes
  | .getStringChars _, none => "null"
  | .callVoid .., _ | .callStaticVoid .., _ => "void"
  | .exceptionDescribe, _ | .exceptionClear, _ | .deleteLocalRef _, _ | .deleteGlobalRef _, _
  | .releaseStringChars _, _ => none

end Machine

/-- How the name of a thread is shown: the number in a default name is not. -/
def showThreadName (name : Text.CString) : String :=
  let shown := Text.escape name.bytes
  let mark := "NativeThread-".toList
  let digits := shown.toList.drop mark.length
  if mark.isPrefixOf shown.toList && !digits.isEmpty && digits.all Char.isDigit then
    "NativeThread-*"
  else shown

end Simulation

end JavaInterop
