import JavaInterop.Startup.Arguments

/-!
# Calls into a virtual machine

Every function of the native interface that the bridge uses, as data, together with the type of
what it answers. Functions that report a status answer with the failure it stands for. Where a
function may get the null reference the parameter is optional, and so is every answer that may be
null.
-/

namespace JavaInterop

/-- How a thread asks to be attached. -/
structure AttachRequest where
  version : Version
  name : Text.CString
  group : Option Handle
  daemon : Bool
deriving DecidableEq

/-- A native function to be bound to a Java method. -/
structure NativeMethod where
  name : Text.CString
  signature : Text.CString
  function : NativeFunction
deriving DecidableEq

/-- The functions reached through the environment of an attached thread. -/
inductive EnvFunction where
  | getVersion
  | findClass (name : Text.CString)
  | getSuperclass (classObject : Handle)
  | isAssignableFrom (sub sup : Handle)
  | isInstanceOf (object : Option Handle) (classObject : Handle)
  | throw (throwable : Handle)
  | throwNew (classObject : Option Handle) (message : Text.CString)
  | exceptionOccurred
  | exceptionDescribe
  | exceptionClear
  | exceptionCheck
  | newLocalRef (object : Handle)
  | newGlobalRef (object : Handle)
  | deleteLocalRef (reference : Handle)
  | deleteGlobalRef (reference : Handle)
  | getObjectClass (object : Handle)
  | getMethodId (classObject : Handle) (name signature : Text.CString) (isStatic : Bool)
  | callObject (receiver : Handle) (method : MethodId) (arguments : List Argument)
  | callVoid (receiver : Handle) (method : MethodId) (arguments : List Argument)
  | callPrimitive (kind : Primitive) (receiver : Handle) (method : MethodId)
      (arguments : List Argument)
  | callStaticObject (classObject : Handle) (method : MethodId) (arguments : List Argument)
  | callStaticVoid (classObject : Handle) (method : MethodId) (arguments : List Argument)
  | newObject (classObject : Handle) (constructor : MethodId) (arguments : List Argument)
  | newString (content : Text.CString)
  | getStringChars (string : Handle)
  | releaseStringChars (string : Handle)
  | getArrayLength (array : Handle)
  | getArrayElement (array : Handle) (index : Int32)
  | registerNatives (classObject : Handle) (methods : List NativeMethod)
deriving DecidableEq

/-- What a function of the environment answers. -/
@[reducible] def EnvFunction.Reply : EnvFunction → Type
  | getVersion | getArrayLength _ => Int32
  | findClass _ | getSuperclass _ | exceptionOccurred | newLocalRef _ | newGlobalRef _
  | getObjectClass _ | callObject .. | callStaticObject .. | newObject .. | newString _
  | getArrayElement .. => Option Handle
  | isAssignableFrom .. | isInstanceOf .. | exceptionCheck => Bool
  | EnvFunction.throw _ | throwNew .. | registerNatives .. => Except Status Unit
  | getMethodId .. => Option MethodId
  | callPrimitive kind .. => kind.Carrier
  | getStringChars _ => Option Text.CString
  | exceptionDescribe | exceptionClear | deleteLocalRef _ | deleteGlobalRef _ | callVoid ..
  | callStaticVoid .. | releaseStringChars _ => Unit

/-- A call that the bridge makes on the running thread. -/
inductive Call where
  /-- Creates a machine, through the entry point of its library. -/
  | create (arguments : Startup.Arguments)
  /-- Lists the machines of the process, as many as there is room for, or only counts them. -/
  | list (room : Option Nat)
  /-- The environment of the running thread. -/
  | getEnv (vm : VmId) (version : Version)
  /-- Attaches the running thread. -/
  | attach (vm : VmId) (request : AttachRequest)
  /-- Detaches the running thread. -/
  | detach (vm : VmId)
  /-- Shuts the machine down. -/
  | destroy (vm : VmId)
  /-- A function of an environment. -/
  | env (pointer : EnvPointer) (function : EnvFunction)
deriving DecidableEq

/-- What a call answers. Creating a machine gives its pointer, which may be null; listing gives the
number of machines and the pointers that there was room for. -/
@[reducible] def Call.Reply : Call → Type
  | create _ => Except Status (Option VmId)
  | list _ => Except Status (Nat × List (Option VmId))
  | getEnv .. | attach .. => Except Status EnvPointer
  | detach _ | destroy _ => Except Status Unit
  | env _ function => function.Reply

end JavaInterop
