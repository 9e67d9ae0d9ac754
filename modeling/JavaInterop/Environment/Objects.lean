import JavaInterop.Environment.Methods

/-!
# Strings, arrays and exceptions

The functions of an environment for strings and object arrays, for raising exceptions, and for
showing an object or a class.
-/

namespace JavaInterop

variable [Host]

namespace Env

/-- Whether an exception is pending. -/
def exceptionCheck (env : Env) : Program Bool := env.perform .exceptionCheck

/-- The pending exception, which stays pending. -/
def exceptionOccurred (env : Env) : Program (Option LocalReference) := do
  return env.ownNonNull (← env.perform .exceptionOccurred)

/-- Forgets the pending exception. -/
def exceptionClear (env : Env) : Program Unit := env.perform .exceptionClear

/-- Prints the pending exception and forgets it. -/
def exceptionDescribe (env : Env) : Program Unit := env.perform .exceptionDescribe

/-- Makes an object the pending exception. -/
def raise (env : Env) (throwable : Option Handle) : Fallible Unit := do
  let throwable ← Fallible.nonNull throwable "throw throwable"
  Fallible.ofStatus (← env.perform (.throw throwable)) .callFailed

/-- Raises a new exception of the class with the given internal name. -/
def raiseNew (env : Env) (internalName message : String) : Fallible Unit := do
  let classObject ← env.findClass internalName
  classObject.scope do
    let message := Text.ModifiedUtf8.encode message
    Fallible.ofStatus (← env.perform (.throwNew classObject.raw message)) .callFailed

/-- A new string. -/
def newString (env : Env) (content : String) : Fallible LocalReference := do
  let answer ← env.perform (.newString (Text.ModifiedUtf8.encode content))
  env.catchPending
  let string ← Fallible.nonNull answer "NewStringUTF result"
  return env.own string

/-- The content of a string. -/
def getString (env : Env) (string : Option Handle) : Fallible String := do
  let string ← Fallible.nonNull string "get_string string"
  match ← env.readString string with
  | some (.ok text) => return text
  | some (.error error) => throw error
  | none =>
    env.catchPending
    throw (.nullPointer "GetStringUTFChars result")

/-- The length of an array; a negative answer counts as none. -/
def arrayLength (env : Env) (array : Option Handle) : Fallible Nat := do
  let array ← Fallible.nonNull array "get_array_length array"
  let length ← env.perform (.getArrayLength array)
  return length.toInt.toNat

/-- An element of an object array. The index is passed on as a signed 32-bit number. -/
def arrayElement (env : Env) (array : Option Handle) (index : Nat) :
    Fallible (Option LocalReference) := do
  let array ← Fallible.nonNull array "get_object_array_element array"
  let element ← env.perform (.getArrayElement array (Int32.ofNat index))
  env.catchPending
  return env.ownNonNull element

/-- What `toString` of an object says; the null reference says `null`. -/
def describe (env : Env) (object : Option Handle) : Fallible String := do
  if object.isNone then
    return "null"
  let classObject ← env.findClass "java/lang/Object"
  classObject.scope do
    let method ← env.findMethod classObject.raw "toString" "()Ljava/lang/String;" false
    match ← env.callObject object method [] with
    | some string => string.scope (env.getString string.raw)
    | none => return "null"

/-- The name of a class in dotted form. -/
def className (env : Env) (classObject : Option Handle) : Fallible String := do
  let metaclass ← env.findClass "java/lang/Class"
  metaclass.scope do
    let method ← env.findMethod metaclass.raw "getName" "()Ljava/lang/String;" false
    match ← env.callObject classObject method [] with
    | some name => name.scope (env.getString name.raw)
    | none => throw (.nullPointer "Class.getName() result")

end Env

/-- Makes a caught exception pending again. -/
def Thrown.rethrow (thrown : Thrown) (env : Env) : Fallible Unit :=
  env.raise thrown.proxy.reference.raw

end JavaInterop
