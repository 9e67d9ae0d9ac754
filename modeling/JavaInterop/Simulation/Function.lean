import JavaInterop.Simulation.Trace

/-!
# The functions of a machine

What each function of the native interface does. A call is reported on one line when it ends, so
the lines of native code that it entered come before its own. A call that is made to fail does
nothing but raise the exception of the fault.
-/

namespace JavaInterop.Simulation

namespace Step

variable {α : Type}

/-- A call that does not wait for native code. -/
def atOnce (step : Step α) : Step (Invocation α) := .finished <$> step

/-- Carries out a call, unless a fault applies to it, and reports it. What `failure` makes of the
status of a fault is the answer and the end of the line. -/
def conduct (thread : Nat) (name arguments : String) (failure : Option (Int32 → α × String))
    (shown : Machine → α → Option String) (body : Step (Invocation α)) : Step (Invocation α) := do
  let line := name ++ "(" ++ arguments ++ ")"
  match failure with
  | some failure =>
    if let some fault ← fault? name then
      if let some (className, message) := fault.throws then
        raise thread className (message.map encoded)
      let (reply, text) := failure fault.status
      report (line ++ text)
      return .finished reply
  | none => pure ()
  (← body).andThen fun reply => do
    match shown (← get) reply with
    | some text => report (line ++ "=" ++ text)
    | none => report line
    return reply

/-- Makes what a method threw pending; the call then has no value. -/
def settle (thread : Nat) : Completion → Step JavaValue
  | .value value => return value
  | .thrown exception => do
    setPending thread exception
    return .void

/-- Finds a class by its name in internal form. -/
def findClass (thread : Nat) (name : Text.CString) : Step (Option Handle) := do
  let machine ← get
  let found := do
    let text ← Text.ofUtf8? name.bytes
    if text.contains '.' then none
    let entry ← machine.classes.find? (dotted text)
    if entry.hidden then none
    return entry.name
  match found with
  | some className => some <$> (do refer (← classObjectOf className))
  | none =>
    raise thread "java.lang.NoClassDefFoundError" name.bytes
    return none

/-- Finds a method by name and signature. -/
def findMethod (thread : Nat) (classObject : Handle) (name signature : Text.CString)
    (isStatic : Bool) : Step (Option MethodId) := do
  let machine ← get
  let found := do
    let className ← machine.classOf? classObject
    let name ← Text.ofUtf8? name.bytes
    let signature ← Text.ofUtf8? signature.bytes
    machine.classes.method? className name signature isStatic
  match found with
  | some method =>
    modifyGet fun machine =>
      let id : MethodId := ⟨machine.id, machine.methods.size⟩
      (some id, { machine with methods := machine.methods.push method })
  | none =>
    raise thread "java.lang.NoSuchMethodError" name.bytes
    return none

/-- Calls a method on an object and gives its value. -/
def callMethod (thread : Nat) (pointer : EnvPointer) (receiver : Handle) (id : MethodId)
    (arguments : List Argument) : Step (Invocation JavaValue) := do
  let machine ← get
  let method := machine.method id
  let values := machine.arguments (Signature.read method.signature) arguments
  (← callInstance thread pointer (machine.object? receiver) method values).andThen (settle thread)

/-- Calls a static method and gives its value. -/
def callStatic (thread : Nat) (id : MethodId) (arguments : List Argument) : Step JavaValue := do
  let machine ← get
  let method := machine.method id
  let values := machine.arguments (Signature.read method.signature) arguments
  settle thread (← runMethod method none values)

/-- Creates an object. A reference that stands for no class counts as the class of all objects. -/
def newObject (thread : Nat) (classObject : Handle) (id : MethodId) (arguments : List Argument) :
    Step (Option Handle) := do
  let machine ← get
  let constructor := machine.method id
  let values := machine.arguments (Signature.read constructor.signature) arguments
  let className := (machine.classOf? classObject).getD objectClass
  let value ← settle thread (← construct className constructor values)
  referTo? value.object?

/-- Raises a new exception of a class. -/
def raiseNew (thread : Nat) (classObject : Option Handle) (message : Text.CString) :
    Step (Except Status Unit) := do
  match classObject.bind (← get).classOf? with
  | some className =>
    raise thread className (some message.bytes)
    return .ok ()
  | none => return .error .unknown

/-- The element of an array. -/
def arrayElement (thread : Nat) (array : Handle) (index : Int32) : Step (Option Handle) := do
  let machine ← get
  let element := do
    let object ← machine.object? array
    match (machine.get object).payload with
    | .array elements => if 0 ≤ index.toInt then elements[index.toInt.toNat]? else none
    | _ => none
  match element with
  | some object => referTo? object
  | none =>
    let message := encoded (toString index.toInt)
    raise thread "java.lang.ArrayIndexOutOfBoundsException" (some message)
    return none

/-- Binds native functions to the methods of a class. -/
def bindNatives (classObject : Handle) (methods : List NativeMethod) : Step Unit :=
  modify fun machine =>
    match machine.classOf? classObject with
    | some className =>
      let bound := methods.map fun method =>
        ((className, method.name.bytes, method.signature.bytes), method.function)
      { machine with natives := bound.reverse ++ machine.natives }
    | none => machine

/-- The body of a function. -/
def execute (thread : Nat) (pointer : EnvPointer) :
    (function : EnvFunction) → Step (Invocation function.Reply)
  | .getVersion => atOnce do return (← get).version
  | .findClass name => atOnce (findClass thread name)
  | .getSuperclass classObject => atOnce do
    let machine ← get
    let super := do
      let entry ← machine.classes.find? (← machine.classOf? classObject)
      entry.superclass?
    match super with
    | some super => some <$> (do refer (← classObjectOf super))
    | none => return none
  | .isAssignableFrom sub sup => atOnce do
    let machine ← get
    match machine.classOf? sub, machine.classOf? sup with
    | some sub, some sup => return machine.classes.isAssignable sub sup
    | _, _ => return false
  | .isInstanceOf object classObject => atOnce do
    let machine ← get
    match machine.classOf? classObject, object.bind machine.object? with
    | none, _ => return false
    | some _, none => return true
    | some className, some object =>
      return machine.classes.isAssignable (machine.get object).className className
  | .throw throwable => atOnce do
    match (← get).object? throwable with
    | some object =>
      setPending thread object
      return .ok ()
    | none => return .error .unknown
  | .throwNew classObject message => atOnce (raiseNew thread classObject message)
  | .exceptionOccurred => atOnce do referTo? ((← get).pending.find? thread)
  | .exceptionDescribe | .exceptionClear => atOnce do discard (takePending thread)
  | .exceptionCheck => atOnce do return ((← get).pending.find? thread).isSome
  | .newLocalRef object => atOnce do referTo? ((← get).object? object)
  | .newGlobalRef object => atOnce do
    match (← get).object? object with
    | some object => some <$> refer object true
    | none => return none
  | .deleteLocalRef reference | .deleteGlobalRef reference => atOnce (delete reference)
  | .getObjectClass object => atOnce do
    let machine ← get
    match machine.object? object with
    | some object => some <$> (do refer (← classObjectOf (machine.get object).className))
    | none => return none
  | .getMethodId classObject name signature isStatic =>
    atOnce (findMethod thread classObject name signature isStatic)
  | .callObject receiver method arguments => do
    (← callMethod thread pointer receiver method arguments).andThen fun value =>
      referTo? value.object?
  | .callVoid receiver method arguments => do
    (← callMethod thread pointer receiver method arguments).andThen fun _ => return ()
  | .callPrimitive kind receiver method arguments => do
    (← callMethod thread pointer receiver method arguments).andThen fun value =>
      return value.readAs kind
  | .callStaticObject _ method arguments => atOnce do
    referTo? (← callStatic thread method arguments).object?
  | .callStaticVoid _ method arguments => atOnce do discard (callStatic thread method arguments)
  | .newObject classObject method arguments =>
    atOnce (newObject thread classObject method arguments)
  | .newString content => atOnce do return some (← refer (← newText content.bytes))
  | .getStringChars string => atOnce do
    let machine ← get
    match machine.object? string >>= machine.textOf? with
    | some content =>
      set { machine with buffers := machine.buffers + 1 }
      return some (.upToZero content)
    | none => return none
  | .releaseStringChars _ => atOnce do
    modify fun machine => { machine with buffers := machine.buffers - 1 }
  | .getArrayLength array => atOnce do
    let machine ← get
    match (machine.object? array).map fun object => (machine.get object).payload with
    | some (.array elements) => return Int32.ofNat elements.length
    | _ => return -1
  | .getArrayElement array index => atOnce (arrayElement thread array index)
  | .registerNatives classObject methods => atOnce do
    bindNatives classObject methods
    return .ok ()

/-- Calls a function on behalf of a thread. -/
def perform (thread : Nat) (pointer : EnvPointer) (function : EnvFunction) :
    Step (Invocation function.Reply) := do
  let machine ← get
  let failure (status : Int32) : function.Reply × String :=
    let reply := function.failure status
    let shown := (machine.showReply function reply).getD ""
    (reply, function.failureMark ++ if function.runsMethod then "null" else shown)
  conduct thread function.name (machine.showCall function)
    (if function.canFail then some failure else none)
    (fun machine => machine.showReply function) (execute thread pointer function)

/-! ## Threads -/

/-- The environment of a thread, which is attached first if it has none. -/
def attachThread (thread : Nat) : Step EnvPointer :=
  modifyGet fun machine =>
    match machine.attached.find? thread with
    | some number => (⟨machine.id, number⟩, machine)
    | none =>
      let number := machine.environments + 1
      (⟨machine.id, number⟩, { machine with
        environments := number
        attached := machine.attached.insert thread number })

/-- The environment of a thread that is attached. -/
def environment? (thread : Nat) : Step (Option EnvPointer) := do
  let machine ← get
  return (machine.attached.find? thread).map fun number => ⟨machine.id, number⟩

/-- Detaches a thread, and tells whether it was attached. What was pending on it is forgotten. -/
def detachThread (thread : Nat) : Step Bool := do
  let wasAttached := (← environment? thread).isSome
  modify fun machine => { machine with
    attached := machine.attached.erase thread
    pending := machine.pending.erase thread }
  return wasAttached

/-- How an answered environment is shown. -/
def shownEnv (answer : Except Status EnvPointer) : String :=
  match answer with
  | .ok pointer => pointer.label
  | .error status => toString status.code.toInt

/-- What a call that answers an environment gives when it is made to fail. If it claims success, the
environment is missing. -/
def envFailure (vm : VmId) (status : Int32) : Except Status EnvPointer × String :=
  ((Status.check status).map fun _ => .null vm, s!"=!{status.toInt}")

/-- Looks up the environment of the running thread. -/
def getEnv (thread : Nat) (version : Version) : Step (Invocation (Except Status EnvPointer)) := do
  let machine ← get
  conduct thread "GetEnv" (toString version.toInt.toInt) (some (envFailure machine.id))
    (fun _ answer => shownEnv answer) <| atOnce do
      match ← environment? thread with
      | some pointer => return .ok pointer
      | none => return .error .threadDetached

/-- Attaches the running thread. -/
def attach (thread : Nat) (request : AttachRequest) :
    Step (Invocation (Except Status EnvPointer)) := do
  let machine ← get
  let name := if request.daemon then "AttachCurrentThreadAsDaemon" else "AttachCurrentThread"
  let arguments := s!"{request.version.toInt.toInt},{showThreadName request.name}," ++
    machine.label request.group
  conduct thread name arguments (some (envFailure machine.id)) (fun _ answer => shownEnv answer) <|
    atOnce do return .ok (← attachThread thread)

/-- What a call that answers a status gives when it is made to fail. -/
def statusFailure (status : Int32) : Except Status Unit × String :=
  (Status.check status, s!"=!{status.toInt}")

/-- Detaches the running thread. -/
def detach (thread : Nat) : Step (Invocation (Except Status Unit)) :=
  conduct thread "DetachCurrentThread" "" (some statusFailure)
    (fun _ answer => shownStatus answer) <| atOnce do
      return if ← detachThread thread then .ok () else .error .threadDetached

/-- Shuts the machine down. No thread is attached after that. -/
def destroy (thread : Nat) : Step (Invocation (Except Status Unit)) :=
  conduct thread "DestroyJavaVM" "" (some statusFailure)
    (fun _ answer => shownStatus answer) <| atOnce do
      modify fun machine => { machine with attached := { } }
      return .ok ()

end Step

end JavaInterop.Simulation
