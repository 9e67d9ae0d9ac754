import JavaInterop.Simulation.Machine

/-!
# Running methods

How the simulated machine carries out a call of a method. Most calls end by themselves; a call on a
proxy may have to enter native code, and then the machine waits for its answer.
-/

namespace JavaInterop.Simulation

/-- A value as Java sees it. -/
inductive JavaValue where
  | object (object : Option Nat)
  | scalar (scalar : Scalar)
  | void

/-- How a method ends. -/
inductive Completion where
  | value (value : JavaValue)
  | thrown (exception : Nat)

/-- A call of native code: the function that is bound, the environment it gets, the table and the
index, and references to the receiver and to the array of arguments. -/
structure NativeCall where
  function : NativeFunction
  pointer : EnvPointer
  table : Int64
  index : Int32
  receiver : Option Handle
  array : Option Handle

/-- A call that is finished, or one that waits for the object that native code returns. -/
inductive Invocation (α : Type) where
  | finished (result : α)
  | entered (native : NativeCall) (resume : Option Handle → Step α)

namespace Invocation

variable {α β : Type}

/-- Does something with the result of a call. -/
def andThen (invocation : Invocation α) (next : α → Step β) : Step (Invocation β) :=
  match invocation with
  | finished result => finished <$> next result
  | entered native resume => return entered native fun answer => do next (← resume answer)

end Invocation

namespace JavaValue

/-- The object of a value. -/
def object? : JavaValue → Option Nat
  | .object held => held
  | .scalar _ | .void => none

/-- A value read as a scalar of the given kind. -/
def readAs (value : JavaValue) (kind : Primitive) : kind.Carrier :=
  match value with
  | scalar content => content.readAs kind
  | object _ | void => kind.zero

/-- A value as an element of an array: scalars are boxed. -/
def boxed : JavaValue → Step (Option Nat)
  | .object held => return held
  | .scalar content => some <$> Step.box content
  | .void => return none

end JavaValue

/-- The argument that a parameter of the given type gets. -/
def Machine.argument (machine : Machine) (type : JavaType) (argument : Option Argument) :
    JavaValue :=
  match type, argument with
  | .scalar kind, some (.scalar content) => .scalar (.of kind (content.readAs kind))
  | .scalar kind, _ => .scalar (.of kind kind.zero)
  | .reference, some (.reference handle) => .object (handle.bind machine.object?)
  | _, _ => .object none

/-- The arguments that the parameters of a method get. -/
def Machine.arguments (machine : Machine) (signature : Signature) (arguments : List Argument) :
    List JavaValue :=
  signature.parameters.zipIdx.map fun (type, place) => machine.argument type arguments[place]?

/-- How the arguments of a call are shown. -/
def Machine.showArguments (machine : Machine) (signature : Signature) (arguments : List Argument) :
    String :=
  let shown := signature.parameters.zipIdx.map fun (type, place) =>
    match type, arguments[place]? with
    | .reference, some (.reference handle) => machine.label handle
    | .reference, _ => "null"
    | type, argument =>
      match machine.argument type argument with
      | .scalar content => content.shown
      | _ => "null"
  "[" ++ String.intercalate "," shown ++ "]"

namespace Step

/-- A method that ends with a new exception. -/
def throwNew (className : String) (message : Option Text.Bytes) : Step Completion := do
  return .thrown (← newException className message)

/-- A method that ends with an exception of the machine, which says what is wrong in plain UTF-8. -/
def fail (className message : String) : Step Completion :=
  throwNew className (some (Text.utf8 message))

/-- A method that ends with an object. -/
def giveObject (object : Option Nat) : Step Completion := return .value (.object object)

/-- A method that ends with a new string. -/
def giveText (content : Text.Bytes) : Step Completion := do giveObject (some (← newText content))

/-- The text of an argument that is a string. -/
def textArgument (arguments : List JavaValue) (place : Nat) : Step Text.Bytes := do
  let machine ← get
  return ((arguments[place]? >>= JavaValue.object?) >>= machine.textOf?).getD []

/-- The class that a string names in dotted form, in plain UTF-8. -/
def namedClass? (name : Text.Bytes) : Step (Option Class) := do
  let machine ← get
  return Text.ofUtf8? name >>= machine.classes.find?

/-- Creates a proxy for the interface of a forwarder: an instance of a class of its own. -/
def createProxy (forwarder : Nat) : Step Completion := do
  let machine ← get
  match (machine.get forwarder).payload with
  | .forwarder interface _ =>
    if ((machine.classes.find? interface).map Class.isInterface).getD false then
      let number := machine.proxies
      let name := "jdk.proxy.$Proxy" ++ toString number
      let entry : Class := { name, super := some proxyClass, interfaces := [interface] }
      set { machine with proxies := number + 1, classes := machine.classes.declare entry }
      giveObject (some (← allocate ⟨name, .proxy forwarder number⟩))
    else fail "java.lang.IllegalArgumentException" s!"{interface} is not an interface"
  | _ => giveObject none

/-- Lets a forwarder send calls of a method to native code. -/
def addTarget (forwarder : Nat) (name : Text.Bytes) (table : Int64) (index : Int32) : Step Unit :=
  modify fun machine =>
    { machine with
      objects := machine.objects.modify forwarder fun object =>
        match object.payload with
        | .forwarder interface targets =>
          { object with payload := .forwarder interface ((name, table, index) :: targets) }
        | _ => object }

/-- Carries out a method of the platform on an object. Where the object holds nothing to tell, the
result is null or zero. -/
def runBuiltin (builtin : Builtin) (receiver : Nat) (arguments : List JavaValue) :
    Step Completion := do
  let machine ← get
  let payload := (machine.get receiver).payload
  match builtin with
  | .toString => giveText (machine.describe receiver)
  | .getName =>
    match payload with
    | .classObject name => giveText (Text.utf8 name)
    | _ => giveObject none
  | .getMessage =>
    match payload with
    | .throwable (some message) => giveText message
    | _ => giveObject none
  | .unbox kind =>
    match payload with
    | .wrapper content => return .value (.scalar (.of kind (content.readAs kind)))
    | _ => return .value (.scalar (.of kind kind.zero))
  | .loadClass =>
    let name ← textArgument arguments 0
    match ← namedClass? name with
    | some entry => giveObject (some (← classObjectOf entry.name))
    | none => throwNew "java.lang.ClassNotFoundException" (some name)
  | .registerNative =>
    let name ← textArgument arguments 0
    let table := ((arguments[1]?).map (·.readAs .long)).getD 0
    let index := ((arguments[2]?).map (·.readAs .int)).getD 0
    addTarget receiver name table index
    return .value .void
  | .createProxy => createProxy receiver

/-- Carries out a static method of the platform. -/
def runStaticBuiltin (builtin : StaticBuiltin) (arguments : List JavaValue) :
    Step Completion := do
  match builtin with
  | .valueOf kind =>
    let content := ((arguments[0]?).map (·.readAs kind)).getD kind.zero
    giveObject (some (← box (.of kind content)))
  | .registerHook =>
    modify fun machine => { machine with hasHook := true }
    return .value .void

/-- Carries out a method; a static one has no receiver, and so has a call on a reference that stands
for no object. A method of the platform that needs a receiver then does nothing. -/
def runMethod (method : Method) (receiver : Option Nat) (arguments : List JavaValue) :
    Step Completion := do
  match method.behaviour with
  | .throws className message => throwNew className (message.map encoded)
  | .echo index => return .value ((arguments[index]?).getD (.object none))
  | .receiver => giveObject receiver
  | .returns (.object spec) => giveObject (← make spec)
  | .returns (.scalar content) => return .value (.scalar content)
  | .builtin builtin =>
    match receiver with
    | some object => runBuiltin builtin object arguments
    | none => giveObject none
  | .staticBuiltin builtin => runStaticBuiltin builtin arguments

/-- What a method of the given result type makes of an object that its proxy got. -/
def unwrap (type : JavaType) (object : Option Nat) : Step Completion := do
  match type, object with
  | .void, _ => return .value .void
  | .reference, object => giveObject object
  | .scalar _, none => throwNew "java.lang.NullPointerException" none
  | .scalar kind, some object =>
    match ((← get).get object).payload with
    | .wrapper content =>
      if content.kind = kind then return .value (.scalar content)
      else throwNew "java.lang.ClassCastException" none
    | _ => throwNew "java.lang.ClassCastException" none

/-- What native code left: the exception that is pending now, or the object that it returned. The
references made for the call are deleted without a trace. -/
def leaveNative (thread : Nat) (references : List (Option Handle)) (answer : Option Handle) :
    Step Completion := do
  let machine ← get
  report ("\x7d=" ++ machine.label answer)
  let object := answer.bind machine.object?
  for reference in references ++ [answer] do
    reference.forM delete
  match ← takePending thread with
  | some exception => return .thrown exception
  | none => return .value (.object object)

/-- Enters native code, with references to the forwarder, the receiver and the array of arguments
that are made in this order. -/
def enterNative (thread : Nat) (pointer : EnvPointer) (table : Int64) (index : Int32)
    (forwarder receiver array : Option Nat) : Step (Invocation Completion) := do
  match (← get).forwarding? with
  | none => return .finished (← fail "java.lang.UnsatisfiedLinkError" "invokeNative")
  | some function =>
    let forwarder ← referTo? forwarder
    let receiver ← referTo? receiver
    let array ← referTo? array
    let machine ← get
    report <| s!"native invokeNative({table.toInt},{index.toInt},{machine.label receiver}," ++
      s!"{machine.label array}) " ++ "\x7b"
    return .entered ⟨function, pointer, table, index, receiver, array⟩
      (leaveNative thread [forwarder, receiver, array])

/-- The call of a method that a proxy does not forward. It answers those of every object by itself,
known by their names and how many arguments they take. -/
def callUnforwarded (interface : String) (number receiver : Nat) (name : String)
    (arguments : List (Option Nat)) : Step Completion := do
  match name, arguments with
  | "equals", [other] => giveObject (some (← box (.boolean (other == some receiver))))
  | "hashCode", [] => giveObject (some (← box (.int (Int32.ofNat number))))
  | "toString", [] =>
    giveText (Text.utf8 (interface ++ "@" ++ String.ofList (Nat.toDigits 16 number)))
  | name, _ => fail "java.lang.UnsupportedOperationException" s!"No method {name} registered"

/-- A call on a proxy. It goes to the forwarder by the name of the method, with all arguments
boxed. -/
def callProxy (thread : Nat) (pointer : EnvPointer) (receiver forwarder number : Nat)
    (method : Method) (arguments : List JavaValue) : Step (Invocation Completion) := do
  let boxed ← arguments.mapM JavaValue.boxed
  let machine ← get
  let (interface, targets) := match (machine.get forwarder).payload with
    | .forwarder interface targets => (interface, targets)
    | _ => ("", [])
  let type := (Signature.read method.signature).result
  let finish : Completion → Step Completion
    | .value value => unwrap type value.object?
    | .thrown exception => return .thrown exception
  match targets.lookup (Text.utf8 method.name) with
  | some (table, index) =>
    let array ← if boxed.isEmpty then pure none else some <$> newArray boxed
    let invocation ←
      enterNative thread pointer table index (some forwarder) (some receiver) array
    invocation.andThen finish
  | none =>
    let completion ← callUnforwarded interface number receiver method.name boxed
    return .finished (← finish completion)

/-- A call of a method on an object, whose class decides what is run. Where there is no object, and
for a constructor, the method that was looked up is run itself. -/
def callInstance (thread : Nat) (pointer : EnvPointer) (receiver : Option Nat) (method : Method)
    (arguments : List JavaValue) : Step (Invocation Completion) := do
  if method.name == ClassTable.constructorName then
    return .finished (← runMethod method receiver arguments)
  match receiver with
  | none => return .finished (← runMethod method none arguments)
  | some object =>
    let machine ← get
    match machine.get object with
    | ⟨_, .proxy forwarder number⟩ =>
      callProxy thread pointer object forwarder number method arguments
    | ⟨className, _⟩ =>
      match machine.classes.dispatch? className method.name method.signature with
      | some found => return .finished (← runMethod found receiver arguments)
      | none => return .finished (← fail "java.lang.AbstractMethodError" method.name)

/-- The message of an exception that is created with the given argument, if there is one. What is no
string says nothing. -/
def messageOf (argument : Option JavaValue) : Step (Option Text.Bytes) := do
  let machine ← get
  return (argument >>= JavaValue.object?).map fun object => (machine.textOf? object).getD []

/-- Creates an object with the given constructor. -/
def construct (className : String) (constructor : Method) (arguments : List JavaValue) :
    Step Completion := do
  let machine ← get
  match constructor.behaviour with
  | .throws className message => throwNew className (message.map encoded)
  | _ =>
    if className == forwarderClass then
      let name ← textArgument arguments 0
      match ← namedClass? name with
      | some entry => giveObject (some (← allocate ⟨className, .forwarder entry.name []⟩))
      | none => throwNew "java.lang.ClassNotFoundException" (some name)
    else if machine.classes.isThrowable className then
      giveObject (some (← allocate ⟨className, .throwable (← messageOf arguments[0]?)⟩))
    else giveObject (some (← allocate ⟨className, .plain⟩))

end Step

end JavaInterop.Simulation
