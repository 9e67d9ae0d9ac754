import JavaInterop.Simulation.Signature
import JavaInterop.Text.Bytes

/-!
# Classes of the simulated machine

A class has a name in dotted form, at most one superclass, interfaces, and methods with a scripted
behaviour. Classes are found by name in a table that holds the classes of the platform and those
that are declared in addition.
-/

namespace JavaInterop.Simulation

/-- How to make an object. -/
inductive ObjectSpec where
  | null
  | text (content : String)
  | bytes (content : Text.Bytes)
  | new (className : String)
  | classObject (className : String)
  | exception (className : String) (message : Option String)
  | array (elements : List ObjectSpec)
  | box (scalar : Scalar)

/-- What a scripted method returns. -/
inductive ResultSpec where
  | object (spec : ObjectSpec)
  | scalar (scalar : Scalar)

/-- Methods of objects of the platform that the machine itself carries out. -/
inductive Builtin where
  | toString
  | getName
  | getMessage
  | unbox (kind : Primitive)
  | loadClass
  | registerNative
  | createProxy
deriving DecidableEq

/-- Static methods of the platform that the machine itself carries out. -/
inductive StaticBuiltin where
  | valueOf (kind : Primitive)
  | registerHook
deriving DecidableEq

/-- What a method does when it is called. -/
inductive Behaviour where
  | throws (className : String) (message : Option String)
  | echo (index : Nat)
  | receiver
  | returns (result : ResultSpec)
  | builtin (builtin : Builtin)
  | staticBuiltin (builtin : StaticBuiltin)

/-- A method of a class. -/
structure Method where
  name : String
  signature : String
  isStatic : Bool := false
  behaviour : Behaviour := .returns (.object .null)

/-- Reads a declaration `[static ]name(parameters)result`. -/
def Method.declared (declaration : String) (behaviour : Behaviour) : Method :=
  let characters := declaration.toList
  let isStatic := "static ".toList.isPrefixOf characters
  let characters := if isStatic then characters.drop 7 else characters
  let isName (c : Char) := c ≠ '('
  let name := String.ofList (characters.takeWhile isName)
  ⟨name, .ofList (characters.dropWhile isName), isStatic, behaviour⟩

/-- A class or an interface. -/
structure Class where
  name : String
  super : Option String := none
  interfaces : List String := []
  isInterface : Bool := false
  hidden : Bool := false
  methods : List Method := []

/-- The class of an object that nothing more is known of. -/
def objectClass : String := "java.lang.Object"

namespace Class

/-- The superclass of a declared class: the one that the declaration names, or else the class of all
objects, which has none itself, nor has an interface. -/
def superOf (name : String) (isInterface : Bool) (named : Option String) : Option String :=
  named.orElse fun _ => if isInterface || name == objectClass then none else some objectClass

/-- What a class directly extends or implements. -/
def parents (entry : Class) : List String := entry.super.toList ++ entry.interfaces

/-- The superclass as it is asked for: interfaces and the class of all objects have none. -/
def superclass? (entry : Class) : Option String :=
  if entry.isInterface || entry.name == objectClass then none else entry.super

end Class

/-- The classes of a machine. -/
structure ClassTable where
  classes : List Class := []

/-- The class of everything that can be thrown. -/
def throwableClass : String := "java.lang.Throwable"

/-- The class of arrays of objects. -/
def arrayClass : String := "[Ljava.lang.Object;"

/-- The class that forwards calls to native code. -/
def forwarderClass : String := "org.jnibridge.NativeInvocation"

/-- The signature of the native method that calls are forwarded to. -/
def forwardSignature : String :=
  "(JILjava/lang/Object;[Ljava/lang/Object;)Ljava/lang/Object;"

/-- The class that all proxies extend. -/
def proxyClass : String := "java.lang.reflect.Proxy"

/-- The class of the shutdown hook. -/
def hookClass : String := "org.jnibridge.ShutdownHook"

namespace ClassTable

/-- The class of the given dotted name. -/
def find? (table : ClassTable) (name : String) : Option Class :=
  table.classes.find? fun entry => entry.name == name

/-- Declares a class, in place of an older one of the same name. -/
def declare (table : ClassTable) (entry : Class) : ClassTable :=
  ⟨entry :: table.classes.filter fun other => other.name != entry.name⟩

/-- Adds empty classes for names that are only mentioned. -/
def complete (table : ClassTable) : ClassTable :=
  let mentioned := table.classes.flatMap Class.parents
  mentioned.foldl
    (fun table name => if (table.find? name).isSome then table else table.declare { name := name })
    table

/-- A class and its superclasses, the most specific first. There are no more than there are
classes. -/
def chain (table : ClassTable) (name : String) : List Class :=
  go table.classes.length name
where
  /-- At most `count` classes, starting with the one named. -/
  go : (count : Nat) → String → List Class
    | 0, _ => []
    | count + 1, name =>
      match table.find? name with
      | none => []
      | some entry =>
        entry :: match entry.super with
          | some super => go count super
          | none => []

/-- The classes of the given names, then those that the step leads to from them, and so on, each
only once. As no class is opened twice, no more names wait than the step gives in all. -/
def reach (table : ClassTable) (step : Class → List String) (names : List String) : List Class :=
  let given := table.classes.map fun entry => (step entry).length
  go (given.foldr (· + ·) 0 + names.length + 1) [] names
where
  /-- Opens at most `count` of the waiting names, skipping those that were seen. -/
  go : (count : Nat) → (seen waiting : List String) → List Class
    | 0, _, _ => []
    | _ + 1, _, [] => []
    | count + 1, seen, name :: waiting =>
      if name ∈ seen then go count seen waiting
      else match table.find? name with
        | none => go count seen waiting
        | some entry => entry :: go count (name :: seen) (waiting ++ step entry)

/-- The classes whose methods a class has: its chain, then the interfaces of that, then the
interfaces of those, and so on. -/
def lineage (table : ClassTable) (name : String) : List Class :=
  let chain := table.chain name
  chain ++ table.reach Class.interfaces (chain.flatMap Class.interfaces)

/-- Everything that can be reached from a class over superclasses and interfaces, in any order. -/
def ancestors (table : ClassTable) (name : String) : List Class :=
  table.reach Class.parents [name]

/-- Whether a class may stand where the other one is expected. -/
def isAssignable (table : ClassTable) (sub sup : String) : Bool :=
  sup == objectClass || (table.ancestors sub).any fun entry => entry.name == sup

/-- Whether instances of the class can be thrown. -/
def isThrowable (table : ClassTable) (name : String) : Bool :=
  table.isAssignable name throwableClass

/-- The name of constructors. -/
def constructorName : String := "<init>"

/-- Whether a method is the one that is looked for. -/
def isMethod (name signature : String) (isStatic : Bool) (method : Method) : Bool :=
  method.name == name && method.signature == signature && method.isStatic == isStatic

/-- The first method of a list of classes that is the one looked for. -/
def firstMethod? (classes : List Class) (name signature : String) (isStatic : Bool) :
    Option Method :=
  classes.findSome? fun entry => entry.methods.find? (isMethod name signature isStatic)

/-- The method that a look-up in a class finds. Constructors are not inherited; what a class does
not declare itself is found among those of all throwables or of all objects. -/
def method? (table : ClassTable) (className name signature : String) (isStatic : Bool) :
    Option Method :=
  if name == constructorName then
    let fallback := if table.isThrowable className then throwableClass else objectClass
    firstMethod? ([className, fallback].filterMap table.find?) name signature isStatic
  else firstMethod? (table.lineage className) name signature isStatic

/-- The method that a call on an instance of a class runs. -/
def dispatch? (table : ClassTable) (className name signature : String) : Option Method :=
  firstMethod? (table.chain className) name signature false

end ClassTable

/-- A class of the platform that extends the class of all objects. -/
def platformClass (name : String) (methods : List Method := []) (super : String := objectClass) :
    Class where
  name := name
  super := some super
  methods := methods

/-- The wrapper class of a primitive kind. -/
def wrapperClass (kind : Primitive) : Class :=
  let super := match kind with
    | .boolean | .char => objectClass
    | _ => "java.lang.Number"
  platformClass kind.wrapperDotted
    [⟨"valueOf", kind.valueOfSignature, true, .staticBuiltin (.valueOf kind)⟩,
      ⟨kind.unboxMethod, kind.unboxSignature, false, .builtin (.unbox kind)⟩] super

/-- The classes of exceptions of the platform, each with its superclass. -/
def platformExceptions : List (String × String) :=
  [("Exception", "Throwable"), ("RuntimeException", "Exception"),
    ("IllegalArgumentException", "RuntimeException"),
    ("IllegalStateException", "RuntimeException"), ("NullPointerException", "RuntimeException"),
    ("ClassCastException", "RuntimeException"),
    ("UnsupportedOperationException", "RuntimeException"),
    ("IndexOutOfBoundsException", "RuntimeException"),
    ("ArrayIndexOutOfBoundsException", "IndexOutOfBoundsException"),
    ("ClassNotFoundException", "Exception"), ("Error", "Throwable"), ("LinkageError", "Error"),
    ("NoClassDefFoundError", "LinkageError"), ("IncompatibleClassChangeError", "LinkageError"),
    ("NoSuchMethodError", "IncompatibleClassChangeError"),
    ("AbstractMethodError", "IncompatibleClassChangeError"),
    ("UnsatisfiedLinkError", "LinkageError"), ("VirtualMachineError", "Error"),
    ("OutOfMemoryError", "VirtualMachineError")]

/-- An interface of the platform. -/
def platformInterface (name method signature : String) : Class where
  name := name
  isInterface := true
  methods := [{ name := method, signature := signature }]

/-- The classes that every machine has. -/
def ClassTable.platform : ClassTable where
  classes :=
    [{ name := objectClass
       methods := [{ name := "<init>", signature := "()V" },
         ⟨"toString", "()Ljava/lang/String;", false, .builtin .toString⟩] },
      platformClass "java.lang.Class"
        [⟨"getName", "()Ljava/lang/String;", false, .builtin .getName⟩],
      platformClass "java.lang.String",
      platformClass "java.lang.Number"]
    ++ Primitive.all.map wrapperClass
    ++ [platformClass "java.lang.ClassLoader"
          [⟨"loadClass", "(Ljava/lang/String;)Ljava/lang/Class;", false, .builtin .loadClass⟩],
        platformClass "java.lang.ThreadGroup",
        platformClass arrayClass,
        platformClass throwableClass
          [{ name := "<init>", signature := "()V" },
            { name := "<init>", signature := "(Ljava/lang/String;)V" },
            ⟨"getMessage", "()Ljava/lang/String;", false, .builtin .getMessage⟩]]
    ++ (platformExceptions.map fun entry =>
          platformClass s!"java.lang.{entry.1}" [] s!"java.lang.{entry.2}")
    ++ [platformInterface "java.lang.Runnable" "run" "()V",
        platformInterface "java.util.function.Supplier" "get" "()Ljava/lang/Object;",
        platformInterface "java.util.function.Function" "apply"
          "(Ljava/lang/Object;)Ljava/lang/Object;",
        platformClass proxyClass,
        platformClass forwarderClass
          [{ name := "<init>", signature := "(Ljava/lang/String;)V" },
            ⟨"registerNative", "(Ljava/lang/String;JI)V", false, .builtin .registerNative⟩,
            ⟨"createProxy", "()Ljava/lang/Object;", false, .builtin .createProxy⟩],
        platformClass hookClass [⟨"register", "()V", true, .staticBuiltin .registerHook⟩]]

/-- The classes of a machine with the given declarations. -/
def ClassTable.withDeclarations (declared : List Class) : ClassTable :=
  (declared.foldl declare platform).complete

end JavaInterop.Simulation
