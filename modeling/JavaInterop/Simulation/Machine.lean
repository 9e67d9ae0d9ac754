import JavaInterop.Interface.Handle
import JavaInterop.Interface.Status
import JavaInterop.Simulation.Class
import JavaInterop.Store
import JavaInterop.Text.ModifiedUtf8

/-!
# A simulated machine

A small virtual machine that carries out the functions of the native interface: it has classes,
objects and references to them, keeps track of attached threads and of the exception pending on
each, and can be told to let a function fail. It is enough of a machine to run the bridge against.

References are numbered in one sequence, whether local or global. Deleting one only marks it, and a
deleted reference, or one of another machine, stands for no object.
-/

namespace JavaInterop.Simulation

/-- What an object holds. Objects are known by their place in the heap. -/
inductive Payload where
  | plain
  | text (content : Text.Bytes)
  | classObject (name : String)
  | throwable (message : Option Text.Bytes)
  | array (elements : List (Option Nat))
  | wrapper (scalar : Scalar)
  /-- Forwards calls: the interface, and for each method a table and an index. -/
  | forwarder (interface : String) (targets : List (Text.Bytes × Int64 × Int32))
  /-- Implements an interface by its forwarder. -/
  | proxy (forwarder : Nat) (number : Nat)

/-- An object of the heap. -/
structure Object where
  className : String
  payload : Payload

/-- A reference that was handed out. -/
structure Reference where
  object : Nat
  isGlobal : Bool
  deleted : Bool := false

/-- An order to let a function fail: after some calls, so many times, or for ever if `times` is
negative, with the given status and perhaps an exception. -/
structure Fault where
  function : String
  skip : Nat := 0
  times : Int := 1
  status : Int32 := -1
  throws : Option (String × Option String) := none

/-- The state of a machine. -/
structure Machine where
  id : VmId
  version : Int32
  classes : ClassTable
  objects : Array Object := #[]
  /-- The class objects made so far, by the names of their classes. -/
  classObjects : Store String Nat := { }
  references : Array Reference := #[]
  methods : Array Method := #[]
  /-- How many environments were handed out. -/
  environments : Nat := 0
  /-- The environment of each attached thread. -/
  attached : Store Nat Nat := { }
  /-- The exception pending on each thread. -/
  pending : Store Nat Nat := { }
  faults : List Fault := []
  /-- String buffers that were handed out and not released. -/
  buffers : Int := 0
  /-- The native functions bound to methods, by class, method name and signature; the last one bound
  comes first. -/
  natives : List ((String × Text.Bytes × Text.Bytes) × NativeFunction) := []
  hasHook : Bool := false
  proxies : Nat := 0
  /-- What was reported and not collected yet, the newest line first. -/
  lines : List String := []

/-- A step of a machine. -/
abbrev Step := StateM Machine

/-- The text of a string in the encoding of the machine. -/
def encoded (text : String) : Text.Bytes := (Text.ModifiedUtf8.encode text).bytes

namespace Machine

/-! ## References -/

/-- The entry of a reference that this machine handed out. -/
def reference? (machine : Machine) (handle : Handle) : Option Reference :=
  if handle.vm = machine.id ∧ handle.number ≠ 0 then machine.references[handle.number - 1]?
  else none

/-- The object that a reference stands for. -/
def object? (machine : Machine) (handle : Handle) : Option Nat :=
  (machine.reference? handle).bind fun reference =>
    if reference.deleted then none else some reference.object

/-- How a reference is shown. -/
def label (machine : Machine) : Option Handle → String
  | none => "null"
  | some handle =>
    match machine.reference? handle with
    | none => "?"
    | some reference =>
      let mark := if reference.deleted then "!" else ""
      let letter := if reference.isGlobal then "G" else "L"
      s!"{mark}{letter}{handle.number}"

/-- How many references of one sort are in use. -/
def countLive (machine : Machine) (isGlobal : Bool) : Nat :=
  machine.references.foldl
    (fun count reference =>
      if reference.isGlobal == isGlobal && !reference.deleted then count + 1 else count) 0

/-- What an object of the heap is. -/
def get (machine : Machine) (object : Nat) : Object :=
  machine.objects.getD object ⟨objectClass, .plain⟩

/-- The class that a reference to a class object stands for. -/
def classOf? (machine : Machine) (handle : Handle) : Option String := do
  let object ← machine.object? handle
  match (machine.get object).payload with
  | .classObject name => some name
  | _ => none

/-- The bytes of a string. -/
def textOf? (machine : Machine) (object : Nat) : Option Text.Bytes :=
  match (machine.get object).payload with
  | .text content => some content
  | _ => none

/-- The class of the exception that is pending on a thread. -/
def pendingClass? (machine : Machine) (thread : Nat) : Option String :=
  (machine.pending.find? thread).map fun object => (machine.get object).className

/-- The native function that is bound to a method. -/
def native? (machine : Machine) (className name signature : String) : Option NativeFunction :=
  machine.natives.lookup (className, Text.utf8 name, Text.utf8 signature)

/-- The native function that proxies forward calls to, if it is bound. -/
def forwarding? (machine : Machine) : Option NativeFunction :=
  machine.native? forwarderClass "invokeNative" forwardSignature

/-- What `toString` of an object says. Names of classes are in plain UTF-8. -/
def describe (machine : Machine) (object : Nat) : Text.Bytes :=
  let ⟨className, payload⟩ := machine.get object
  match payload with
  | .text content => content
  | .classObject name =>
    let isInterface := ((machine.classes.find? name).map Class.isInterface).getD false
    let word := if isInterface then "interface" else "class"
    Text.utf8 s!"{word} {name}"
  | .throwable none => Text.utf8 className
  | .throwable (some message) => Text.utf8 s!"{className}: " ++ message
  | .wrapper (.char unit) => Text.utf8 s!"char {unit.toNat}"
  | .wrapper scalar => Text.utf8 scalar.shown
  | _ => Text.utf8 s!"{className}@obj"

end Machine

namespace Step

/-- Reports something on a line. -/
def report (line : String) : Step Unit :=
  modify fun machine => { machine with lines := line :: machine.lines }

/-! ## Making objects -/

/-- Puts an object into the heap. -/
def allocate (object : Object) : Step Nat :=
  modifyGet fun machine =>
    let place := machine.objects.size
    (place, { machine with objects := machine.objects.push object })

/-- Hands out a new reference. -/
def refer (object : Nat) (isGlobal : Bool := false) : Step Handle :=
  modifyGet fun machine =>
    let handle : Handle := ⟨machine.id, machine.references.size + 1⟩
    (handle, { machine with references := machine.references.push { object, isGlobal } })

/-- A new local reference to an object that may be absent. -/
def referTo? : Option Nat → Step (Option Handle)
  | some object => some <$> refer object
  | none => return none

/-- Marks a reference as deleted. -/
def delete (handle : Handle) : Step Unit :=
  modify fun machine =>
    if handle.vm = machine.id ∧ handle.number ≠ 0 then
      { machine with
        references := machine.references.modify (handle.number - 1) ({ · with deleted := true }) }
    else machine

/-- The class object of a class. -/
def classObjectOf (name : String) : Step Nat := do
  match (← get).classObjects.find? name with
  | some object => return object
  | none =>
    let object ← allocate ⟨"java.lang.Class", .classObject name⟩
    modify fun machine =>
      { machine with classObjects := machine.classObjects.insert name object }
    return object

/-- The name itself if there is such a class, and the class of all objects otherwise. -/
def knownClass (name : String) : Step String := do
  return if ((← get).classes.find? name).isSome then name else objectClass

/-- A new instance of a class, to which nothing is done. -/
def instantiate (className : String) : Step Nat := do
  allocate ⟨← knownClass className, .plain⟩

/-- A new exception. -/
def newException (className : String) (message : Option Text.Bytes) : Step Nat := do
  allocate ⟨← knownClass className, .throwable message⟩

/-- The box of a scalar. -/
def box (scalar : Scalar) : Step Nat := allocate ⟨scalar.kind.wrapperDotted, .wrapper scalar⟩

/-- A new string. -/
def newText (content : Text.Bytes) : Step Nat := allocate ⟨"java.lang.String", .text content⟩

/-- A new array of objects. -/
def newArray (elements : List (Option Nat)) : Step Nat := allocate ⟨arrayClass, .array elements⟩

mutual

/-- Makes the object that is asked for. -/
def make : ObjectSpec → Step (Option Nat)
  | .null => return none
  | .text content => some <$> newText (encoded content)
  | .bytes content => some <$> newText content
  | .new className => some <$> instantiate className
  | .classObject className => do return some (← classObjectOf (← knownClass className))
  | .exception className message => some <$> newException className (message.map encoded)
  | .array elements => do return some (← newArray (← makeAll elements))
  | .box scalar => some <$> box scalar

/-- Makes the objects that are asked for, in order. -/
def makeAll : List ObjectSpec → Step (List (Option Nat))
  | [] => return []
  | spec :: rest => do return (← make spec) :: (← makeAll rest)

end

/-! ## Exceptions -/

/-- Makes an exception pending on a thread. -/
def setPending (thread exception : Nat) : Step Unit :=
  modify fun machine => { machine with pending := machine.pending.insert thread exception }

/-- Takes the exception that is pending on a thread. -/
def takePending (thread : Nat) : Step (Option Nat) := do
  let machine ← get
  set { machine with pending := machine.pending.erase thread }
  return machine.pending.find? thread

/-- Raises a new exception on a thread. -/
def raise (thread : Nat) (className : String) (message : Option Text.Bytes) : Step Unit := do
  setPending thread (← newException className message)

/-- The fault that applies to a call of a function, which is counted. The first one with times left
decides. -/
def fault? (function : String) : Step (Option Fault) := do
  let rec go : List Fault → Option Fault × List Fault
    | [] => (none, [])
    | fault :: rest =>
      if fault.function == function && fault.times != 0 then
        if 0 < fault.skip then (none, { fault with skip := fault.skip - 1 } :: rest)
        else
          let times := if 0 < fault.times then fault.times - 1 else fault.times
          (some fault, { fault with times } :: rest)
      else
        let (found, rest) := go rest
        (found, fault :: rest)
  let machine ← get
  let (found, faults) := go machine.faults
  set { machine with faults }
  return found

end Step

end JavaInterop.Simulation
