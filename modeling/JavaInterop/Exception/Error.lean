import JavaInterop.Bridge.Reference
import JavaInterop.Class.Descriptor
import JavaInterop.Interface.Status

/-!
# Errors

The ways in which an operation of the bridge fails. A Java exception that was matched to a proxy
type owns a global reference to the thrown object, so whoever drops such an error has to release
it.
-/

namespace JavaInterop

/-- A Java object held through the proxy type that stands for its class. -/
structure Proxy where
  type : ProxyType
  reference : GlobalReference
deriving DecidableEq

/-- A caught Java exception: the class and the message that the thrown object had, and the object in
the proxy of the most specific class that was enlisted. -/
structure Thrown where
  className : String
  message : Option String
  proxy : Proxy
deriving DecidableEq

namespace Thrown

/-- The class that the exception was matched with. -/
def matchedClass (thrown : Thrown) : ClassDescriptor := thrown.proxy.type.descriptor

/-- The class name, followed by the message if there is one. -/
def text (thrown : Thrown) : String :=
  match thrown.message with
  | some message => s!"{thrown.className}: {message}"
  | none => thrown.className

/-- The exception in diagnostic output. -/
def quoted (thrown : Thrown) : String :=
  Text.quotedRecord "JavaException" [("class_name", Text.quoted thrown.className),
    ("message", Text.quotedOption thrown.message),
    ("matched_class", Text.quoted thrown.matchedClass.internalName)]

end Thrown

/-- Why an operation failed. -/
inductive Error where
  | vmShutdown
  | vmRunning
  | vmCreation (status : Status)
  | vmDestroy (status : Status)
  | attachFailed (status : Status)
  | localReferencesExhausted
  | globalReferencesExhausted
  | callFailed (status : Status)
  | javaException (thrown : Thrown)
  | unlinkedException (className : String)
  | bridge (text : String)
  | nullPointer (place : String)
  | invalidOption (option : String) (reason : String)
  | zeroInText (position : Nat)
  | libraryNotFound
  | libraryNotLoaded
deriving DecidableEq

namespace Error

/-- What went wrong, for people. The two failures to get hold of a library speak of file paths,
which are not part of the model. -/
def message : Error → String
  | vmShutdown => "The virtual machine is shut down"
  | vmRunning => "The virtual machine is already running"
  | vmCreation status => s!"Unable to create the virtual machine. The error was {status.message}"
  | vmDestroy status => s!"Unable to destroy the virtual machine. The error was {status.message}"
  | attachFailed status =>
    s!"Unable to attach the current thread. The specific JNI error code is {status.message}"
  | localReferencesExhausted =>
    "Unable to create a new local reference. It is likely that you have exceeded the maximum " ++
      "local reference count. You can increase the maximum by calling EnsureLocalCapacity()"
  | globalReferencesExhausted =>
    "Unable to create a new global reference. It is likely that you have exceeded the max " ++
      "heap size of your virtual machine"
  | callFailed _ => "JNI call failed"
  | javaException thrown => thrown.text
  | unlinkedException className =>
    "Can't find any linked-in parent exception for `" ++ className ++ "`"
  | bridge text => text
  | nullPointer place => s!"null pointer in {place}"
  | invalidOption option reason => "Invalid VM option `" ++ option ++ "`: " ++ reason
  | zeroInText _ => "Interior NUL in string passed to the VM"
  | libraryNotFound =>
    "Couldn't automatically discover the Java VM's location (try setting JAVA_HOME)"
  | libraryNotLoaded => "Couldn't load the Java VM shared library"

/-- What the error in turn was caused by, if it says so. -/
def cause : Error → Option String
  | callFailed status => some status.message
  | zeroInText position => some s!"nul byte found in provided data at position: {position}"
  | _ => none

/-- Whether the error stands for a Java exception, matched to a proxy type or not. -/
def isJavaException : Error → Bool
  | javaException _ | unlinkedException _ => true
  | _ => false

/-- The global reference that an error owns. -/
def owned? : Error → Option GlobalReference
  | javaException thrown => some thrown.proxy.reference
  | _ => none

/-- The error of a failed step, with the error that made it fail as its cause. -/
def causedBy (text : String) (reason : Error) : Error :=
  bridge (text ++ "\ncaused by:\n" ++ reason.message)

end Error

end JavaInterop
