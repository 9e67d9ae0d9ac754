import JavaInterop.Exception.Error

/-!
# Reported data

What a script reports: structured data in which numbers of up to 32 bits are numbers, and larger
ones are texts. Scalars are tagged with their kind, floating-point numbers are given by their bits,
and an error is a record of its kind, its message and whatever else it has to say.
-/

namespace JavaInterop

namespace Script

/-- A piece of reported data. -/
inductive Datum where
  | null
  | flag (value : Bool)
  | number (value : Int)
  | text (content : String)
  | list (items : List Datum)
  | record (fields : List (String × Datum))

namespace Datum

/-- A text that may be absent. -/
def textOrNull : Option String → Datum
  | some content => text content
  | none => null

/-- A scalar, tagged with its kind. -/
def ofScalar (scalar : Scalar) : Datum :=
  let content := match scalar with
    | .boolean value => flag value
    | .byte value => number value.toInt
    | .char value => number value.toNat
    | .short value => number value.toInt
    | .int value => number value.toInt
    | .long _ | .float _ | .double _ => text scalar.shown
  record [(scalar.kind.name, content)]

/-- A local reference that is in use or null, by its label. -/
def ofLocal : Option Handle → Datum
  | some handle => text s!"L{handle.number}"
  | none => text "null"

/-- A number given in decimal. -/
def decimal (value : Int) : Datum := text (toString value)

end Datum

end Script

namespace Error

/-- The name of the kind of an error. -/
def kindName : Error → String
  | vmShutdown => "VmShutdown"
  | vmRunning => "VmRunning"
  | vmCreation _ => "VmCreation"
  | vmDestroy _ => "VmDestroy"
  | attachFailed _ => "AttachFailed"
  | localReferencesExhausted => "LocalRefExhausted"
  | globalReferencesExhausted => "GlobalRefExhausted"
  | callFailed _ => "JniCall"
  | javaException _ => "JavaException"
  | unlinkedException _ => "UnlinkedException"
  | bridge _ => "Bridge"
  | nullPointer _ => "NullPtr"
  | invalidOption .. => "InvalidOption"
  | zeroInText _ => "NulInString"
  | libraryNotFound => "NotFound"
  | libraryNotLoaded => "LoadError"

end Error

namespace Script

/-- What is known of a caught exception; the label is that of its global reference. -/
def thrownFields (label : String) (thrown : Thrown) : List (String × Datum) :=
  [("class", .text thrown.className), ("matched", .text thrown.matchedClass.internalName),
    ("text", .textOrNull thrown.message), ("throwable", .text label)]

/-- What only errors of some kind have. -/
def errorDetails (label : Option Handle → String) : Error → List (String × Datum)
  | .vmCreation status | .vmDestroy status | .attachFailed status | .callFailed status =>
    [("code", .number status.code.toInt)]
  | .javaException thrown => thrownFields (label thrown.proxy.reference.raw) thrown
  | .unlinkedException className => [("class", .text className)]
  | .invalidOption option reason => [("option", .text option), ("reason", .text reason)]
  | .zeroInText position => [("position", .number position)]
  | _ => []

/-- An error as a record. Of a library that is missing or unusable only the kind is reported. -/
def errorFields (label : Option Handle → String) (error : Error) : List (String × Datum) :=
  let kind := ("error", Datum.text error.kindName)
  match error with
  | .libraryNotFound | .libraryNotLoaded => [kind]
  | _ => kind :: ("message", .text error.message) :: ("java", .flag error.isJavaException) ::
      errorDetails label error

end Script

end JavaInterop
