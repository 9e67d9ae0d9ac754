import JavaInterop.Interface.Version
import JavaInterop.Startup.Option

/-!
# Startup arguments

The block of arguments that a machine is created with: the requested version, whether unrecognised
options are ignored, and for every option its string as ended bytes together with the function it
carries. It exists unless some option string contains a zero character.

The machine gets the block in raw form. It is told where an array begins and how many options it
has, and each of these says where its string begins; the string ends at its first zero byte. The
block owns the memory that all this lies in.
-/

namespace JavaInterop.Startup

/-- A place in memory: the region that it lies in, and how far from the beginning. -/
structure Place where
  region : Nat
  offset : Nat
deriving DecidableEq

/-- One option in raw form. -/
structure RawOption where
  text : Place
  extra : Option NativeFunction
deriving DecidableEq

/-- Memory that was allocated in one piece. -/
inductive Region where
  | characters (bytes : Text.Bytes)
  | options (options : List RawOption)
deriving DecidableEq

/-- The ended string that begins at a place, if one does. -/
def readString (memory : List Region) (place : Place) : Option Text.CString :=
  match memory[place.region]? with
  | some (.characters bytes) =>
    let rest := bytes.drop place.offset
    if 0 ∈ rest then some (.upToZero rest) else none
  | _ => none

/-- The option at a position of the array that begins at a place, if there is one. -/
def readOption (memory : List Region) (place : Place) (position : Nat) : Option RawOption :=
  match memory[place.region]? with
  | some (.options options) => options[place.offset + position]?
  | _ => none

/-- One option as the machine sees it. -/
structure Entry where
  text : Text.CString
  extra : Option NativeFunction
deriving DecidableEq

/-- The argument block of a creation call. Its fields are what the machine is given; the array
pointer is null if there are no options. -/
structure Arguments where
  rawVersion : Int32
  optionCount : Int32
  options : Option Place
  rawIgnore : UInt8
  /-- What the block owns: the strings, and the array after them. -/
  memory : List Region
deriving DecidableEq

/-- The ended option string, refused at its first zero character. -/
def VmOption.ended (option : VmOption) : Except Error Text.CString :=
  match Text.CString.ofText option.text with
  | .ok text => .ok text
  | .error position => .error (.zeroInText position)

/-- Where strings lie that are the first regions of a memory. -/
def places (strings : List Text.CString) : List Place :=
  (List.range strings.length).map fun region => ⟨region, 0⟩

/-- The array of options whose strings have been made. -/
def OptionList.array (list : OptionList) (strings : List Text.CString) : List RawOption :=
  (list.options.zip (places strings)).map fun (option, place) => ⟨place, option.extra⟩

/-- The block of options whose strings have been made. -/
def OptionList.block (list : OptionList) (version : Version) (strings : List Text.CString) :
    Arguments :=
  let options := list.array strings
  { rawVersion := version.toInt
    optionCount := .ofNat options.length
    options := if options.isEmpty then none else some ⟨strings.length, 0⟩
    rawIgnore := if list.strict then 0 else 1
    memory := strings.map (fun text => .characters (text.bytes ++ [0])) ++ [.options options] }

/-- Turns a list of options into its block; the first option that cannot be passed decides the
error. -/
def OptionList.arguments (list : OptionList) (version : Version) : Except Error Arguments := do
  let strings ← list.options.mapM VmOption.ended
  return list.block version strings

namespace Arguments

/-- The requested version. -/
def version (arguments : Arguments) : Version := .ofInt arguments.rawVersion

/-- Whether the machine is to ignore what it does not recognise. -/
def ignoreUnrecognized (arguments : Arguments) : Bool := arguments.rawIgnore == 1

/-- The option at a position, found by way of the array. -/
def entryAt? (arguments : Arguments) (position : Nat) : Option Entry := do
  let option ← readOption arguments.memory (← arguments.options) position
  let text ← readString arguments.memory option.text
  return ⟨text, option.extra⟩

/-- The options that the machine reads, as many as it is told there are. -/
def entries (arguments : Arguments) : List Entry :=
  (List.range arguments.optionCount.toInt.toNat).filterMap arguments.entryAt?

/-- The option strings that the block owns. -/
def texts (arguments : Arguments) : List Text.CString :=
  arguments.memory.filterMap fun
    | .characters bytes => some (.upToZero bytes)
    | .options _ => none

/-- What is handed over with each option of the block. -/
def extras (arguments : Arguments) : List (Option NativeFunction) :=
  arguments.memory.flatMap fun
    | .characters _ => []
    | .options options => options.map RawOption.extra

/-- The option strings of the block in printable form. -/
def strings (arguments : Arguments) : List String :=
  arguments.texts.map fun text => Text.escape text.bytes

/-- The block on one line, as the machine reads it: version, whether unrecognised options are
ignored, and the options, those with a function marked. -/
def line (arguments : Arguments) : String :=
  let options := arguments.entries.map fun entry =>
    Text.escape entry.text.bytes ++ if entry.extra.isSome then "+hook" else ""
  s!"{arguments.version.toInt.toInt},{arguments.ignoreUnrecognized}," ++
    "[" ++ String.intercalate "," options ++ "]"

end Arguments

end JavaInterop.Startup
