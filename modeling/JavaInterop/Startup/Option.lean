import JavaInterop.Text.Blank
import JavaInterop.Exception.Error

/-!
# Startup options

The options that a machine is started with, in the order in which they are given. Each is written as
one option string; a hook also carries the function that the machine is to call.
-/

namespace JavaInterop.Startup

/-- A system property `-Dname=value`. -/
structure SystemProperty where
  name : String
  value : String
deriving DecidableEq

/-- The well-known system properties: the short name each goes by and its key. -/
def SystemProperty.wellKnown : List (String × String) :=
  [("java_version", "java.version"), ("java_vendor", "java.vendor"),
    ("java_vendor_url", "java.vendor.url"), ("java_home", "java.home"),
    ("vm_specification_version", "java.vm.specification.version"),
    ("vm_specification_vendor", "java.vm.specification.vendor"),
    ("vm_specification_name", "java.vm.specification.name"), ("vm_version", "java.vm.version"),
    ("vm_vendor", "java.vm.vendor"), ("vm_name", "java.vm.name"),
    ("specification_version", "java.specification.version"),
    ("specification_vendor", "java.specification.vendor"),
    ("specification_name", "java.specification.name"), ("class_version", "java.class.version"),
    ("class_path", "java.class.path"), ("library_path", "java.library.path"),
    ("tmp_dir", "java.io.tmpdir"), ("compiler", "java.compiler"), ("ext_dirs", "java.ext.dirs"),
    ("os_name", "os.name"), ("os_arch", "os.arch"), ("os_version", "os.version"),
    ("file_separator", "file.separator"), ("path_separator", "path.separator"),
    ("line_separator", "line.separator"), ("user_name", "user.name"), ("user_home", "user.home"),
    ("user_dir", "user.dir")]

/-- The well-known property of the given short name. -/
def SystemProperty.preset? (shortName value : String) : Option SystemProperty :=
  (wellKnown.lookup shortName).map fun key => ⟨key, value⟩

/-- What the machine reports on verbosely. -/
inductive Verbose where
  | gc
  | jni
  | classes
deriving DecidableEq

/-- The word that an option string has for it. -/
def Verbose.word : Verbose → String
  | gc => "gc"
  | jni => "jni"
  | classes => "class"

/-- An agent to load at start, with options of its own. -/
structure Agent where
  path : String
  options : Option String
deriving DecidableEq

/-- An agent with an options text, which is trimmed and left out if nothing remains. -/
def Agent.withOptions (path options : String) : Agent :=
  let trimmed := Text.trim options
  ⟨path, if trimmed.isEmpty then none else some trimmed⟩

/-- Something that the machine leaves to a function of the native program. -/
inductive Hook where
  | vfprintf (function : NativeFunction)
  | exit (function : NativeFunction)
  | abort (function : NativeFunction)
deriving DecidableEq

/-- The option string of a hook. -/
def Hook.name : Hook → String
  | vfprintf _ => "vfprintf"
  | exit _ => "exit"
  | abort _ => "abort"

/-- The function that a hook names. -/
def Hook.function : Hook → NativeFunction
  | vfprintf function | exit function | abort function => function

/-- One startup option. -/
inductive VmOption where
  | property (property : SystemProperty)
  | verbose (verbose : Verbose)
  | agent (agent : Agent)
  | custom (text : String)
  | hook (hook : Hook)
deriving DecidableEq

namespace VmOption

/-- A custom option is passed on verbatim. It has to begin with one of the two marks that a machine
keeps for options of its own. -/
def ofCustom (text : String) : Except Error VmOption :=
  match text.toList with
  | '-' :: 'X' :: _ | '_' :: _ => .ok (custom text)
  | _ => .error (.invalidOption text "custom options must begin with `-X` or `_`")

/-- The option string that the machine gets. -/
def text : VmOption → String
  | property ⟨name, value⟩ => s!"-D{name}={value}"
  | verbose category => s!"-verbose:{category.word}"
  | agent ⟨path, some options⟩ => s!"-javaagent:{path}={options}"
  | agent ⟨path, none⟩ => s!"-javaagent:{path}"
  | custom content => content
  | hook target => target.name

/-- The function handed over with the option string; only hooks have one. -/
def extra : VmOption → Option NativeFunction
  | hook target => some target.function
  | _ => none

end VmOption

/-- A list of options. A machine ignores what it does not recognise unless the list is strict. -/
structure OptionList where
  options : List VmOption := []
  strict : Bool := false
deriving DecidableEq

namespace OptionList

/-- Adds an option at the end. -/
def push (list : OptionList) (option : VmOption) : OptionList :=
  { list with options := list.options ++ [option] }

/-- Adds a custom option at the end, if it is one. -/
def custom (list : OptionList) (text : String) : Except Error OptionList :=
  (VmOption.ofCustom text).map list.push

/-- The options in order, not strict. -/
def ofList (options : List VmOption) : OptionList := ⟨options, false⟩

end OptionList

end JavaInterop.Startup
