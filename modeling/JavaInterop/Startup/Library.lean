import JavaInterop.Bridge.Program

/-!
# Libraries of a virtual machine

A machine is created through a library that has two entry points, one to create a machine and one to
list the machines of the process. A library without both of them cannot be used.
-/

namespace JavaInterop.Startup

/-- The file name that the library of a machine has. -/
def libraryName : String := "libjvm.so"

/-- What a file holds that is to be loaded as a library. -/
structure Library where
  canCreate : Bool
  canList : Bool
deriving DecidableEq

/-- Loads the library at a place, if there is one. -/
def Library.load (place : Option Library) : Except Error Unit :=
  match place with
  | some library =>
    if library.canCreate && library.canList then .ok () else .error .libraryNotLoaded
  | none => .error .libraryNotLoaded

/-- Loads the library of an installation. Where the installation has none and the search path
neither, there is nothing to be found. -/
def Library.loadInstalled (place : Option Library) : Except Error Unit :=
  match place with
  | some library => load (some library)
  | none => .error .libraryNotFound

/-- The machines that run in the process. -/
def listMachines [Host] : Fallible (List VmId) := do
  let (count, _) ← Fallible.ofStatus (← Program.perform (.list none)) .callFailed
  let (total, pointers) ← Fallible.ofStatus (← Program.perform (.list (some count))) .callFailed
  let room := (pointers ++ List.replicate (count - pointers.length) none).take count
  (room.take total).mapM fun pointer => Fallible.nonNull pointer "JavaVM::from_raw ptr"

end JavaInterop.Startup
