import JavaInterop.Class.Loader
import JavaInterop.Environment.Objects

/-!
# Looking up the class of a descriptor

The first use of a descriptor finds its class, through the thread's class loader if there is one
and by name otherwise, and keeps a global reference to it. Later uses take a new local reference to
the kept class, until the registration that it was found under has gone.
-/

namespace JavaInterop

variable [Host]

namespace ClassDescriptor

/-- Finds the class through a class loader. -/
def loadThrough (descriptor : ClassDescriptor) (env : Env) (loader : GlobalReference) :
    Fallible LocalReference := do
  let loaderClass ← env.findClass "java/lang/ClassLoader"
  loaderClass.scope do
    let signature := "(Ljava/lang/String;)Ljava/lang/Class;"
    let loadClass ← env.findMethod loaderClass.raw "loadClass" signature false
    let name ← env.newString descriptor.dottedName
    name.scope do
      match ← env.callObject loader.raw loadClass [.reference name.raw] with
      | some classObject => return classObject
      | none => throw (.bridge s!"Unable to find the class, {descriptor.internalName}")

/-- Finds the class without regard to what is kept. -/
def resolve (descriptor : ClassDescriptor) (env : Env) : Fallible LocalReference := do
  match ← currentClassLoader with
  | some loader => descriptor.loadThrough env loader
  | none => env.findClass descriptor.internalName

/-- Keeps a class under the descriptor's key and gives back the one kept before. -/
def keep (descriptor : ClassDescriptor) (reference : GlobalReference) :
    Program (Option GlobalReference) := do
  let bridge ← Program.state
  Program.update fun bridge =>
    { bridge with classes := bridge.classes.insert descriptor.key reference }
  return bridge.classes.find? descriptor.key

/-- A local reference to the class. -/
def find (descriptor : ClassDescriptor) (env : Env) : Fallible LocalReference := do
  let bridge ← Program.state
  match (bridge.classes.find? descriptor.key).filter bridge.isUsable with
  | some kept => env.newLocal kept.raw
  | none =>
    let classObject ← descriptor.resolve env
    let reference ← (env.newGlobal classObject.raw).mapFailure fun error => do
      classObject.drop
      return error
    match ← descriptor.keep reference with
    | some previous => previous.drop
    | none => pure ()
    return classObject

end ClassDescriptor

end JavaInterop
