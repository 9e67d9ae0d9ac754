import JavaInterop.Exception.Registry

/-!
# Resolving a class to a factory

The classes of a thrown object are named one by one, the most specific first, and the first of them
that has a factory decides. The walk never asks for a factory of the root class, since that would
match everything, and it gives up after `maxAncestors` names, since a longer chain must be a cycle.

The names come from any source with a state of its own, so one definition serves a walk over given
names and a walk over the classes of a running machine.
-/

namespace JavaInterop

/-- The outcome of a walk. In both cases the runtime class of the object is reported. -/
inductive Resolution where
  | matched (factory : Factory) (className : String)
  | unmatched (className : String)
deriving DecidableEq

namespace Resolution

/-- The outcome in diagnostic output. -/
def quoted : Resolution → String
  | matched factory className =>
    Text.quotedRecord "Matched" [("factory", Text.quoted factory.descriptor.internalName),
      ("class_name", Text.quoted className)]
  | unmatched className => Text.quotedRecord "Unmatched" [("class_name", Text.quoted className)]

/-- The class of the factory that was found, and the runtime class. -/
def matchedName? : Resolution → Option String
  | matched factory _ => some factory.name
  | unmatched _ => none

/-- The runtime class of the object. -/
def className : Resolution → String
  | matched _ className => className
  | unmatched className => className

end Resolution

/-- The class that every class descends from. -/
def rootClass : String := "java.lang.Object"

/-- How many names a walk looks at before it takes the chain for a cycle. -/
def maxAncestors : Nat := 4096

/-- The walk gave up. -/
def Error.endlessAncestry (className : String) : Error :=
  .bridge <| s!"catch_and_throw: Gave up walking the ancestors of {className} " ++
    s!"after {maxAncestors} classes"

section

variable {m : Type → Type} [Monad m] {σ : Type}

/-- A source of names: each request gives the next name, nothing after the last, or an error. -/
abbrev Ancestry (m : Type → Type) (σ : Type) := ExceptT Error (StateT σ m) (Option String)

/-- Looks at `name`, with `remaining` more names to look at before giving up. -/
def walk (registry : Registry) (next : Ancestry m σ) (className : String) :
    (remaining : Nat) → (name : String) → ExceptT Error (StateT σ m) Resolution
  | remaining, name =>
    if name = rootClass then pure (.unmatched className)
    else match registry.lookup name with
      | some factory => pure (.matched factory className)
      | none =>
        match remaining with
        | 0 => throw (.endlessAncestry className)
        | remaining + 1 => do
          match ← next with
          | some name => walk registry next className remaining name
          | none => pure (.unmatched className)

/-- Finds the factory of the most specific class that has one. -/
def resolve (registry : Registry) (next : Ancestry m σ) :
    ExceptT Error (StateT σ m) Resolution := do
  match ← next with
  | some className => walk registry next className (maxAncestors - 1) className
  | none => throw (.bridge "catch_and_throw: The exception has no class")

end

end JavaInterop
