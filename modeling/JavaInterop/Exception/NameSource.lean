import JavaInterop.Exception.Resolution

/-!
# Names from a list

A source of class names for `resolve` that needs no machine. It counts the names that it gave.
-/

namespace JavaInterop

/-- Names in order, over and over again if they repeat. A request fails once the given number of
names was taken. -/
structure NameSource where
  names : Array String
  repeats : Bool := false
  failsAt : Option Nat := none

namespace NameSource

/-- The name that comes after so many. -/
def name? (source : NameSource) (taken : Nat) : Option String :=
  source.names[if source.repeats then taken % source.names.size else taken]?

/-- The source as one that can be walked; its state is the number of names taken. -/
def ancestry (source : NameSource) : Ancestry Id Nat := ExceptT.mk fun taken =>
  if source.failsAt = some taken then (.error (.bridge s!"walk failed at {taken}"), taken)
  else match source.name? taken with
    | some name => (.ok (some name), taken + 1)
    | none => (.ok none, taken)

/-- Resolves the names against a registry; the answer includes how many were taken. -/
def resolve (source : NameSource) (registry : Registry) : Except Error Resolution × Nat :=
  (JavaInterop.resolve registry source.ancestry).run.run 0

end NameSource

end JavaInterop
