import JavaInterop.Environment.Boxing

/-!
# The arguments of a callback

Java passes the arguments of a proxied call as an array of objects, in which scalars are boxed, and
no array at all for a call without arguments.
-/

namespace JavaInterop

variable [Host]

/-- The arguments of a call and the environment to read them with. -/
structure CallArguments where
  env : Env
  array : Option Handle

namespace CallArguments

/-- How many arguments there are. -/
def size (arguments : CallArguments) : Fallible Nat := do
  if arguments.array.isNone then
    return 0
  arguments.env.arrayLength arguments.array

/-- Whether there are no arguments. -/
def isEmpty (arguments : CallArguments) : Fallible Bool := do
  return (← arguments.size) == 0

/-- The argument with the given index. -/
def get (arguments : CallArguments) (index : Nat) : Fallible (Option LocalReference) := do
  let size ← arguments.size
  if size ≤ index then
    throw <| .bridge <|
      s!"Argument {index} out of range for a call with {size} arguments"
  arguments.env.arrayElement arguments.array index

/-- The argument with the given index, taken out of its box. -/
def unbox (arguments : CallArguments) (index : Nat) (kind : Primitive) : Fallible Scalar := do
  match ← arguments.get index with
  | some object => object.scope (arguments.env.unbox object.raw kind)
  | none =>
    throw (.bridge s!"Argument {index} is null, expected a boxed {kind.name}")

/-- The argument with the given index as a string. -/
def string (arguments : CallArguments) (index : Nat) : Fallible (Option String) := do
  match ← arguments.get index with
  | some object => object.scope (some <$> arguments.env.getString object.raw)
  | none => return none

end CallArguments

end JavaInterop
