import JavaInterop.Interface.Primitive

/-!
# Method signatures

A signature lists the types of the parameters between parentheses and then the type of the result.
A type is a letter for a primitive kind or for nothing, a class name between `L` and a semicolon,
or an array of some type.
-/

namespace JavaInterop.Simulation

/-- What a signature says about a parameter or a result. -/
inductive JavaType where
  | scalar (kind : Primitive)
  | reference
  | void
deriving DecidableEq

/-- The first type of a signature and what follows it. -/
def JavaType.take : List Char → Option (JavaType × List Char)
  | [] => none
  | 'V' :: rest => some (void, rest)
  | 'L' :: rest => some (reference, (rest.dropWhile (· ≠ ';')).drop 1)
  | '[' :: rest => (take rest).map fun element => (reference, element.2)
  | letter :: rest => (Primitive.ofDescriptor? letter).map fun kind => (scalar kind, rest)

/-- The types up to the closing parenthesis, at most `count` of them, and what follows it. -/
def JavaType.takeParameters : (count : Nat) → List Char → List JavaType × List Char
  | 0, rest => ([], rest)
  | _ + 1, [] => ([], [])
  | _ + 1, ')' :: rest => ([], rest)
  | count + 1, text =>
    match take text with
    | some (first, rest) =>
      let (others, rest) := takeParameters count rest
      (first :: others, rest)
    | none => ([], [])

/-- A signature taken apart. -/
structure Signature where
  parameters : List JavaType
  result : JavaType
deriving DecidableEq

/-- Takes a signature apart; what cannot be read counts as returning an object. -/
def Signature.read (text : String) : Signature :=
  let characters := text.toList
  let (parameters, rest) := JavaType.takeParameters (characters.length + 1) (characters.drop 1)
  ⟨parameters, ((JavaType.take rest).map Prod.fst).getD .reference⟩

end JavaInterop.Simulation
