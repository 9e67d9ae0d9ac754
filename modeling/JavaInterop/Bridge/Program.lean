import JavaInterop.Bridge.State
import JavaInterop.Interface.Call

/-!
# Programs of the bridge

An operation of the bridge is a program: a tree whose steps are a call into a virtual machine, a
look at or a change of the bridge's state, a question for the running thread, or a message. What a
machine answers is left open, so one program can be run against any machine, and a statement about
all machines is a statement about all branches of the tree. While a call is running native code may
be entered again, so nothing read before a call need still hold after it.
-/

namespace JavaInterop

/-- A message of the bridge. -/
inductive Notice where
  | warning (text : String)
  | failure (text : String)
deriving DecidableEq

/-- A program that ends with an `α`. -/
inductive Program [Host] (α : Type) : Type where
  | done (result : α)
  | call (request : Call) (next : request.Reply → Program α)
  | read (next : Bridge → Program α)
  | write (bridge : Bridge) (next : Program α)
  | thread (next : NativeThread → Program α)
  | notify (notice : Notice) (next : Program α)
  | remark (note : Host.Note) (next : Program α)

namespace Program

variable [Host] {α β γ : Type}

/-- Runs one program after another. -/
def bind (program : Program α) (next : α → Program β) : Program β :=
  match program with
  | done result => next result
  | call request rest => call request fun reply => (rest reply).bind next
  | read rest => read fun bridge => (rest bridge).bind next
  | write bridge rest => write bridge (rest.bind next)
  | thread rest => thread fun running => (rest running).bind next
  | notify notice rest => notify notice (rest.bind next)
  | remark note rest => remark note (rest.bind next)

theorem bind_done (program : Program α) : program.bind done = program := by
  induction program with
  | done => rfl
  | write _ _ ih => simp [bind, ih]
  | notify _ _ ih => simp [bind, ih]
  | remark _ _ ih => simp [bind, ih]
  | _ => simp_all [bind]

theorem bind_assoc (program : Program α) (first : α → Program β)
    (second : β → Program γ) :
    (program.bind first).bind second = program.bind fun result => (first result).bind second := by
  induction program with
  | done => rfl
  | write _ _ ih => simp [bind, ih]
  | notify _ _ ih => simp [bind, ih]
  | remark _ _ ih => simp [bind, ih]
  | _ => simp_all [bind]

instance : Monad Program where
  pure := done
  bind := bind

theorem pure_eq_done (result : α) : (pure result : Program α) = done result := rfl

theorem bind_eq_bind (program : Program α) (next : α → Program β) :
    program >>= next = program.bind next := rfl

instance : LawfulMonad Program :=
  LawfulMonad.mk' Program bind_done (fun _ _ => rfl) bind_assoc

/-- Makes a call and gives its answer. -/
def perform (request : Call) : Program request.Reply := call request done

/-- The state of the bridge. -/
def state : Program (Bridge) := read done

/-- Something read off the state of the bridge. -/
def look (view : Bridge → α) : Program α := read fun bridge => done (view bridge)

/-- Changes the state of the bridge. -/
def update (change : Bridge → Bridge) : Program Unit :=
  read fun bridge => write (change bridge) (done ())

/-- The running thread. -/
def current : Program NativeThread := thread done

/-- Logs a surprise that the bridge recovers from. -/
def warn (text : String) : Program Unit := notify (.warning text) (done ())

/-- Logs a failure that nobody else is told of. -/
def complain (text : String) : Program Unit := notify (.failure text) (done ())

/-- Leaves a remark. -/
def note (content : Host.Note) : Program Unit := remark content (done ())

/-- A generation that no registration had before. -/
def freshGeneration : Program Nat :=
  read fun bridge =>
    write { bridge with nextGeneration := bridge.nextGeneration + 1 } (done bridge.nextGeneration)

end Program

namespace LifecycleId

variable [Host]

/-- The registration of a lifecycle. -/
def registration? (id : LifecycleId) : Program (Option Registration) :=
  Program.look fun bridge => (bridge.lifecycle id).registration

/-- The registration of a lifecycle, if it is still the one of the given generation. -/
def registered? (id : LifecycleId) (generation : Nat) : Program (Option Registration) :=
  Program.look fun bridge => bridge.registered? id generation

end LifecycleId

/-- A program that may fail. -/
abbrev Fallible [Host] := ExceptT Error Program

namespace Fallible

variable [Host] {α : Type}

/-- Fails at once. -/
def fail (error : Error) : Fallible α := throw error

/-- Runs a program and, whether it succeeded or not, another one after it: what a value does that is
released at the end of its scope. -/
def thenAlways (body : Fallible α) (release : Program Unit) : Fallible α :=
  ExceptT.mk do
    let result ← body.run
    release
    pure result

/-- Handles a failure, which ends in another failure. -/
def mapFailure (body : Fallible α) (change : Error → Program Error) : Fallible α :=
  ExceptT.mk do
    match ← body.run with
    | .ok result => pure (.ok result)
    | .error error => .error <$> change error

/-- A failure of the interface becomes an error. -/
def ofStatus (result : Except Status α) (error : Status → Error) : Fallible α :=
  match result with
  | .ok value => pure value
  | .error status => throw (error status)

/-- Something that must not be null. -/
def nonNull (reference : Option α) (place : String) : Fallible α :=
  match reference with
  | some present => pure present
  | none => throw (.nullPointer place)

/-- Text that must not contain a zero character. -/
def ended (text : String) : Fallible Text.CString :=
  match Text.CString.ofText text with
  | .ok bytes => pure bytes
  | .error position => throw (.zeroInText position)

end Fallible

end JavaInterop
