import JavaInterop.Interface.Call
import JavaInterop.Proofs.Program.Run

/-!
# Pending exceptions

What the native interface says about the exception that may be pending on a thread.  A function may
raise one, and if it is to look something up it answers with null then; the functions that look at
an exception or forget it say what is there; and while one is pending only a few functions may be
called at all.

Which functions may raise is a parameter, because the specification lists exceptions for some of
them only.  Everything else is left open: a function may fail without raising, and one that raises
need not do so for a reason.
-/

namespace JavaInterop

namespace EnvFunction

/-- The functions that may be called while an exception is pending. -/
def isSafeWhilePending : EnvFunction → Bool
  | exceptionOccurred | exceptionDescribe | exceptionClear | exceptionCheck
  | deleteLocalRef _ | deleteGlobalRef _ | releaseStringChars _ => true
  | _ => false

/-- The answer that goes with an exception.  Functions that look something up or read a string, or
make a reference to what is there, report a failure by the null reference.  Of the others the answer
does not count once an exception is pending. -/
def Fails : (function : EnvFunction) → function.Reply → Prop
  | findClass _, reply | getSuperclass _, reply | newLocalRef _, reply | newGlobalRef _, reply
  | getObjectClass _, reply => reply = none
  | getMethodId .., reply => reply = none
  | getStringChars _, reply => reply = none
  | _, _ => True

end EnvFunction

/-- The calls that may be made while an exception is pending. -/
def Call.isSafeWhilePending : Call → Bool
  | env _ function => function.isSafeWhilePending
  | _ => false

/-- What happens to the pending exception in a call, if the functions in `mayRaise` are the ones
that may raise. -/
def PendingLaw (mayRaise : EnvFunction → Bool) (before after : Bool) :
    (request : Call) → request.Reply → Prop
  | .env _ .exceptionCheck, reply => reply = before ∧ after = before
  | .env _ .exceptionOccurred, reply => reply.isSome = before ∧ after = before
  | .env _ .exceptionClear, _ => after = false
  | .env _ .exceptionDescribe, _ => after = true → before = true
  | .env _ (.deleteLocalRef _), _ | .env _ (.deleteGlobalRef _), _
  | .env _ (.releaseStringChars _), _ => after = before
  | .env _ function, reply =>
    after = true → before = true ∨ mayRaise function = true ∧ function.Fails reply
  | _, _ => after = true → before = true

namespace PendingLaw

variable {mayRaise : EnvFunction → Bool} {before after : Bool} {pointer : EnvPointer}
  {function : EnvFunction} {reply : function.Reply}

/-- An exception that was not there before the call was raised in it. -/
theorem raised (hlaw : PendingLaw mayRaise before after (.env pointer function) reply)
    (hbefore : before = false) (hafter : after = true)
    (hsafe : function.isSafeWhilePending = false) :
    mayRaise function = true ∧ function.Fails reply := by
  subst hbefore
  cases function with
  | exceptionOccurred | exceptionDescribe | exceptionClear | exceptionCheck | deleteLocalRef
  | deleteGlobalRef | releaseStringChars => cases hsafe
  | _ =>
    rcases hlaw hafter with hbefore | hraised
    · cases hbefore
    · exact hraised

/-- Without an exception before it, a call of a safe function ends without one. -/
theorem safe (hlaw : PendingLaw mayRaise before after (.env pointer function) reply)
    (hsafe : function.isSafeWhilePending = true) (hafter : after = true) : before = true := by
  cases function with
  | exceptionOccurred => exact hlaw.2 ▸ hafter
  | exceptionCheck => exact hlaw.2 ▸ hafter
  | exceptionClear =>
    rw [show after = false from hlaw] at hafter
    cases hafter
  | exceptionDescribe => exact hlaw hafter
  | deleteLocalRef | deleteGlobalRef | releaseStringChars =>
    rw [show after = before from hlaw] at hafter
    exact hafter
  | _ => cases hsafe

end PendingLaw

end JavaInterop
