import JavaInterop.Proofs.Environment.Writes
import JavaInterop.Proofs.Lifecycle.Clerical
import JavaInterop.Proofs.Program.Mirror

/-!
# What holds after every call of a program

`Program.Ensures` speaks about whole runs.  A statement about the peak of something has to be made
after each call, even if the run is looked at no further.  `Program.Throughout` is such a judgement.
It knows the calls that were made so far, each with its answer, and whether the bridge was live
after each of them, in a sense of `live` that is left open; the code of others may end this during
any call.

The judgement follows the constructors of a program, so what it says of a run is shown by induction
on the run.
-/

namespace JavaInterop

variable [Host] {ω α β : Type}

/-- A call with its answer. -/
abbrev Talk := (request : Call) × request.Reply

/-- How far a program has come: the bridge, whether it has been live since the beginning, and what
was said. -/
structure ProgramPoint where
  bridge : Bridge
  kept : Prop
  past : List Talk

namespace Program

/-- After every call of the program a property of the calls so far holds, and another one at the
end. -/
def Throughout (live : Bridge → Prop) (good : Prop → List Talk → Prop) :
    Program α → ProgramPoint → (α → ProgramPoint → Prop) → Prop
  | .done result, now, post => post result now
  | .call request next, now, post => ∀ reply : request.Reply,
      good now.kept (now.past ++ [⟨request, reply⟩]) ∧ ∀ bridge, (next reply).Throughout live good
        ⟨bridge, now.kept ∧ live bridge, now.past ++ [⟨request, reply⟩]⟩ post
  | .read next, now, post => (next now.bridge).Throughout live good now post
  | .write bridge next, now, post => next.Throughout live good ⟨bridge, now.kept, now.past⟩ post
  | .thread next, now, post => ∀ running, (next running).Throughout live good now post
  | .notify _ next, now, post => next.Throughout live good now post
  | .remark _ next, now, post => next.Throughout live good now post

variable {live : Bridge → Prop} {good : Prop → List Talk → Prop} {now : ProgramPoint}
  {post : α → ProgramPoint → Prop}

/-- What was shown holds after each call of a run.  Whether the bridge was live counts up to the
beginning of this call. -/
theorem Run.throughout {thread : NativeThread} {program : Program α} {first last : Moment ω}
    {exchanges : List (Exchange ω)} {result : α} {kept : Prop} {past : List Talk}
    (hrun : program.Run thread first exchanges result last)
    (hprogram : program.Throughout live good ⟨first.bridge, kept, past⟩ post)
    {earlier later : List (Exchange ω)} {exchange : Exchange ω}
    (hexchanges : exchanges = earlier ++ exchange :: later) :
    good (kept ∧ ∀ before ∈ earlier, live before.after.bridge)
      (past ++ (earlier ++ [exchange]).map Exchange.talk) := by
  induction hrun generalizing kept past earlier with
  | done => simp at hexchanges
  | @call request next first last exchanges result reply after _ ih =>
    obtain ⟨hgood, hnext⟩ := hprogram reply
    cases earlier with
    | nil =>
      cases hexchanges
      simpa [Exchange.talk] using hgood
    | cons before earlier =>
      cases hexchanges
      have hrest := ih (hnext after.bridge) rfl
      simpa [and_assoc, Exchange.talk] using hrest
  | read _ ih | write _ ih | notify _ ih | remark _ ih => exact ih hprogram hexchanges
  | thread _ ih => exact ih (hprogram _) hexchanges

namespace Throughout

theorem weaken {program : Program α} {weaker : α → ProgramPoint → Prop}
    (hprogram : program.Throughout live good now post)
    (hpost : ∀ value last, post value last → weaker value last) :
    program.Throughout live good now weaker := by
  induction program generalizing now with
  | done value => exact hpost _ _ hprogram
  | call request next ih =>
    intro reply
    obtain ⟨hgood, hnext⟩ := hprogram reply
    exact ⟨hgood, fun bridge ↦ ih reply (hnext bridge)⟩
  | read next ih => exact ih _ hprogram
  | thread next ih => exact fun running ↦ ih running (hprogram running)
  | write bridge next ih | notify notice next ih | remark note next ih => exact ih hprogram

theorem bind {program : Program α} {next : α → Program β} {post : β → ProgramPoint → Prop}
    (hprogram : program.Throughout live good now fun value middle ↦
      (next value).Throughout live good middle post) :
    (program >>= next).Throughout live good now post := by
  rw [bind_eq_bind]
  induction program generalizing now with
  | done value => exact hprogram
  | call request rest ih =>
    intro reply
    obtain ⟨hgood, hrest⟩ := hprogram reply
    exact ⟨hgood, fun bridge ↦ ih reply (hrest bridge)⟩
  | read rest ih => exact ih _ hprogram
  | thread rest ih => exact fun running ↦ ih running (hprogram running)
  | write bridge rest ih | notify notice rest ih | remark note rest ih => exact ih hprogram

theorem look {lifecycle : LifecycleId} {generation : Nat}
    {post : Option Registration → ProgramPoint → Prop}
    (hpost : post (now.bridge.registered? lifecycle generation) now) :
    (lifecycle.registered? generation).Throughout live good now post := hpost

/-- A program that leaves the bridge live and makes only calls that a property survives. -/
theorem of_calls {program : Program α} {allowed : Call → Prop} {stays : Prop → List Talk → Prop}
    (hwrites : program.WritesFrom (fun before after ↦ live before → live after) now.bridge)
    (hcalls : program.Calls allowed)
    (hallowed : ∀ kept past request reply, allowed request → stays kept past →
      stays kept (past ++ [⟨request, reply⟩]))
    (hless : ∀ (kept still : Prop) past, (still → kept) → stays kept past → stays still past)
    (hgood : ∀ kept past, stays kept past → good kept past)
    (hlive : now.kept → live now.bridge) (hnow : stays now.kept now.past) :
    program.Throughout live good now fun _ last ↦
      (last.kept → live last.bridge) ∧ stays last.kept last.past := by
  induction program generalizing now with
  | done value => exact ⟨hlive, hnow⟩
  | call request next ih =>
    intro reply
    have hsaid := hallowed _ _ request reply hcalls.1 hnow
    exact ⟨hgood _ _ hsaid, fun bridge ↦ ih reply (hwrites reply bridge) (hcalls.2 reply) And.right
      (hless _ _ _ And.left hsaid)⟩
  | read next ih => exact ih _ hwrites (hcalls _) hlive hnow
  | write bridge next ih => exact ih hwrites.2 hcalls (fun hkept ↦ hwrites.1 (hlive hkept)) hnow
  | thread next ih => exact fun running ↦ ih running (hwrites running) (hcalls running) hlive hnow
  | notify notice next ih | remark note next ih => exact ih hwrites hcalls hlive hnow

end Throughout

end Program

end JavaInterop
