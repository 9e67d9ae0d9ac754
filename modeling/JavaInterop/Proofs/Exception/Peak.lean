import JavaInterop.Proofs.Exception.Footprint
import JavaInterop.Proofs.Exception.Matched
import JavaInterop.Proofs.Reference.Settlement

/-!
# The peak of a catch

However deep the hierarchy is and however the inspection ends, a catch holds at most four local
references at a time, and at most one buffer.  Each piece of the inspection is entered with a known
footprint and left with a known one, and has a footprint after each of its calls.  In a walk it is
the same footprint from one class to the next, so the walk is an induction on the number of classes
that it may still look at.

A text that cannot be read may leave its reference behind, because a method that raises an exception
may give an answer as well.  The inspection is over then, so this happens once.
-/

namespace JavaInterop

open Program (Throughout)

variable [Host] {ω α β : Type}

/-! ## Programs with a footprint -/

/-- The registration that the environment was made for is there. -/
def Env.IsLive (env : Env) (bridge : Bridge) : Prop :=
  bridge.isLive env.lifecycle env.generation = true

theorem Env.isLive_iff {env : Env} {bridge : Bridge} :
    env.IsLive bridge ↔ (bridge.registered? env.lifecycle env.generation).isSome = true :=
  Iff.rfl

/-- A bridge on which an environment is live stays so. -/
def Env.StaysLive (env : Env) (before after : Bridge) : Prop := env.IsLive before → env.IsLive after

instance {env : Env} : Bridge.Bookkeeping env.StaysLive where
  attached bridge id change hlive := by
    have hsame := (harmless_countAttached id change).registered bridge env.lifecycle env.generation
    exact Env.isLive_iff.2 (hsame.symm ▸ hlive)
  pending _ _ _ := id

/-- There is a footprint that fits. -/
def Env.HasFootprint (env : Env) (kept : Prop) (past : List Talk) : Prop :=
  ∃ footprint : Footprint, footprint.Fits env.pointer kept past

/-- Started with the given footprint, the program has one after each of its calls, and in the end
one as in `post`. -/
def Env.Treads (env : Env) (footprint : Footprint) (program : Program α)
    (post : α → Footprint → Prop) : Prop :=
  ∀ now : ProgramPoint, (now.kept → env.IsLive now.bridge) →
    footprint.Fits env.pointer now.kept now.past →
    program.Throughout env.IsLive env.HasFootprint now fun value last ↦
      (last.kept → env.IsLive last.bridge) ∧
        ∃ next, post value next ∧ next.Fits env.pointer last.kept last.past

namespace Env.Treads

variable {env : Env} {footprint : Footprint} {post : α → Footprint → Prop}

theorem weaken {program : Program α} {weaker : α → Footprint → Prop}
    (hprogram : env.Treads footprint program post)
    (hpost : ∀ value next, post value next → weaker value next) :
    env.Treads footprint program weaker := by
  intro now hlive hfits
  apply (hprogram now hlive hfits).weaken
  rintro value last ⟨hlast, next, hnext, hfits'⟩
  exact ⟨hlast, next, hpost value next hnext, hfits'⟩

theorem done {value : α} (hpost : post value footprint) :
    env.Treads footprint (pure value) post :=
  fun _ hlive hfits ↦ ⟨hlive, footprint, hpost, hfits⟩

theorem bind {program : Program α} {next : α → Program β} {later : β → Footprint → Prop}
    (hprogram : env.Treads footprint program post)
    (hnext : ∀ value middle, post value middle → env.Treads middle (next value) later) :
    env.Treads footprint (program >>= next) later := by
  intro now hlive hfits
  apply Throughout.bind
  apply (hprogram now hlive hfits).weaken
  rintro value middle ⟨hmiddle, footprint', hpost, hfits'⟩
  exact hnext value footprint' hpost middle hmiddle hfits'

/-- A call moves the footprint on, according to its answer. -/
theorem ask {function : EnvFunction} {next : function.Reply → Footprint}
    (hmoves : ∀ reply, footprint.Moves env.pointer function reply (next reply)) :
    env.Treads footprint (env.perform function) fun reply last ↦ last = next reply := by
  intro now hlive hfits reply
  have hfits' := hfits.move (hmoves reply)
  exact ⟨⟨next reply, hfits'⟩, fun bridge ↦ ⟨And.right, next reply, rfl, hfits'.mono And.left⟩⟩

/-- A call that concerns no reference. -/
theorem idle {function : EnvFunction} (hbrought : ∀ reply, function.brought reply = 0)
    (hreturned : function.returned = none) :
    env.Treads footprint (env.perform function) fun _ last ↦ last = footprint :=
  ask fun reply ↦ .idle (hbrought reply) hreturned

theorem warn {text : String} : env.Treads footprint (Program.warn text) fun _ last ↦
    last = footprint :=
  fun _ hlive hfits ↦ ⟨hlive, footprint, rfl, hfits⟩

/-- Giving up a local reference empties its place.  If the environment is not live any more, then
the reference stays where it is and becomes a stray. -/
theorem deleteLocal {handle : Handle} {next : Footprint}
    (hempties : footprint.Empties (.localReference handle) next) :
    env.Treads footprint (env.deleteLocal (some handle)) fun _ last ↦ last = next := by
  intro now hlive hfits
  refine Throughout.bind (Throughout.look ?_)
  cases hregistered : now.bridge.registered? env.lifecycle env.generation with
  | some registration =>
    exact ask (fun _ ↦ hempties.moves rfl rfl) now hlive hfits
  | none =>
    have hlost : ¬ now.kept := by
      intro hkept
      have hisLive := isLive_iff.1 (hlive hkept)
      rw [hregistered] at hisLive
      cases hisLive
    exact ⟨hlive, next, rfl, hfits.leave hempties rfl hlost⟩

/-- A program that keeps the books and makes only calls that do not concern local references. -/
theorem remote {program : Program α} (hwrites : program.Writes env.StaysLive)
    (hcalls : program.Calls Call.SparesLocals) :
    env.Treads footprint program fun _ last ↦ last = footprint := by
  intro now hlive hfits
  have hthroughout : program.Throughout env.IsLive env.HasFootprint now fun _ last ↦
      (last.kept → env.IsLive last.bridge) ∧ footprint.Fits env.pointer last.kept last.past :=
    .of_calls (hwrites now.bridge) hcalls
      (fun _ _ _ reply hspares hfits ↦ hfits.spare hspares reply)
      (fun _ _ _ hless hfits ↦ hfits.mono hless) (fun _ _ hfits ↦ ⟨footprint, hfits⟩) hlive hfits
  apply hthroughout.weaken
  rintro _ last ⟨hlast, hfits'⟩
  exact ⟨hlast, footprint, rfl, hfits'⟩

/-! Programs that may fail. -/

theorem liftThen {program : Program α} {next : α → Fallible β}
    {later : Except Error β → Footprint → Prop} (hprogram : env.Treads footprint program post)
    (hnext : ∀ value middle, post value middle → env.Treads middle (next value).run later) :
    env.Treads footprint (liftM program >>= next : Fallible β).run later := by
  rw [Fallible.run_lift_bind]
  exact hprogram.bind hnext

theorem andThen {body : Fallible α} {next : α → Fallible β}
    {middle : Except Error α → Footprint → Prop} {later : Except Error β → Footprint → Prop}
    (hbody : env.Treads footprint body.run middle)
    (hfailed : ∀ error last, middle (.error error) last → later (.error error) last)
    (hnext : ∀ value reached, middle (.ok value) reached →
      env.Treads reached (next value).run later) :
    env.Treads footprint (body >>= next).run later := by
  rw [ExceptT.run_bind]
  apply hbody.bind
  rintro (error | value) reached hmiddle
  · exact done (hfailed error reached hmiddle)
  · exact hnext value reached hmiddle

/-- At the end of a scope the place of its reference is emptied. -/
theorem scope {handle : Handle} {body : Fallible α} {later : Except Error α → Footprint → Prop}
    (hbody : env.Treads footprint body.run fun result last ↦
      ∃ next, last.Empties (.localReference handle) next ∧ later result next) :
    env.Treads footprint ((env.own (some handle)).scope body).run later := by
  unfold LocalReference.scope Fallible.thenAlways
  rw [ExceptT.run_mk]
  apply hbody.bind
  rintro result last ⟨next, hempties, hlater⟩
  apply (deleteLocal hempties).bind
  rintro _ _ rfl
  exact done hlater

end Env.Treads

/-! ## Reading a text -/

/-- What is held once a piece of the inspection is over: the thrown object, a class, and a name only
if the piece has failed. -/
def Footprint.Rests (throwable current : Option Handle) (result : Except Error α)
    (last : Footprint) : Prop :=
  ∃ name, last = { throwable, current, name } ∧ (Failed result ∨ name = none)

namespace Footprint.Rests

omit [Host]

variable {throwable current : Option Handle}

theorem plain (result : Except Error α) : Rests throwable current result { throwable, current } :=
  ⟨none, rfl, .inr rfl⟩

theorem ok {value : α} {last : Footprint} (hrests : Rests throwable current (.ok value) last) :
    last = { throwable, current } := by
  obtain ⟨name, rfl, hfailed | rfl⟩ := hrests
  · obtain ⟨error, herror⟩ := hfailed
    cases herror
  · rfl

/-- After one failure another one may be reported. -/
theorem error {error other : Error} {last : Footprint}
    (hrests : Rests throwable current (.error error : Except Error α) last) :
    Rests throwable current (.error other : Except Error β) last := by
  obtain ⟨name, hlast, -⟩ := hrests
  exact ⟨name, hlast, .inl (failed_error other)⟩

end Footprint.Rests

namespace Env

open Footprint

variable {throwable current : Option Handle} (env : Env)

theorem treads_readString {footprint : Footprint} (hfree : footprint.buffer = none)
    (string : Handle) :
    env.Treads footprint (env.readString string) fun _ last ↦ last = footprint := by
  have hsame : { footprint with buffer := none } = footprint := by
    rw [← hfree]
  unfold readString
  apply (Treads.ask fun reply ↦ moves_buffer hfree string reply).bind
  rintro (_ | chars) _ rfl
  · exact .done hsame
  · apply (Treads.ask fun _ ↦ (empties_buffer rfl).moves rfl rfl).bind
    rintro _ _ rfl
    exact .done hsame

theorem treads_inspectionFailed {footprint : Footprint} (call : String) :
    env.Treads footprint (env.inspectionFailed call) fun _ last ↦ last = footprint := by
  unfold inspectionFailed
  apply (Treads.idle (fun _ ↦ rfl) rfl).bind
  rintro pending _ rfl
  cases pending with
  | false => exact .done rfl
  | true =>
    apply (Treads.idle (fun _ ↦ rfl) rfl).bind
    rintro _ _ rfl
    apply (Treads.idle (fun _ ↦ rfl) rfl).bind
    rintro _ _ rfl
    exact .done rfl

theorem treads_fail {footprint : Footprint} (call : String)
    {post : Except Error α → Footprint → Prop}
    (hpost : ∀ error, post (.error error) footprint) :
    env.Treads footprint (do throw (← env.inspectionFailed call) : Fallible α).run post := by
  apply Treads.liftThen (env.treads_inspectionFailed call)
  rintro error _ rfl
  exact .done (hpost error)

/-- Asking for a text takes a helper class and a name, besides what is held already. -/
theorem treads_callStringMethod (object : Handle) (className method : String) :
    env.Treads { throwable, current } (env.callStringMethod object className method).run
      (Rests throwable current) := by
  unfold callStringMethod
  apply Treads.liftThen (.ask fun reply ↦ moves_helper rfl rfl _ reply)
  rintro (_ | classObject) _ rfl
  · exact env.treads_fail method fun error ↦ .plain _
  have hclosed (name : Option Handle) (result : Except Error (Option String))
      (hresult : Failed result ∨ name = none) :
      ∃ next, Empties { throwable, current, helper := some classObject, name }
        (.localReference classObject) next ∧ Rests throwable current result next :=
    ⟨_, empties_helper rfl rfl, name, rfl, hresult⟩
  apply Treads.scope
  apply Treads.liftThen (.idle (fun _ ↦ rfl) rfl)
  rintro (_ | methodId) _ rfl
  · exact env.treads_fail method fun error ↦ hclosed none _ (.inr rfl)
  apply Treads.liftThen (.ask fun reply ↦ moves_name rfl rfl object methodId reply)
  rintro answer _ rfl
  apply Treads.liftThen (.idle (fun _ ↦ rfl) rfl)
  rintro pending _ rfl
  cases pending with
  | true => exact env.treads_fail method fun error ↦ hclosed answer _ (.inl (failed_error error))
  | false =>
    cases answer with
    | none => exact .done (hclosed none _ (.inr rfl))
    | some string =>
      have hgone (result : Except Error (Option String)) :
          ∃ next, Empties { throwable, current, helper := some classObject, name := some string }
            (.localReference string) next ∧ ∃ next', next.Empties (.localReference classObject)
              next' ∧ Rests throwable current result next' :=
        ⟨_, empties_name rfl rfl, hclosed none _ (.inr rfl)⟩
      apply Treads.scope
      apply Treads.liftThen (env.treads_readString rfl string)
      rintro (_ | content | text) _ rfl
      · exact env.treads_fail method fun error ↦ hgone _
      · exact .done (hgone _)
      · exact .done (hgone _)

/-! ## Walking up the classes -/

/-- One step of the walk goes on from one class to the next, which takes its place. -/
theorem treads_ancestry (current : Option Handle) :
    env.Treads { throwable, current } (env.ancestry.run.run current) fun answer last ↦
      Rests throwable answer.2 answer.1 last := by
  cases current with
  | none => exact .done (.plain _)
  | some classObject =>
    apply (env.treads_callStringMethod classObject _ _).bind
    rintro (error | _ | name) middle hrests
    · obtain ⟨name, rfl, -⟩ := hrests
      apply (Treads.deleteLocal (empties_current rfl)).bind
      rintro _ _ rfl
      exact .done ⟨name, rfl, .inl (failed_error error)⟩
    · obtain rfl := hrests.ok
      apply (env.treads_inspectionFailed _).bind
      rintro error _ rfl
      apply (Treads.deleteLocal (empties_current rfl)).bind
      rintro _ _ rfl
      exact .done (.plain _)
    · obtain rfl := hrests.ok
      apply (Treads.ask fun reply ↦ moves_above rfl ⟨rfl, rfl⟩ classObject reply).bind
      rintro next _ rfl
      apply (Treads.deleteLocal (empties_current rfl)).bind
      rintro _ _ rfl
      exact .done (.plain _)

theorem treads_walk (registry : Registry) (className : String) (remaining : Nat) (name : String)
    (current : Option Handle) :
    env.Treads { throwable, current }
      ((walk registry env.ancestry className remaining name).run.run current) fun answer last ↦
        Rests throwable answer.2 answer.1 last := by
  induction remaining generalizing name current with
  | zero =>
    unfold walk
    split
    · exact .done (.plain _)
    · split
      · exact .done (.plain _)
      · exact .done (.plain _)
  | succ remaining ih =>
    unfold walk
    split
    · exact .done (.plain _)
    · split
      · exact .done (.plain _)
      · rw [Fallible.run_stateful_bind]
        apply (env.treads_ancestry current).bind
        rintro ⟨error | _ | name, rest⟩ middle hrests
        · exact .done hrests.error
        · obtain rfl := hrests.ok
          exact .done (.plain _)
        · obtain rfl := hrests.ok
          exact ih name rest

theorem treads_resolve (registry : Registry) (current : Option Handle) :
    env.Treads { throwable, current } ((resolve registry env.ancestry).run.run current)
      fun answer last ↦ Rests throwable answer.2 answer.1 last := by
  unfold resolve
  rw [Fallible.run_stateful_bind]
  apply (env.treads_ancestry current).bind
  rintro ⟨error | _ | name, rest⟩ middle hrests
  · exact .done hrests.error
  · obtain rfl := hrests.ok
    exact .done (.plain _)
  · obtain rfl := hrests.ok
    exact env.treads_walk registry name _ name rest

theorem treads_resolveThrown (registry : Registry) (thrown : Handle) :
    env.Treads { throwable } (env.resolveThrown registry thrown).run (Rests throwable none) := by
  unfold resolveThrown
  apply Treads.liftThen (.ask fun reply ↦ moves_current rfl thrown reply)
  rintro (_ | classObject) _ rfl
  · exact env.treads_fail _ fun error ↦ .plain _
  · apply (env.treads_resolve registry (some classObject)).bind
    rintro ⟨result, rest⟩ _ ⟨name, rfl, hname⟩
    have hdeleted : env.Treads { throwable, current := rest, name } (env.deleteLocal rest)
        fun _ last ↦ last = { throwable, name } := by
      cases rest with
      | none => exact .done rfl
      | some handle => exact .deleteLocal (empties_current rfl)
    apply hdeleted.bind
    rintro _ _ rfl
    exact .done ⟨name, rfl, hname⟩

/-! ## The whole catch -/

theorem treads_thrownMessage (thrown : Handle) :
    env.Treads { throwable } (env.thrownMessage thrown) fun _ last ↦
      ∃ name, last = { throwable, name } := by
  apply (env.treads_callStringMethod thrown _ _).bind
  rintro (error | message) _ ⟨name, rfl, -⟩
  · apply Treads.warn.bind
    rintro _ _ rfl
    exact .done ⟨name, rfl⟩
  · exact .done ⟨name, rfl⟩

theorem treads_throwResolved {footprint : Footprint} (thrown : Handle) (resolution : Resolution)
    (message : Option String) :
    env.Treads footprint (env.throwResolved thrown resolution message).run fun _ last ↦
      last = footprint := by
  apply Treads.remote (env.writes_throwResolved thrown resolution message)
  cases resolution with
  | unmatched className => exact .throw
  | matched factory className =>
    have hnewGlobal : (env.newGlobal thrown).run.Calls Call.SparesLocals := by
      apply Program.Calls.andThen .nonNull
      intro object
      apply Program.Calls.liftThen (.perform (Call.sparesLocals_newGlobalRef _ object))
      rintro (_ | handle)
      · exact .throw
      · exact .succeed
    apply hnewGlobal.andThen
    intro reference
    dsimp only
    split
    · have hdrop := reference.clerical_drop.weaken fun _ ↦ Call.IsClerical.sparesLocals
      exact hdrop.liftThen fun _ ↦ .throw
    · exact .throw

theorem treads_catchWith (registry : Registry) :
    env.Treads { } (env.catchWith registry).run fun _ last ↦ ∃ name, last = { name } := by
  unfold catchWith
  apply Treads.liftThen (.ask fun reply ↦ moves_throwable rfl reply)
  rintro (_ | thrown) _ rfl
  · exact .done ⟨none, rfl⟩
  · apply Treads.liftThen (.idle (fun _ ↦ rfl) rfl)
    rintro _ _ rfl
    have hclosed (name : Option Handle) : ∃ next, Empties { throwable := some thrown, name }
        (.localReference thrown) next ∧ ∃ name, next = { name } :=
      ⟨_, empties_throwable rfl, name, rfl⟩
    apply Treads.scope
    apply (env.treads_resolveThrown registry thrown).andThen
    · rintro error _ ⟨name, rfl, -⟩
      exact hclosed name
    · intro resolution middle hrests
      obtain rfl := hrests.ok
      apply Treads.liftThen (env.treads_thrownMessage thrown)
      rintro message _ ⟨name, rfl⟩
      apply (env.treads_throwResolved thrown resolution message).weaken
      rintro _ _ rfl
      exact hclosed name

end Env

/-! ## The bounds -/

/-- Of local references, what is held is exactly what stands in the places of the footprint. -/
def Footprint.Covers (footprint : Footprint) (pointer : EnvPointer) (past : List Talk) : Prop :=
  footprint.Sound pointer past ∧
    (holding past).filter (fun resource ↦ resource.kind = .localReference) = footprint.locals

section

variable {env : Env} {registry : Registry} {thread : NativeThread} {first last : Moment ω}
  {exchanges begun : List (Exchange ω)} {result : Except Error Unit}

/-- After each of its calls a catch has a footprint.  Whether the environment was live counts up to
the beginning of the last call. -/
theorem Env.hasFootprint_of_prefix
    (hrun : (env.catchWith registry).run.Run thread first exchanges result last)
    (hbegun : begun <+: exchanges) :
    env.HasFootprint
      (env.IsLive first.bridge ∧ ∀ before ∈ begun.dropLast, env.IsLive before.after.bridge)
      (begun.map Exchange.talk) := by
  rcases List.eq_nil_or_concat begun with rfl | ⟨earlier, exchange, rfl⟩
  · exact ⟨{ }, Footprint.fits_nil⟩
  · obtain ⟨later, hexchanges⟩ := hbegun
    have hprogram := env.treads_catchWith registry ⟨first.bridge, env.IsLive first.bridge, []⟩ id
      Footprint.fits_nil
    rw [List.concat_eq_append, List.append_assoc] at hexchanges
    rw [List.concat_eq_append, List.dropLast_concat]
    exact hrun.throughout hprogram hexchanges.symm

/-- However a catch goes, it holds at most one buffer at any moment.  As long as the environment was
live after all calls before the last one, what is not needed any more has been given back: besides
the thrown object and one class there is either a superclass or at most a helper class and a name,
which makes four local references. -/
theorem Env.catchWith_peak
    (hrun : (env.catchWith registry).run.Run thread first exchanges result last)
    (hbegun : begun <+: exchanges) :
    heldCount .characters (begun.map Exchange.talk) ≤ 1 ∧
      (env.IsLive first.bridge → (∀ before ∈ begun.dropLast, env.IsLive before.after.bridge) →
        heldCount .localReference (begun.map Exchange.talk) ≤ 4 ∧
          ∃ footprint : Footprint, footprint.Covers env.pointer (begun.map Exchange.talk)) := by
  obtain ⟨footprint, hfits⟩ := hasFootprint_of_prefix hrun hbegun
  constructor
  · exact hfits.buffers_le
  · intro hlive hbefore
    have hkept := And.intro hlive hbefore
    exact ⟨hfits.locals_le hkept, footprint, hfits.sound, hfits.filter_holding hkept⟩

end

namespace Sample

/-- The answers of a machine that never hands out a reference twice: it numbers them by its clock.
The thrown object is of class `T`, which inherits from the root. -/
def numbered (clock : Nat) : (request : Call) → request.Reply
  | .env pointer .exceptionOccurred => some ⟨pointer.vm, clock⟩
  | .env pointer (.getObjectClass _) => some ⟨pointer.vm, clock⟩
  | .env pointer (.findClass _) => some ⟨pointer.vm, clock⟩
  | .env pointer (.getSuperclass below) =>
    if below.number = 2 then some ⟨pointer.vm, clock⟩ else none
  | .env pointer (.callObject ..) => some ⟨pointer.vm, clock⟩
  | .env pointer (.getMethodId ..) => some ⟨pointer.vm, 1⟩
  | .env _ (.getStringChars string) =>
    some (Text.ModifiedUtf8.encode (if string.number = 5 then "T" else rootClass))
  | request => nothing request

/-- The machine itself. -/
def numbering : Program.Machine Nat := fun request now ↦
  (numbered now.outside request, ⟨now.bridge, now.outside + 1⟩)

/-- What is said in a catch with a registry that does not know the class. -/
def caught (bridge : Bridge) : List (Exchange Nat) :=
  ((env.catchWith .empty).run.play numbering thread ⟨bridge, 0⟩).1

end Sample

omit [Host] in
/-- Four references are really held when the name of the class has been handed out. -/
theorem Env.catchWith_peak_reached :
    let _ := Sample.host
    ∃ (exchanges begun : List (Exchange Nat)) (result : Except Error Unit) (last : Moment Nat),
      (Sample.env.catchWith .empty).run.Run Sample.thread ⟨Sample.bridge, 0⟩ exchanges result last ∧
      begun <+: exchanges ∧ heldCount .localReference (begun.map Exchange.talk) = 4 ∧
      ∃ footprint : Footprint,
        footprint.Covers Sample.env.pointer (begun.map Exchange.talk) := by
  intro _
  let begun := (Sample.caught Sample.bridge).take 6
  have hrun := @Program.run_play _ _ _ Sample.thread ⟨Sample.bridge, 0⟩ Sample.numbering
    (Sample.env.catchWith .empty).run
  have hbegun : begun <+: Sample.caught Sample.bridge := List.take_prefix _ _
  have hfour : heldCount .localReference (begun.map Exchange.talk) = 4 := by decide +kernel
  have hlive : begun.dropLast.all (fun before ↦ before.after.bridge.isLive Sample.env.lifecycle
      Sample.env.generation) = true := by
    decide +kernel
  have hpeak := Env.catchWith_peak hrun hbegun
  exact ⟨_, begun, _, _, hrun, hbegun, hfour, (hpeak.2 rfl (List.all_eq_true.1 hlive)).2⟩

omit [Host] in
/-- Once the registration has gone nothing is given back, so every class that is looked at adds to
what is held: a single superclass is enough to exceed the bound. -/
theorem Env.catchWith_leaves_behind :
    let _ := Sample.host
    ∃ (exchanges : List (Exchange Nat)) (result : Except Error Unit) (last : Moment Nat),
      (Sample.env.catchWith .empty).run.Run Sample.thread ⟨{ }, 0⟩ exchanges result last ∧
      4 < heldCount .localReference (exchanges.map Exchange.talk) := by
  intro _
  have hrun := @Program.run_play _ _ _ Sample.thread ⟨{ }, 0⟩ Sample.numbering
    (Sample.env.catchWith .empty).run
  have hmany : 4 < heldCount .localReference ((Sample.caught { }).map Exchange.talk) := by
    decide +kernel
  exact ⟨_, _, _, hrun, hmany⟩

end JavaInterop
