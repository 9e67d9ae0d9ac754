import JavaInterop.Proofs.Environment.Handover
import JavaInterop.Proofs.Lifecycle.Inert
import JavaInterop.Proofs.Reference.Release

/-!
# Looking for a class

A descriptor keeps a global reference to its class.  As long as the registration that issued the
reference is there, whoever asks for the class gets a new local reference to the same object, and
that takes one call.  Otherwise the class is searched: through the class loader of the thread if it
has one that can be used, and by its name if it has none.  Then a global reference to it is made and
kept.  If one of these steps fails, the search ends with the error of that step, and what is kept
stays as it was.

A search hands over only what was answered in it, and what the bridge keeps under a registration
that has not gone.  So a reference that has outlived its registration is not used again.
-/

namespace JavaInterop

open Program (Ensures)
open Fallible (Yields)

variable [Host] {ω : Type} {env : Env} {thread : NativeThread} {first : Moment ω}
  {descriptor : ClassDescriptor} {key : DescriptorKey}

/-! ## What stays as it is -/

/-- A later state of the bridge in which the same reference is kept under the key. -/
structure Bridge.Spares (key : DescriptorKey) (before after : Bridge) : Prop where
  advances : before.Advances after
  kept : after.classes.find? key = before.classes.find? key

/-- In addition the registration of the environment is still there. -/
structure Bridge.Tends (env : Env) (key : DescriptorKey) (before after : Bridge) : Prop
    extends before.Spares key after where
  serves : before.Serves env → after.Serves env

/-- What is relied on in the calls of a look-up. -/
abbrev Exchange.Tends (env : Env) (key : DescriptorKey) (exchange : Exchange ω) : Prop :=
  exchange.before.bridge.Tends env key exchange.after.bridge

section

variable {before middle after : Bridge}

theorem Bridge.Spares.refl (bridge : Bridge) : bridge.Spares key bridge := ⟨.refl bridge, rfl⟩

theorem Bridge.Spares.trans (hfirst : before.Spares key middle)
    (hlast : middle.Spares key after) : before.Spares key after :=
  ⟨hfirst.advances.trans hlast.advances, hlast.kept.trans hfirst.kept⟩

theorem Bridge.Tends.refl (bridge : Bridge) : bridge.Tends env key bridge := ⟨.refl bridge, id⟩

theorem Bridge.Tends.trans (hfirst : before.Tends env key middle)
    (hlast : middle.Tends env key after) : before.Tends env key after :=
  ⟨hfirst.toSpares.trans hlast.toSpares, hlast.serves ∘ hfirst.serves⟩

instance : Bridge.Bookkeeping (Bridge.Spares key) where
  attached bridge id change := ⟨advances_recount bridge id change, rfl⟩
  pending bridge owner _ := ⟨advances_setThread bridge owner _, rfl⟩

instance : Bridge.Bookkeeping (Bridge.Tends env key) where
  attached bridge id change := by
    refine ⟨⟨advances_recount bridge id change, rfl⟩, ?_⟩
    rintro ⟨registration, hregistered, hvm⟩
    exact ⟨registration, ((harmless_countAttached id change).registered bridge _ _).trans
      hregistered, hvm⟩
  pending bridge owner _ := ⟨⟨advances_setThread bridge owner _, rfl⟩, id⟩

/-- A reference that can be used later could be used before, if its generation was given. -/
theorem Bridge.Advances.usable (hadvances : before.Advances after) {reference : GlobalReference}
    (hgiven : reference.generation < before.nextGeneration)
    (husable : after.isUsable reference = true) : before.isUsable reference = true := by
  obtain ⟨hheld, hlive⟩ := Bool.and_eq_true_iff.1 husable
  by_contra hunusable
  have hgone : before.isLive reference.lifecycle reference.generation = false := by
    simpa [Bridge.isUsable, hheld] using hunusable
  cases (hadvances.past ⟨hgiven, hgone⟩).gone.symm.trans hlive

/-- What could not be used stays so. -/
theorem Bridge.Spares.vacant (hspares : before.Spares key after)
    (hgiven : ∀ kept, before.classes.find? key = some kept →
      kept.generation < before.nextGeneration)
    (hvacant : before.Vacant key) : after.Vacant key := by
  intro reference hfind
  rw [hspares.kept] at hfind
  by_contra husable
  rw [Bool.not_eq_false] at husable
  cases (hvacant reference hfind).symm.trans
    (hspares.advances.usable (hgiven reference hfind) husable)

end

/-! ## What a search writes -/

section

variable {allowed : Bridge → Bridge → Prop} [Bridge.Bookkeeping allowed]

open Fallible

theorem ClassDescriptor.writes_loadThrough (descriptor : ClassDescriptor) (env : Env)
    (loader : GlobalReference) : (descriptor.loadThrough env loader).Writes allowed := by
  refine .andThen (env.writes_findClass _) fun loaderClass ↦ .scope ?_ loaderClass
  refine .andThen (env.writes_findMethod _ _ _ _) fun loadClass ↦ ?_
  refine .andThen (env.writes_newString _) fun name ↦ .scope ?_ name
  refine .andThen (env.writes_callObject _ _ _) ?_
  rintro (_ | classObject)
  · exact .throw
  · exact .succeed

/-- Apart from the books only the use of the slot for the class loader is written down. -/
theorem ClassDescriptor.writes_resolve (descriptor : ClassDescriptor) (env : Env)
    (htouch : ∀ (bridge : Bridge) owner,
      allowed bridge (bridge.setThread owner ((bridge.thread owner).touch .classLoader))) :
    (descriptor.resolve env).Writes allowed := by
  have hloader : currentClassLoader.Writes allowed := by
    refine Program.Writes.current.bind fun running ↦ ?_
    refine (Program.Writes.update fun bridge ↦ htouch bridge running.id).bind fun _ ↦ ?_
    exact Program.Writes.state.bind fun _ ↦ .done
  refine .liftThen hloader ?_
  rintro (_ | loader)
  · exact env.writes_findClass _
  · exact descriptor.writes_loadThrough env loader

theorem spares_touch (bridge : Bridge) (owner : Nat) :
    bridge.Spares key (bridge.setThread owner ((bridge.thread owner).touch .classLoader)) :=
  ⟨advances_setThread bridge owner _, rfl⟩

theorem tends_touch (bridge : Bridge) (owner : Nat) :
    bridge.Tends env key (bridge.setThread owner ((bridge.thread owner).touch .classLoader)) :=
  ⟨spares_touch bridge owner, id⟩

end

/-! ## One look-up -/

/-- The class was found through the class loader that the thread had, or by its name. -/
inductive Finds (descriptor : ClassDescriptor) (env : Env) (thread : NativeThread)
    (first : Moment ω) (exchanges : List (Exchange ω)) (handle : Handle) : Prop
  | byLoader {loader : GlobalReference} (hloader : first.loader? thread = some loader)
      (hloads : Loads env loader descriptor.dottedName thread exchanges (env.own (some handle)))
  | byName {exchange : Exchange ω} {name : Text.CString} (hloader : first.loader? thread = none)
      (hmem : exchange ∈ exchanges)
      (hname : name.reads? = Text.plainReading? descriptor.internalName)
      (hfound : exchange.Obtains thread env (.findClass name) (some handle))

/-- A search and how it may end: the class is not found, no global reference to it is made and it is
given back, or the reference is kept and the class handed over. -/
inductive Search (descriptor : ClassDescriptor) (env : Env) (thread : NativeThread)
    (first : Moment ω) :
    List (Exchange ω) → Except Error LocalReference → Moment ω → Prop
  | unresolved {exchanges : List (Exchange ω)} {error : Error} {last : Moment ω}
      (hresolve : (descriptor.resolve env).run.Run thread first exchanges (.error error) last) :
      Search descriptor env thread first exchanges (.error error) last
  | refused {begun : List (Exchange ω)} {handle : Handle} {middle after last : Moment ω}
      (hresolve : (descriptor.resolve env).run.Run thread first begun
        (.ok (env.own (some handle))) middle)
      (hfinds : Finds descriptor env thread first begun handle) :
      Search descriptor env thread first
        (begun ++ [⟨thread, .env env.pointer (.newGlobalRef handle), none, middle, after⟩,
          ⟨thread, .env env.pointer (.deleteLocalRef handle), (), after, last⟩])
        (.error .globalReferencesExhausted) last
  | kept {begun : List (Exchange ω)} {handle copy : Handle} {middle after : Moment ω}
      (hresolve : (descriptor.resolve env).run.Run thread first begun
        (.ok (env.own (some handle))) middle)
      (hfinds : Finds descriptor env thread first begun handle) :
      Search descriptor env thread first
        (begun ++ [⟨thread, .env env.pointer (.newGlobalRef handle), some copy, middle, after⟩])
        (.ok (env.own (some handle)))
        ⟨{ after.bridge with
            classes := after.bridge.classes.insert descriptor.key
              ⟨some copy, env.lifecycle, env.generation⟩ }, after.outside⟩

/-- The look-up is one call, for a new local reference to what is kept. -/
def Reuses (env : Env) (thread : NativeThread) (handle : Handle) (first : Moment ω)
    (exchanges : List (Exchange ω)) (result : Except Error LocalReference) (last : Moment ω) :
    Prop :=
  ∃ copy : Option Handle,
    exchanges = [⟨thread, .env env.pointer (.newLocalRef handle), copy, first, last⟩] ∧
      result = copy.elim (.error .localReferencesExhausted) fun copy ↦ .ok (env.own (some copy))

section

variable {law : Exchange ω → Prop}

/-- A class that is found by a name was asked for under that name. -/
theorem yields_findClass_obtains (internalName : String) :
    Yields law thread (env.findClass internalName) first fun exchanges classObject _ ↦
      ∃ name handle, name.reads? = Text.plainReading? internalName ∧
        classObject = env.own (some handle) ∧ ∃ exchange ∈ exchanges,
          Exchange.Obtains exchange thread env (.findClass name) (some handle) := by
  unfold Env.findClass
  refine yields_ended fun name hname ↦ yields_perform fun exchange answer after hobtains ↦
    .skip fun _ _ _ ↦ .nonNullThen fun handle hhandle ↦ ?_
  subst hhandle
  exact .done ⟨name, handle, hname, rfl, exchange, List.mem_cons_self, hobtains⟩

theorem yields_resolve :
    Yields law thread (descriptor.resolve env) first fun exchanges classObject _ ↦
      ∃ handle, classObject = env.own (some handle) ∧
        Finds descriptor env thread first exchanges handle := by
  cases hloader : first.loader? thread with
  | some loader =>
    refine (resolve_by_loader hloader).weaken ?_
    intro exchanges result last hloads classObject hresult
    have hloaded := hloads classObject hresult
    obtain ⟨handle, hclass⟩ : ∃ handle, classObject = env.own (some handle) := by
      cases hloaded with
      | intro => exact ⟨_, rfl⟩
    exact ⟨handle, hclass, .byLoader hloader (hclass ▸ hloaded)⟩
  | none =>
    unfold Moment.loader? at hloader
    unfold ClassDescriptor.resolve
    refine Fallible.ensures_liftThen.2 (ensures_currentClassLoader.weaken ?_)
    rintro _ _ middle ⟨rfl, -, -, rfl⟩
    rw [hloader]
    refine (yields_findClass_obtains descriptor.internalName).weaken ?_
    intro exchanges result last hfinds classObject hresult
    obtain ⟨name, handle, hname, hclass, exchange, hmem, hobtains⟩ := hfinds classObject hresult
    exact ⟨handle, hclass, .byName hloader hmem hname hobtains⟩

end

theorem ensures_resolve_tends :
    Ensures (Exchange.Tends env key) thread (descriptor.resolve env).run first
      fun _ _ last ↦ first.bridge.Tends env key last.bridge := by
  intro exchanges result last hrun hlaw
  exact hrun.writes .refl (fun _ _ _ ↦ .trans) (descriptor.writes_resolve env tends_touch _) hlaw

/-- A new global reference to the class is kept.  What was kept before could not be used, so nothing
is deleted. -/
theorem ensures_keep_over {reference : GlobalReference} {classObject : LocalReference}
    (hvacant : first.bridge.Vacant descriptor.key) :
    Ensures (Exchange.Tends env descriptor.key) thread (do
      match ← descriptor.keep reference with
      | some previous => previous.drop
      | none => pure ()
      return classObject : Fallible LocalReference).run first fun exchanges result last ↦
        exchanges = [] ∧ result = .ok classObject ∧ last = ⟨{ first.bridge with
          classes := first.bridge.classes.insert descriptor.key reference }, first.outside⟩ := by
  let last : Moment ω := ⟨{ first.bridge with
    classes := first.bridge.classes.insert descriptor.key reference }, first.outside⟩
  unfold ClassDescriptor.keep
  rw [Fallible.run_lift_bind]
  simp only [bind_assoc, pure_bind]
  rw [Program.ensures_bind, Program.ensures_state, Program.ensures_bind, Program.ensures_update]
  cases hfind : first.bridge.classes.find? descriptor.key with
  | none => exact Program.ensures_pure.2 ⟨rfl, rfl, rfl⟩
  | some previous =>
    have hunusable : last.bridge.isUsable previous = false := hvacant previous hfind
    dsimp only
    rw [Fallible.run_lift_bind, Program.ensures_bind]
    refine (ensures_drop_of_not_usable hunusable).weaken ?_
    rintro _ _ _ ⟨rfl, rfl⟩
    exact Program.ensures_pure.2 ⟨rfl, rfl, rfl⟩

/-- What becomes of a class that was found. -/
theorem ensures_keep_found {handle : Handle} (hserves : first.bridge.Serves env)
    (hgiven : ∀ kept, first.bridge.classes.find? descriptor.key = some kept →
      kept.generation < first.bridge.nextGeneration)
    (hvacant : first.bridge.Vacant descriptor.key) :
    Ensures (Exchange.Tends env descriptor.key) thread (do
      let reference ← (env.newGlobal (env.own (some handle)).raw).mapFailure fun error => do
        (env.own (some handle)).drop
        return error
      match ← descriptor.keep reference with
      | some previous => previous.drop
      | none => pure ()
      return env.own (some handle) : Fallible LocalReference).run first fun exchanges result last ↦
        (∃ after,
          exchanges = [⟨thread, .env env.pointer (.newGlobalRef handle), none, first, after⟩,
            ⟨thread, .env env.pointer (.deleteLocalRef handle), (), after, last⟩] ∧
          result = .error .globalReferencesExhausted) ∨
        ∃ copy after,
          exchanges = [⟨thread, .env env.pointer (.newGlobalRef handle), some copy, first, after⟩] ∧
          result = .ok (env.own (some handle)) ∧
          last = ⟨{ after.bridge with
            classes := after.bridge.classes.insert descriptor.key
              ⟨some copy, env.lifecycle, env.generation⟩ }, after.outside⟩ := by
  rw [Fallible.ensures_bind, Fallible.ensures_mapFailure]
  unfold Env.newGlobal
  rw [Env.own, Fallible.nonNull, pure_bind, Fallible.ensures_liftThen, Env.perform,
    Program.ensures_perform]
  intro copy after htends
  cases copy with
  | none =>
    refine Fallible.ensures_throw.2 ?_
    unfold LocalReference.drop Env.deleteLocal LifecycleId.registered?
    obtain ⟨registration, hregistered, -⟩ := htends.serves hserves
    dsimp only
    rw [Program.ensures_bind, Program.ensures_bind, Program.ensures_look, hregistered]
    dsimp only
    rw [Env.perform, Program.ensures_perform]
    intro _ last _
    exact Program.ensures_pure.2 (.inl ⟨after, rfl, rfl⟩)
  | some copy =>
    refine Fallible.ensures_pure.2 ?_
    dsimp only
    rw [Fallible.continues_ok]
    refine (ensures_keep_over (htends.vacant hgiven hvacant)).weaken ?_
    rintro _ _ _ ⟨rfl, rfl, rfl⟩
    exact .inr ⟨copy, after, rfl, rfl, rfl⟩

/-- Whoever asks for a class gets a new local reference to what is kept, if that can be used.
Otherwise the class is searched. -/
theorem ensures_find_cases (hserves : first.bridge.Serves env)
    (hgiven : ∀ kept, first.bridge.classes.find? descriptor.key = some kept →
      kept.generation < first.bridge.nextGeneration) :
    Ensures (Exchange.Tends env descriptor.key) thread (descriptor.find env).run first
      fun exchanges result last ↦
        (∃ kept handle, first.bridge.classes.find? descriptor.key = some kept ∧
          first.bridge.isUsable kept = true ∧ kept.raw = some handle ∧
          Reuses env thread handle first exchanges result last) ∨
        first.bridge.Vacant descriptor.key ∧
          Search descriptor env thread first exchanges result last := by
  unfold ClassDescriptor.find
  rw [Fallible.ensures_liftThen, Program.ensures_state]
  cases hkept : (first.bridge.classes.find? descriptor.key).filter first.bridge.isUsable with
  | some kept =>
    obtain ⟨hfind, husable⟩ := Option.filter_eq_some_iff.1 hkept
    have hheld : kept.raw.isSome := by
      simpa [GlobalReference.isReleased] using (Bool.and_eq_true_iff.1 husable).1
    obtain ⟨handle, hraw⟩ := Option.isSome_iff_exists.1 hheld
    unfold Env.newLocal Fallible.nonNull
    dsimp only
    rw [hraw]
    dsimp only
    rw [pure_bind, Fallible.ensures_liftThen, Env.perform, Program.ensures_perform]
    intro copy after _
    have hreuses : ∀ exchanges result, Reuses env thread handle first exchanges result after →
        ∃ kept handle, first.bridge.classes.find? descriptor.key = some kept ∧
          first.bridge.isUsable kept = true ∧ kept.raw = some handle ∧
          Reuses env thread handle first exchanges result after :=
      fun _ _ hreuses ↦ ⟨kept, handle, hfind, husable, hraw, hreuses⟩
    cases copy with
    | none => exact Fallible.ensures_throw.2 (.inl (hreuses _ _ ⟨none, rfl, rfl⟩))
    | some copy => exact Fallible.ensures_pure.2 (.inl (hreuses _ _ ⟨some copy, rfl, rfl⟩))
  | none =>
    have hvacant : first.bridge.Vacant descriptor.key := by
      intro kept hfind
      simpa [hfind] using hkept
    dsimp only
    rw [Fallible.ensures_bind]
    intro begun result middle hresolve hlaw
    have htends : first.bridge.Tends env descriptor.key middle.bridge :=
      ensures_resolve_tends begun result middle hresolve hlaw
    cases result with
    | error error => exact .inr ⟨hvacant, .unresolved hresolve⟩
    | ok classObject =>
      obtain ⟨handle, rfl, hfinds⟩ := yields_resolve begun _ middle hresolve hlaw classObject rfl
      rw [Fallible.continues_ok]
      refine (ensures_keep_found (htends.serves hserves) (fun kept hfind ↦ ?_)
        (htends.vacant hgiven hvacant)).weaken ?_
      · rw [htends.kept] at hfind
        exact Nat.lt_of_lt_of_le (hgiven kept hfind) htends.advances.generation
      · rintro rest result last (⟨after, rfl, rfl⟩ | ⟨copy, after, rfl, rfl, rfl⟩)
        · exact .inr ⟨hvacant, .refused hresolve hfinds⟩
        · exact .inr ⟨hvacant, .kept hresolve hfinds⟩

/-- How a search ends, if something that lasts in the meantime is looked at: it fails, or in its
last call a reference was made to the class that was found, and that reference is kept. -/
inductive Search.Outcome (descriptor : ClassDescriptor) (env : Env) (thread : NativeThread)
    (later : Moment ω → Moment ω → Prop) (first : Moment ω) (exchanges : List (Exchange ω)) :
    Except Error LocalReference → Moment ω → Prop
  | failed {error : Error} {last : Moment ω} (hlater : later first last) :
      Search.Outcome descriptor env thread later first exchanges (.error error) last
  | kept {handle global : Handle} {middle after : Moment ω} (hlater : later first after)
      (hmade : ⟨thread, .env env.pointer (.newGlobalRef handle), some global, middle, after⟩ ∈
        exchanges) :
      Search.Outcome descriptor env thread later first exchanges (.ok (env.own (some handle)))
        ⟨{ after.bridge with
            classes := after.bridge.classes.insert descriptor.key
              ⟨some global, env.lifecycle, env.generation⟩ }, after.outside⟩

theorem Search.Outcome.of_error {later : Moment ω → Moment ω → Prop} {last : Moment ω}
    {exchanges : List (Exchange ω)} {result : Except Error LocalReference} {error : Error}
    (houtcome : Search.Outcome descriptor env thread later first exchanges result last)
    (herror : result = .error error) : later first last := by
  cases houtcome with
  | failed hlater => exact hlater
  | kept => cases herror

/-- What lasts while the class is resolved and during the calls lasts until the search fails, or
until the reference is kept. -/
theorem Search.reaches {allowed : Bridge → Bridge → Prop} [Bridge.Bookkeeping allowed]
    {later : Moment ω → Moment ω → Prop} {exchanges : List (Exchange ω)}
    {result : Except Error LocalReference} {last : Moment ω}
    (htouch : ∀ (bridge : Bridge) owner,
      allowed bridge (bridge.setThread owner ((bridge.thread owner).touch .classLoader)))
    (hrefl : ∀ moment, later moment moment)
    (htrans : ∀ before middle after, later before middle → later middle after →
      later before after)
    (hwrite : ∀ (moment : Moment ω) bridge, allowed moment.bridge bridge →
      later moment ⟨bridge, moment.outside⟩)
    (hsearch : Search descriptor env thread first exchanges result last)
    (hcalls : ∀ exchange ∈ exchanges, later exchange.before exchange.after) :
    Search.Outcome descriptor env thread later first exchanges result last ∧
      ∀ exchange ∈ exchanges, later first exchange.before := by
  have hresolved : ∀ {begun answer middle},
      (descriptor.resolve env).run.Run thread first begun answer middle →
      (∀ exchange ∈ begun, later exchange.before exchange.after) →
      later first middle ∧ ∀ exchange ∈ begun, later first exchange.before :=
    fun hresolve ↦ hresolve.reaches hrefl htrans hwrite (descriptor.writes_resolve env htouch _)
  cases hsearch with
  | unresolved hresolve =>
    obtain ⟨hlast, hbefore⟩ := hresolved hresolve hcalls
    exact ⟨.failed hlast, hbefore⟩
  | refused hresolve hfinds =>
    simp only [List.forall_mem_append, List.forall_mem_cons, List.not_mem_nil,
      IsEmpty.forall_iff, implies_true, and_true] at hcalls ⊢
    obtain ⟨hbegun, hrefused, hdeleted⟩ := hcalls
    obtain ⟨hmiddle, hbefore⟩ := hresolved hresolve hbegun
    have hafter := htrans _ _ _ hmiddle hrefused
    exact ⟨.failed (htrans _ _ _ hafter hdeleted), hbefore, hmiddle, hafter⟩
  | kept hresolve hfinds =>
    simp only [List.forall_mem_append, List.forall_mem_singleton] at hcalls ⊢
    obtain ⟨hmiddle, hbefore⟩ := hresolved hresolve hcalls.1
    exact ⟨.kept (htrans _ _ _ hmiddle hcalls.2) (List.mem_append_right _ List.mem_cons_self),
      hbefore, hmiddle⟩

/-! ## What a look-up hands over -/

/-- Where a look-up may have a handle from: a call was answered with it, or it belongs to something
that the bridge kept for the thread, when the look-up began or after one of its calls, and the
registration of which had not gone when it began. -/
inductive Justified (thread : NativeThread) (first : Moment ω) (exchanges : List (Exchange ω))
    (handle : Handle) : Prop
  | answered {exchange : Exchange ω} (hmem : exchange ∈ exchanges)
      (hanswers : exchange.Answers handle)
  | kept {boundary : Moment ω} {reference : GlobalReference}
      (hboundary : boundary ∈ boundaries first exchanges)
      (hkept : boundary.bridge.Keeps thread.id reference) (hraw : reference.raw = some handle)
      (hlasts : ¬ first.bridge.Past reference.lifecycle reference.generation)

section

variable (thread) (first) (exchanges : List (Exchange ω))

/-- What the bridge keeps was kept at a boundary, or the look-up has put it there itself. -/
def Traced (moment : Moment ω) : Prop :=
  ∀ reference, moment.bridge.Keeps thread.id reference →
    (∃ boundary ∈ boundaries first exchanges, boundary.bridge.Keeps thread.id reference) ∨
      ∀ handle, reference.raw = some handle → Justified thread first exchanges handle

/-- The moments of a look-up. -/
structure During (moment : Moment ω) : Prop where
  advances : first.bridge.Advances moment.bridge
  traced : Traced thread first exchanges moment

/-- What may become of a moment of a look-up. -/
structure Proceeding (before after : Moment ω) : Prop where
  advances : before.bridge.Advances after.bridge
  traced : Traced thread first exchanges before → Traced thread first exchanges after

variable {thread first exchanges} {moment : Moment ω} {bridge : Bridge}

theorem Proceeding.of_keeps (hadvances : moment.bridge.Advances bridge)
    (hkeeps : ∀ reference, bridge.Keeps thread.id reference →
      moment.bridge.Keeps thread.id reference ∨
        ∀ handle, reference.raw = some handle → Justified thread first exchanges handle) :
    Proceeding thread first exchanges moment ⟨bridge, moment.outside⟩ := by
  refine ⟨hadvances, fun htraced reference hkept ↦ ?_⟩
  rcases hkeeps reference hkept with hbefore | hjustified
  · exact htraced reference hbefore
  · exact .inr hjustified

/-- What was kept and belongs to a machine that is registered may be handed to it. -/
theorem During.justified (hduring : During thread first exchanges moment)
    {reference : GlobalReference} (hkept : moment.bridge.Keeps thread.id reference)
    {after : Bridge} (hadvances : first.bridge.Advances after)
    (hlive : after.isLive reference.lifecycle reference.generation = true) {handle : Handle}
    (hraw : reference.raw = some handle) : Justified thread first exchanges handle := by
  have hlasts : ¬ first.bridge.Past reference.lifecycle reference.generation := by
    intro hpast
    cases (hadvances.past hpast).gone.symm.trans hlive
  rcases hduring.traced reference hkept with ⟨boundary, hboundary, hkept⟩ | hjustified
  · exact .kept hboundary hkept hraw hlasts
  · exact hjustified handle hraw

variable (thread first exchanges) in
/-- The setting in which a look-up is followed through its calls. -/
def searching : Setting ω where
  thread := thread
  law exchange := exchange ∈ exchanges ∧ exchange.before.bridge.Advances exchange.after.bridge
  good := During thread first exchanges
  later := Proceeding thread first exchanges
  own _ := Justified thread first exchanges
  known _ := Justified thread first exchanges
  trusts _ := True
  refl moment := ⟨.refl _, id⟩
  trans hfirst hlast := ⟨hfirst.advances.trans hlast.advances, hlast.traced ∘ hfirst.traced⟩
  stays hduring hlater := ⟨hduring.advances.trans hlater.advances, hlater.traced hduring.traced⟩
  call hlaw _ := ⟨hlaw.2, fun _ reference hkept ↦
    .inl ⟨_, List.mem_cons_of_mem _ (List.mem_map_of_mem hlaw.1), hkept⟩⟩
  knows := id
  answer hlaw hanswered := .answered hlaw.1 hanswered
  pointer _ := id
  attached _ := id
  issued _ hissued := fun _ _ _ _ handle hraw ↦ hissued.own handle hraw
  kept hduring hkept := fun _ hafter registration hregistered handle hraw ↦
    hduring.justified hkept hafter.1.advances (Option.isSome_iff_exists.2 ⟨_, hregistered⟩) hraw
  shift _ hshifts := .of_keeps
    ⟨hshifts.generation, fun id _ ↦ .inl ∘ eq_some_of_shift (hshifts.registration id)⟩
    fun _ hkept ↦ .inl (keeps_of_shifts hshifts hkept)
  keepClass key _ _ hissued := by
    refine .of_keeps (.of_registration rfl fun _ ↦ .inr rfl) fun reference hkept ↦ ?_
    refine (keeps_insert hkept).imp_right ?_
    rintro rfl
    exact hissued.own
  keepLoader _ _ hissued hloader := by
    refine .of_keeps (advances_setThread _ _ _) fun reference hkept ↦ ?_
    refine (keeps_setThread hloader hkept).imp_right ?_
    rintro rfl
    exact hissued.own

end

/-- A look-up hands over nothing that belongs to a registration that has gone. -/
theorem ensures_find_justified :
    Ensures (fun exchange : Exchange ω ↦ exchange.before.bridge.Advances exchange.after.bridge)
      thread (descriptor.find env).run first fun exchanges _ _ ↦
        ∀ exchange ∈ exchanges, ∀ vm handle, exchange.request.Passes vm handle →
          Justified thread first exchanges handle := by
  intro exchanges result last hrun hlaw
  have hduring : During thread first exchanges first :=
    ⟨.refl _, fun reference hkept ↦ .inl ⟨first, List.mem_cons_self, hkept⟩⟩
  have hoffers : (searching thread first exchanges).Offers env descriptor.key := by
    intro moment hduring reference husable hkept handle hraw
    have hkeeps : moment.bridge.Keeps thread.id reference := by
      rcases hkept with hclass | hloader
      · exact .classObject descriptor.key hclass
      · exact .loader hloader
    exact hduring.justified hkeeps hduring.advances (Bool.and_eq_true_iff.1 husable).2 hraw
  have hfind : (searching thread first exchanges).Performs env (descriptor.find env)
      ((searching thread first exchanges).Holds env) :=
    Setting.Performs.find trivial hoffers
  obtain ⟨-, hallows, -⟩ := hfind first hduring exchanges result last hrun fun exchange hmem ↦
    ⟨hmem, hlaw exchange hmem⟩
  exact fun exchange hmem ↦ (hallows exchange hmem).2

end JavaInterop
