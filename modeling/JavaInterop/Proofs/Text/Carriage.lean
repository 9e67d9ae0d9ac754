import JavaInterop.Proofs.Callback.Boundary
import JavaInterop.Proofs.Exception.Agreement
import JavaInterop.Proofs.Text.Surrogates

/-!
# Texts that come back

A text leaves native code in three ways: as a string, as the message of an exception that is raised,
and as the message of the exception that a failing callback is reported by.  A machine keeps all of
them as UTF-16 units and gives the characters of a string in modified UTF-8.  Under these conditions
each text is read back as it was, whatever characters it has.

A string that Java has made may be no text.  Reading it then fails, and in any case the characters
that the machine lent out are given back.
-/

namespace JavaInterop

open Program (Ensures)
open Hierarchy (Heap Denoted)
open Text.ModifiedUtf8 (encode encodeUnits decode? decodeUnits?)
open Text.Utf16 (Unpaired ofText toText?)

section

variable [Host] {α β ω : Type} {env : Env}

/-! ## No text is refused -/

/-- The error is not about a zero character in a text. -/
def Error.AllowsZero (error : Error) : Prop := ∀ position, error ≠ .zeroInText position

/-- The operation may fail, but not because a text has a zero character. -/
def TakesZero (operation : Fallible α) : Prop :=
  Always operation.run fun result ↦ ∀ error, result = .error error → error.AllowsZero

namespace TakesZero

variable {operation : Fallible α} {next : α → Fallible β}

theorem done (value : α) : TakesZero (pure value) := by
  rw [TakesZero, ExceptT.run_pure]
  exact Always.done nofun

theorem fail {error : Error} (hallows : error.AllowsZero) :
    TakesZero (throw error : Fallible α) := by
  rw [TakesZero, ExceptT.run_throw]
  refine Always.done ?_
  rintro _ ⟨⟩
  exact hallows

theorem failThen {error : Error} (hallows : error.AllowsZero) :
    TakesZero (throw error >>= next) := by
  rw [TakesZero, Fallible.run_throw_bind]
  refine Always.done ?_
  rintro _ ⟨⟩
  exact hallows

theorem bind (hoperation : TakesZero operation) (hnext : ∀ value, TakesZero (next value)) :
    TakesZero (operation >>= next) := by
  rw [TakesZero, ExceptT.run_bind]
  refine hoperation.after ?_
  rintro (error | value) hresult
  · refine Always.done ?_
    rintro _ ⟨⟩
    exact hresult error rfl
  · exact hnext value

theorem lift {program : Program α} (hnext : ∀ value, TakesZero (next value)) :
    TakesZero (liftM program >>= next) :=
  Always.lift hnext

/-- What follows may rely on what is certain of a result. -/
theorem after {program : Program α} {wanted : α → Prop} (hprogram : Always program wanted)
    (hnext : ∀ value, wanted value → TakesZero (next value)) :
    TakesZero (liftM program >>= next) := by
  rw [TakesZero, Fallible.run_lift_bind]
  exact hprogram.after hnext

theorem scope {reference : LocalReference} {body : Fallible α} (hbody : TakesZero body) :
    TakesZero (reference.scope body) :=
  Always.thenAlways hbody

theorem nonNull (reference : Option α) (place : String) :
    TakesZero (Fallible.nonNull reference place) := by
  cases reference with
  | none => exact fail nofun
  | some present => exact done present

/-! ### The inspection of a thrown object -/

theorem inspectionFailed (call : String) :
    Always (env.inspectionFailed call) Error.AllowsZero := by
  refine Always.bind fun pending ↦ ?_
  cases pending with
  | false => exact Always.done nofun
  | true => exact Always.bind fun _ ↦ Always.bind fun _ ↦ Always.done nofun

theorem failInspection (call : String) :
    TakesZero (do throw (← env.inspectionFailed call) : Fallible α) :=
  after (inspectionFailed call) fun _ hallows ↦ fail hallows

theorem readString (string : Handle) : Always (env.readString string) fun content ↦
    ∀ error, content = some (.error error) → error.AllowsZero := by
  refine Always.bind fun chars ↦ ?_
  cases chars with
  | none => exact Always.done nofun
  | some chars =>
    refine Always.bind fun _ ↦ Always.done ?_
    intro error herror
    split at herror
    · cases herror
    · cases herror
      exact nofun

theorem callStringMethod (object : Handle) (className method : String) :
    TakesZero (env.callStringMethod object className method) := by
  refine lift fun classObject ↦ ?_
  cases classObject with
  | none => exact failInspection method
  | some classObject =>
    refine scope (lift fun methodId ↦ ?_)
    cases methodId with
    | none => exact failInspection method
    | some methodId =>
      refine lift fun answer ↦ lift fun pending ↦ ?_
      cases pending with
      | true =>
        rw [if_pos rfl]
        exact after (inspectionFailed method) fun error hallows ↦ failThen hallows
      | false =>
        cases answer with
        | none => exact done none
        | some string =>
          refine scope (after (readString string) ?_)
          rintro (_ | error | text) hcontent
          · exact failInspection method
          · exact fail (hcontent error rfl)
          · exact done (some text)

/-- A step of a walk, or a whole one, that does not fail because of a zero character. -/
def Walks (source : ExceptT Error (StateT (Option Handle) Program) α) : Prop :=
  ∀ current, Always (source.run.run current) fun answer ↦
    ∀ error, answer.1 = .error error → error.AllowsZero

theorem Walks.done (value : α) :
    Walks (pure value : ExceptT Error (StateT (Option Handle) Program) α) :=
  fun _ ↦ Always.done nofun

theorem Walks.bind {source : ExceptT Error (StateT (Option Handle) Program) α}
    {next : α → ExceptT Error (StateT (Option Handle) Program) β} (hsource : Walks source)
    (hnext : ∀ value, Walks (next value)) : Walks (source >>= next) := by
  intro current
  rw [Fallible.run_stateful_bind]
  refine (hsource current).after ?_
  rintro ⟨error | value, rest⟩ hanswer
  · refine Always.done ?_
    rintro _ ⟨⟩
    exact hanswer error rfl
  · exact hnext value rest

theorem ancestry : Walks env.ancestry := by
  rintro (_ | classObject)
  · exact Always.done nofun
  · refine Always.after (callStringMethod classObject "java/lang/Class" "getName") ?_
    rintro (error | _ | name) hresult
    · refine Always.bind fun _ ↦ Always.done ?_
      rintro _ ⟨⟩
      exact hresult error rfl
    · refine (inspectionFailed "getName").after fun error hallows ↦ Always.bind fun _ ↦ ?_
      refine Always.done ?_
      rintro _ ⟨⟩
      exact hallows
    · exact Always.bind fun _ ↦ Always.bind fun _ ↦ Always.done nofun

theorem walk (registry : Registry) (className name : String) (remaining : Nat) :
    Walks (JavaInterop.walk registry env.ancestry className remaining name) := by
  induction remaining generalizing name with
  | zero =>
    unfold JavaInterop.walk
    split
    · exact .done _
    · split
      · exact .done _
      · intro current
        refine Always.done ?_
        rintro _ ⟨⟩
        exact nofun
  | succ remaining ih =>
    unfold JavaInterop.walk
    split
    · exact .done _
    · split
      · exact .done _
      · refine ancestry.bind ?_
        rintro (_ | next)
        · exact .done _
        · exact ih next

theorem resolveThrown (registry : Registry) (throwable : Handle) :
    TakesZero (env.resolveThrown registry throwable) := by
  refine lift fun classObject ↦ ?_
  cases classObject with
  | none => exact failInspection _
  | some classObject =>
    have hresolve : Walks (JavaInterop.resolve registry env.ancestry) := by
      refine ancestry.bind ?_
      rintro (_ | className) current
      · refine Always.done ?_
        rintro _ ⟨⟩
        exact nofun
      · exact walk registry className className _ current
    refine (hresolve _).after ?_
    rintro ⟨resolution, rest⟩ hanswer
    exact Always.bind fun _ ↦ Always.done hanswer

theorem throwResolved (throwable : Handle) (resolution : Resolution) (message : Option String) :
    TakesZero (env.throwResolved throwable resolution message) := by
  cases resolution with
  | unmatched className => exact fail nofun
  | matched factory className =>
    have hglobal : TakesZero (env.newGlobal throwable) := by
      refine (nonNull _ _).bind fun object ↦ lift fun reply ↦ ?_
      cases reply with
      | none => exact fail nofun
      | some handle => exact done _
    have hthrown : ∀ reference,
        TakesZero (throw (factory.thrown reference className message) :
          Fallible Unit) := by
      intro reference
      cases factory with
      | proxy type => exact fail nofun
      | refusing descriptor tag => exact fail nofun
    refine hglobal.bind fun reference ↦ ?_
    dsimp only
    split
    · exact lift fun _ ↦ hthrown reference
    · exact hthrown reference

theorem catchPending : TakesZero env.catchPending := by
  refine lift fun bridge ↦ lift fun reply ↦ ?_
  cases reply with
  | none => exact done ()
  | some throwable =>
    refine lift fun _ ↦ scope ?_
    refine (resolveThrown bridge.registry throwable).bind fun resolution ↦ lift fun message ↦ ?_
    exact throwResolved throwable resolution message

/-- Every text can be made a string, zero characters included. -/
theorem newString (content : String) : TakesZero (env.newString content) := by
  refine lift fun answer ↦ catchPending.bind fun _ ↦ ?_
  exact (nonNull _ _).bind fun string ↦ done _

end TakesZero

/-! ## Strings -/

/-- What is relied on where strings are made and read.  The machine keeps the units that are written
for a new string, and it tells the units that it keeps. -/
def KeepsStrings (units : ω → Handle → Option (List UInt16)) (exchange : Exchange ω) : Prop :=
  match exchange with
  | ⟨_, .env _ (.newString content), reply, _, after⟩ => ∀ string held, reply = some string →
      decodeUnits? content.bytes = some held → units after.outside string = some held
  | ⟨_, .env _ (.getStringChars string), reply, before, _⟩ => ∀ chars held, reply = some chars →
      units before.outside string = some held → chars.bytes = encodeUnits held
  | ⟨_, .env _ .exceptionOccurred, reply, before, after⟩ =>
      reply = none → units after.outside = units before.outside
  | _ => True

/-- The machine gives nothing when it is asked for a string or for its characters, or it has raised
an exception. -/
def Exchange.Withholds (exchange : Exchange ω) : Prop :=
  match exchange with
  | ⟨_, .env _ (.newString _), reply, _, _⟩ => reply = none
  | ⟨_, .env _ (.getStringChars _), reply, _, _⟩ => reply = none
  | ⟨_, .env _ .exceptionOccurred, reply, _, _⟩ => reply ≠ none
  | _ => False

/-- What reading a string with these units gives. -/
def reading (held : List UInt16) : Except Error String :=
  match toText? held with
  | some text => .ok text
  | none => .error (.bridge "The VM returned a string that isn't modified UTF-8")

omit [Host] in
/-- A text is read exactly from its own units. -/
theorem reading_eq_ok_iff {held : List UInt16} {text : String} :
    reading held = .ok text ↔ ofText text = held := by
  rw [← Text.Utf16.toText?_eq_some_iff, reading]
  cases toText? held with
  | none => exact iff_of_false nofun nofun
  | some other => rw [Except.ok.injEq, Option.some.injEq]

omit [Host] in
theorem reading_ofText (text : String) : reading (ofText text) = .ok text :=
  reading_eq_ok_iff.2 rfl

omit [Host] in
/-- Units without half a pair are read as the text that they belong to. -/
theorem exists_reading {held : List UInt16} (hpaired : ∀ position, ¬ Unpaired held position) :
    ∃ text, reading held = .ok text ∧ ofText text = held := by
  cases htext : toText? held with
  | none =>
    obtain ⟨position, hunpaired⟩ := Text.Utf16.toText?_eq_none_iff.1 htext
    exact absurd hunpaired (hpaired position)
  | some text =>
    have hunits : ofText text = held := Text.Utf16.toText?_eq_some_iff.1 htext
    exact ⟨text, reading_eq_ok_iff.2 hunits, hunits⟩

omit [Host] in
theorem reading_of_unpaired {held : List UInt16} {position : Nat}
    (hunpaired : Unpaired held position) :
    reading held = .error (.bridge "The VM returned a string that isn't modified UTF-8") := by
  rw [reading, Text.Utf16.toText?_eq_none_iff.2 ⟨position, hunpaired⟩]

section

variable {units : ω → Handle → Option (List UInt16)} {thread : NativeThread} {first : Moment ω}

/-- Reading a string asks for its characters and gives them back, whether they are a text or not. -/
theorem ensures_getString {string : Handle} {held : List UInt16}
    (hheld : units first.outside string = some held) :
    Ensures (KeepsStrings units) thread (env.getString string).run first
      fun exchanges result _ ↦ result = reading held ∧
        exchanges.map Exchange.request = [.env env.pointer (.getStringChars string),
          .env env.pointer (.releaseStringChars string)] ∨
        Failed result ∧ ∃ exchange ∈ exchanges, exchange.Withholds := by
  unfold Env.getString Fallible.nonNull
  rw [pure_bind, Fallible.ensures_liftThen]
  unfold Env.readString
  rw [Program.ensures_bind, Env.perform, Program.ensures_perform]
  rintro (_ | chars) after hlaw
  · rw [Program.ensures_pure]
    refine (Always.andThen (fun _ ↦ Always.throw) ω _ thread after).weaken ?_
    rintro rest result last hfailed
    exact .inr ⟨hfailed, _, List.mem_cons_self, rfl⟩
  · have hchars : decode? chars.bytes = toText? held := by
      rw [show chars.bytes = encodeUnits held from hlaw chars held rfl hheld,
        Text.ModifiedUtf8.decode?_encodeUnits]
    dsimp only
    rw [hchars, Program.ensures_bind, Env.perform, Program.ensures_perform]
    intro _ last _
    rw [Program.ensures_pure]
    unfold reading
    cases toText? held with
    | none => exact Fallible.ensures_throw.2 (.inl ⟨rfl, rfl⟩)
    | some text => exact Fallible.ensures_pure.2 (.inl ⟨rfl, rfl⟩)

/-- A new string has the units of its text. -/
theorem ensures_newString (content : String) :
    Ensures (KeepsStrings units) thread (env.newString content).run first
      fun exchanges result last ↦ (∃ string, result = .ok (env.own (some string)) ∧
        units last.outside string = some (ofText content)) ∨
        Failed result ∧ ∃ exchange ∈ exchanges, exchange.Withholds := by
  have hunits : decodeUnits? (encode content).bytes = some (ofText content) :=
    Text.ModifiedUtf8.decodeUnits?_encodeUnits _
  unfold Env.newString
  rw [Fallible.ensures_liftThen, Env.perform, Program.ensures_perform]
  intro answer made hmade
  rw [Fallible.ensures_bind]
  refine ensures_catchPending_cases (fun calm hcalm ↦ ?_) fun throwable _ rest error last _ ↦ ?_
  · rw [Fallible.continues_ok]
    cases answer with
    | none =>
      rw [Fallible.nonNull, Fallible.run_throw_bind, Program.ensures_pure]
      exact .inr ⟨failed_error _, _, List.mem_cons_self, rfl⟩
    | some string =>
      rw [Fallible.nonNull, pure_bind]
      refine Fallible.ensures_pure.2 (.inl ⟨string, rfl, ?_⟩)
      rw [show units calm.outside = units made.outside from hcalm rfl]
      exact hmade string _ rfl hunits
  · exact .inr ⟨failed_error error, _, List.mem_cons_of_mem _ List.mem_cons_self,
      Option.some_ne_none throwable⟩

/-- A text that is made a string is read back from it. -/
theorem ensures_newString_getString (content : String) :
    Ensures (KeepsStrings units) thread (do
        let string ← env.newString content
        env.getString string.raw : Fallible String).run first
      fun exchanges result _ ↦ result = .ok content ∨
        Failed result ∧ ∃ exchange ∈ exchanges, exchange.Withholds := by
  rw [Fallible.ensures_bind]
  refine (ensures_newString content).weaken ?_
  rintro begun _ middle (⟨string, rfl, hheld⟩ | ⟨⟨error, rfl⟩, hcause⟩)
  · rw [Fallible.continues_ok]
    refine (ensures_getString hheld).weaken ?_
    rintro rest result last (⟨rfl, -⟩ | ⟨hfailed, exchange, hmem, hcause⟩)
    · exact .inl (reading_ofText content)
    · exact .inr ⟨hfailed, exchange, List.mem_append_right _ hmem, hcause⟩
  · exact .inr ⟨failed_error error, hcause⟩

end

/-! ## Messages -/

section

variable {platform : Platform}

/-- What is relied on where exceptions are raised with a message and caught, on a thread of the
machine `caller`.  The machine finds the class `thrown` under its internal name, the message of a
new exception is the text whose units are written for it, and the characters of a string are given
unit by unit. -/
def Exchange.Transcribes (caller : VmId) (internalName : String) (thrown : platform.Class)
    (exchange : Exchange platform.toHierarchy.Heap) : Prop :=
  match exchange with
  | ⟨_, .env _ (.throwNew classObject content), reply, before, after⟩ =>
      before.outside.pending = none → ∀ handle known text, classObject = some handle →
      before.outside.live.find? handle = some (.classObject known) →
      (known = thrown ∨ known = platform.runtime) →
      decodeUnits? content.bytes = some (ofText text) →
      reply = .ok () ∧ after.outside.live = before.outside.live ∧
        ∃ object, after.outside.pending = some object ∧ platform.classOf object = known ∧
          platform.message object = some text
  | ⟨_, .env _ (.getStringChars string), reply, before, after⟩ =>
      (before.outside.pending = none → ∀ content,
        before.outside.live.find? string = some (.string content) →
        (∃ chars, reply = some chars ∧ chars.bytes = encodeUnits (ofText content)) ∧
          after.outside = before.outside) ∧
      ∀ object, before.outside.pending = some object → after.outside.pending = some object
  | ⟨_, .env _ (.findClass name), reply, before, after⟩ =>
      exchange.Complies caller ∧ exchange.Obeys ∧ (before.outside.pending = none →
        Text.CString.ofText internalName = .ok name →
        before.outside.Offers after.outside reply (some (.classObject thrown)))
  | exchange => exchange.Complies caller ∧ exchange.Obeys

variable {caller : VmId} {internalName : String} {thrown : platform.Class}

namespace Exchange.Transcribes

variable {exchange : Exchange platform.toHierarchy.Heap}

theorem complies (hlaw : exchange.Transcribes caller internalName thrown) :
    exchange.Complies caller := by
  obtain ⟨running, request, reply, before, after⟩ := exchange
  cases request with
  | env pointer function =>
    cases function with
    | throwNew classObject content =>
      refine ⟨fun hcalm handle text hhandle hclass hcontent ↦ ?_,
        fun _ _ hreplaces ↦ absurd trivial hreplaces⟩
      subst hcontent
      exact hlaw hcalm handle platform.runtime text hhandle hclass (.inr rfl)
        (Text.ModifiedUtf8.decodeUnits?_encodeUnits _)
    | getStringChars string =>
      exact ⟨fun _ ↦ trivial, fun object hpending _ ↦ hlaw.2 object hpending⟩
    | _ => exact hlaw.1
  | _ => exact hlaw.1

theorem obeys (hlaw : exchange.Transcribes caller internalName thrown) : exchange.Obeys := by
  obtain ⟨running, request, reply, before, after⟩ := exchange
  cases request with
  | env pointer function =>
    cases function with
    | throwNew classObject content => exact fun _ ↦ trivial
    | getStringChars string =>
      intro hcalm content hstring _
      obtain ⟨⟨chars, hreply, hchars⟩, hsame⟩ := hlaw.1 hcalm content hstring
      refine ⟨⟨chars, hreply, ?_⟩, hsame⟩
      rw [hchars]
      exact Text.ModifiedUtf8.decode?_encode content
    | findClass name => exact hlaw.2.1
    | _ => exact hlaw.2
  | _ => exact hlaw.2

end Exchange.Transcribes

variable {thread : NativeThread} {first : Moment platform.toHierarchy.Heap}

/-- A new exception of the class is pending, and it has this message. -/
theorem ensures_raiseNew_pending {name : Text.CString} (content : String)
    (hname : Text.CString.ofText internalName = .ok name)
    (hcalm : first.outside.pending = none) :
    Ensures (Exchange.Transcribes caller internalName thrown) thread
      (env.raiseNew internalName content).run first fun _ result last ↦ result = .ok () ∧
        ∃ object, last.outside.pending = some object ∧ platform.classOf object = thrown ∧
          platform.message object = some content := by
  have hcomplies : ∀ exchange : Exchange platform.toHierarchy.Heap,
      exchange.Transcribes caller internalName thrown → exchange.Complies caller :=
    fun _ ↦ Exchange.Transcribes.complies
  unfold Env.raiseNew Env.findClass Fallible.ended
  rw [hname]
  simp only [pure_bind, bind_assoc]
  rw [Fallible.ensures_liftThen, Env.perform, Program.ensures_perform]
  intro reply found hfound
  obtain ⟨classObject, rfl, hgains⟩ := Heap.Offers.gains (hfound.2.2 hcalm hname)
  have hcalm' : found.outside.pending = none := hgains.grows.pending.trans hcalm
  rw [Fallible.ensures_bind]
  refine (Platform.ensures_catchPending.strict hcomplies).weaken ?_
  rintro begun result middle (⟨-, rfl, hsame⟩ | ⟨⟨object, hobject⟩, -⟩)
  · rw [Fallible.continues_ok, Fallible.nonNull]
    simp only [pure_bind]
    unfold LocalReference.scope
    rw [Fallible.ensures_thenAlways, Fallible.ensures_liftThen, Env.perform,
      Program.ensures_perform]
    intro answer raised hraised
    obtain ⟨rfl, -, object, hobject, hclass, hmessage⟩ := hraised (hsame ▸ hcalm') classObject
      thrown content rfl (hsame ▸ hgains.live) (.inl rfl)
      (Text.ModifiedUtf8.decodeUnits?_encodeUnits _)
    refine Fallible.ensures_pure.2 ?_
    refine ((Platform.ensures_deleteLocal classObject).strict hcomplies).weaken ?_
    intro _ _ last hforgets
    exact ⟨rfl, object, hforgets.pending.trans hobject, hclass, hmessage⟩
  · rw [hcalm'] at hobject
    cases hobject

/-- The error holds an exception of this class with this message. -/
def Error.Holds (error : Error) (className content : String) : Prop :=
  ∃ proxy, error = .javaException ⟨className, some content, proxy⟩

/-- The registry of the process stays as it is. -/
def Bridge.SameRegistry (before after : Bridge) : Prop := after.registry = before.registry

omit [Host] in
instance : Bridge.Bookkeeping Bridge.SameRegistry where
  attached _ _ _ := rfl
  pending _ _ _ := rfl

/-- What is relied on where an exception is raised and caught: besides, no factory is enlisted
meanwhile. -/
structure Exchange.Echoes (caller : VmId) (internalName : String) (thrown : platform.Class)
    (exchange : Exchange platform.toHierarchy.Heap) : Prop where
  transcribes : exchange.Transcribes caller internalName thrown
  registry : exchange.before.bridge.SameRegistry exchange.after.bridge

/-- Raising an exception enlists nothing. -/
theorem ensures_raiseNew_registry (content : String) :
    Ensures (Exchange.Echoes caller internalName thrown) thread
      (env.raiseNew internalName content).run first fun _ _ last ↦
        first.bridge.SameRegistry last.bridge := by
  have hwrites : (env.raiseNew internalName content).Writes Bridge.SameRegistry := by
    refine .andThen (env.writes_findClass _) fun classObject ↦ .scope ?_ classObject
    exact .liftThen (env.writes_perform _) fun status ↦ .ofStatus status _
  intro exchanges result last hrun hlaw
  refine hrun.writes (fun _ ↦ rfl) (fun _ _ _ hbefore hafter ↦ hafter.trans hbefore)
    (hwrites first.bridge) fun exchange hmem ↦ (hlaw exchange hmem).registry

/-- A message that an exception is raised with is the message of the exception that is caught, if a
factory for one of its classes is enlisted. -/
theorem ensures_raiseNew_catchPending {name : Text.CString} {names : List String}
    (content : String) (hname : Text.CString.ofText internalName = .ok name)
    (hproxies : ∀ factory ∈ first.bridge.registry.factories, ∃ type, factory = .proxy type)
    (hdecided : platform.Decided first.bridge.registry thrown names (maxAncestors - 1))
    (hknown : ∃ known ∈ names, first.bridge.registry.lookup known ≠ none)
    (hcalm : first.outside.pending = none) :
    Ensures (Exchange.Echoes caller internalName thrown) thread (do
        env.raiseNew internalName content
        env.catchPending : Fallible Unit).run first
      fun exchanges result _ ↦ ∃ error, result = .error error ∧
        (error.Holds (platform.name thrown) content ∨
          error = .globalReferencesExhausted ∧
            ∃ exchange ∈ exchanges, exchange.request.Refused exchange.reply) := by
  rw [Fallible.ensures_bind]
  refine (((ensures_raiseNew_pending content hname hcalm).strict fun _ ↦
    Exchange.Echoes.transcribes).and (ensures_raiseNew_registry content)).weaken ?_
  rintro begun _ middle ⟨⟨rfl, object, hobject, rfl, hmessage⟩, hregistry⟩
  rw [Fallible.continues_ok, Env.catchPending, Fallible.ensures_liftThen, Program.ensures_state,
    show middle.bridge.registry = first.bridge.registry from hregistry]
  refine ((ensures_catchWith_decided hproxies hobject hdecided).strict
    fun _ hlaw ↦ hlaw.transcribes.obeys).weaken ?_
  rintro rest _ last ⟨error, rfl, -, hstands⟩
  refine ⟨error, rfl, ?_⟩
  cases hnearest : names.findSome? first.bridge.registry.lookup with
  | none =>
    obtain ⟨known, hmem, hlookup⟩ := hknown
    exact absurd (List.findSome?_eq_none_iff.1 hnearest known hmem) hlookup
  | some factory =>
    rw [hnearest] at hstands
    rcases hstands with ⟨type, handle, -, rfl, -⟩ | ⟨rfl, exchange, hmem, hoffers⟩
    · exact .inl ⟨_, by rw [hmessage]⟩
    · exact .inr ⟨rfl, exchange, List.mem_append_right _ hmem, hoffers.refused⟩

/-- A failing callback is reported to Java with the whole text of its error. -/
theorem run_invokeNative_reports {run : CallbackRunner} {pointer : EnvPointer} {table : Int64}
    {index : Int32} {receiver array : Option Handle} {callback : Host.Callback}
    (hroute : first.bridge.route pointer table index = .ok (callback, env))
    {exchanges : List (Exchange platform.toHierarchy.Heap)} {result : Option Handle}
    {last : Moment platform.toHierarchy.Heap}
    (hrun : (invokeNative run pointer table index receiver array).Run thread first exchanges result
      last) :
    ∃ begun outcome middle rest, exchanges = begun ++ rest ∧
      (run callback env receiver ⟨env, array⟩).Run thread first begun outcome middle ∧
      ∀ error, outcome = .failed error →
        (∀ exchange ∈ rest, exchange.Transcribes pointer.vm internalName thrown) →
        Platform.Throws result last.outside
          s!"Exception during native execution: {error.message}" := by
  rw [run_invokeNative, hroute] at hrun
  obtain ⟨begun, outcome, middle, rest, hbegun, hrest, rfl⟩ := Program.Run.of_bind hrun
  refine ⟨begun, outcome, middle, rest, rfl, hbegun, ?_⟩
  rintro error rfl hlaw
  exact Platform.ensures_answerFailed error rest result last hrest
    fun exchange hmem ↦ (hlaw exchange hmem).complies

end

/-! ## All texts -/

/-- How texts come back.  Strings and messages are what they were, whatever characters they have;
strings that are no texts are not read, and the characters of a string are given back in any
case. -/
structure TextsReturn (env : Env) (thread : NativeThread) : Prop where
  /-- No text is refused for a zero character. -/
  taken : ∀ content, TakesZero (env.newString content)
  /-- A string is read back as it was made. -/
  string : ∀ {ω : Type} (units : ω → Handle → Option (List UInt16)) (first : Moment ω) content,
    Ensures (KeepsStrings units) thread (do
        let string ← env.newString content
        env.getString string.raw : Fallible String).run first
      fun exchanges result _ ↦ result = .ok content ∨
        Failed result ∧ ∃ exchange ∈ exchanges, exchange.Withholds
  /-- Any units are read as the text that they belong to, or not at all. -/
  read : ∀ {ω : Type} (units : ω → Handle → Option (List UInt16)) (first : Moment ω) string held,
    units first.outside string = some held →
    Ensures (KeepsStrings units) thread (env.getString string).run first
      fun exchanges result _ ↦
        ((∀ position, ¬ Unpaired held position) → ∃ text, result = .ok text ∧
          ofText text = held) ∧
        (∀ position, Unpaired held position → result =
          .error (.bridge "The VM returned a string that isn't modified UTF-8")) ∧
        exchanges.map Exchange.request = [.env env.pointer (.getStringChars string),
          .env env.pointer (.releaseStringChars string)] ∨
        Failed result ∧ ∃ exchange ∈ exchanges, exchange.Withholds
  /-- An exception is caught with the message that it was raised with. -/
  message : ∀ {platform : Platform} {caller : VmId} {internalName : String}
    {thrown : platform.Class} {name : Text.CString} {names : List String}
    (first : Moment platform.toHierarchy.Heap) content,
    Text.CString.ofText internalName = .ok name →
    (∀ factory ∈ first.bridge.registry.factories, ∃ type, factory = .proxy type) →
    platform.Decided first.bridge.registry thrown names (maxAncestors - 1) →
    (∃ known ∈ names, first.bridge.registry.lookup known ≠ none) →
    first.outside.pending = none →
    Ensures (Exchange.Echoes caller internalName thrown) thread (do
        env.raiseNew internalName content
        env.catchPending : Fallible Unit).run first
      fun exchanges result _ ↦ ∃ error, result = .error error ∧
        (error.Holds (platform.name thrown) content ∨
          error = .globalReferencesExhausted ∧
            ∃ exchange ∈ exchanges, exchange.request.Refused exchange.reply)
  /-- The failure of a callback is thrown with the whole text of its error. -/
  failure : ∀ {platform : Platform} {internalName : String} {thrown : platform.Class}
    {run : CallbackRunner} {pointer : EnvPointer} {table : Int64} {index : Int32}
    {receiver array : Option Handle} {callback : Host.Callback}
    {first : Moment platform.toHierarchy.Heap},
    first.bridge.route pointer table index = .ok (callback, env) →
    ∀ exchanges result last,
      (invokeNative run pointer table index receiver array).Run thread first exchanges result
        last →
      ∃ begun outcome middle rest, exchanges = begun ++ rest ∧
        (run callback env receiver ⟨env, array⟩).Run thread first begun outcome middle ∧
        ∀ error, outcome = .failed error →
          (∀ exchange ∈ rest, exchange.Transcribes pointer.vm internalName thrown) →
          Platform.Throws result last.outside
            s!"Exception during native execution: {error.message}"

/-- All texts come back as they were. -/
theorem Env.texts_return (env : Env) (thread : NativeThread) : TextsReturn env thread where
  taken := TakesZero.newString
  string _ _ content := ensures_newString_getString content
  read units first string held hheld := by
    refine (ensures_getString hheld).weaken ?_
    rintro exchanges _ last (⟨rfl, hexchanges⟩ | hwithheld)
    · exact .inl ⟨exists_reading, fun _ ↦ reading_of_unpaired, hexchanges⟩
    · exact .inr hwithheld
  message _ content hname hproxies hdecided hknown hcalm :=
    ensures_raiseNew_catchPending content hname hproxies hdecided hknown hcalm
  failure hroute _ _ _ hrun := run_invokeNative_reports hroute hrun

end

/-! ## A message with any characters -/

namespace Sample

/-- A registry with a factory for all exceptions. -/
def throwables : Registry := ⟨[.proxy (.lang "Throwable")], by simp⟩

/-- Nothing is pending. -/
def catching [Host] : Moment platform.toHierarchy.Heap :=
  ⟨{ bridge with registry := throwables }, none, .empty⟩

/-- How the machine answers while nothing is refused. -/
structure Echoing [Host] (exchange : Exchange platform.toHierarchy.Heap) : Prop where
  echoes : exchange.Echoes vm "java/lang/RuntimeException" platform.runtime
  granted : ¬ exchange.request.Refused exchange.reply

theorem exists_echoing [Host] (request : Call) (before : Moment platform.toHierarchy.Heap) :
    ∃ reply after, Echoing ⟨thread, request, reply, before, after⟩ := by
  obtain ⟨reply, heap, hanswers⟩ := exists_answers true before.outside request
  have hkeep : ∀ {reply : request.Reply} {heap : platform.toHierarchy.Heap},
      Exchange.Transcribes vm "java/lang/RuntimeException" platform.runtime
        ⟨thread, request, reply, before, ⟨before.bridge, heap⟩⟩ → ¬ request.Refused reply →
      ∃ reply after, Echoing ⟨thread, request, reply, before, after⟩ :=
    fun hlaw hgranted ↦ ⟨_, _, ⟨hlaw, rfl⟩, hgranted⟩
  cases request with
  | env pointer function =>
    cases function with
    | throwNew classObject content =>
      by_cases hknown : ∃ text, decodeUnits? content.bytes = some (ofText text)
      · obtain ⟨text, htext⟩ := hknown
        refine @hkeep (.ok ()) { before.outside with pending := some (.failure text) } ?_ id
        rintro - handle known other - - hclass hother
        obtain rfl : text = other :=
          Text.Utf16.ofText_injective (Option.some.inj (htext.symm.trans hother))
        obtain rfl : known = platform.runtime := hclass.elim id id
        exact ⟨rfl, rfl, _, rfl, rfl, rfl⟩
      · refine @hkeep (.ok ()) before.outside ?_ id
        rintro - handle known other - - - hother
        exact absurd ⟨other, hother⟩ hknown
    | getStringChars string =>
      by_cases hknown : ∃ content, before.outside.live.find? string = some (.string content)
      · obtain ⟨content, hstring⟩ := hknown
        refine @hkeep (some (encode content)) before.outside
          ⟨fun _ other hother ↦ ?_, fun _ ↦ id⟩ id
        cases hstring.symm.trans hother
        exact ⟨⟨_, rfl, rfl⟩, rfl⟩
      · refine @hkeep none before.outside ⟨fun _ other hother ↦ ?_, fun _ ↦ id⟩ id
        exact absurd ⟨other, hother⟩ hknown
    | findClass name =>
      refine hkeep ⟨hanswers.complies, hanswers.obeys rfl, fun hcalm hname ↦ ?_⟩ hanswers.granted
      have hencoded : Text.CString.ofText "java/lang/RuntimeException" =
          .ok (encode "java/lang/RuntimeException") := by decide +kernel
      exact (hanswers.complies.1 hcalm).1 (Except.ok.inj (hname.symm.trans hencoded))
    | _ => exact hkeep ⟨hanswers.complies, hanswers.obeys rfl⟩ hanswers.granted
  | _ => exact hkeep ⟨hanswers.complies, hanswers.obeys rfl⟩ hanswers.granted

/-- The names of the class of failures and of those above it, without the root. -/
def failureNames : List String :=
  ["java/lang/RuntimeException", "java/lang/Exception", "java/lang/Throwable"].map platform.name

/-- Two classes are missed before the walk comes to the one that has a factory. -/
theorem decided_throwables :
    platform.Decided throwables platform.runtime failureNames (maxAncestors - 1) := by
  have hfailure : platform.name "java/lang/RuntimeException" ≠ rootClass ∧
      throwables.lookup (platform.name "java/lang/RuntimeException") = none := by
    decide +kernel
  have hexception : platform.name "java/lang/Exception" ≠ rootClass ∧
      throwables.lookup (platform.name "java/lang/Exception") = none := by
    decide +kernel
  have hthrowable : platform.name "java/lang/Throwable" ≠ rootClass ∧
      throwables.lookup (platform.name "java/lang/Throwable") =
        some (.proxy (.lang "Throwable")) := by
    decide +kernel
  exact .missed hfailure.1 hfailure.2 rfl (.missed hexception.1 hexception.2 rfl
    (.found hthrowable.1 hthrowable.2))

end Sample

/-- A message with a zero character and one above `U+FFFF` is caught as it was raised. -/
theorem Env.texts_return_zero :
    let _ := Sample.host
    ∃ (exchanges : List (Exchange Sample.platform.toHierarchy.Heap)) (proxy : Proxy)
      (last : Moment Sample.platform.toHierarchy.Heap),
      (do
        Sample.env.raiseNew "java/lang/RuntimeException" "a\x00😀"
        Sample.env.catchPending : Fallible Unit).run.Run Sample.thread Sample.catching exchanges
          (.error (.javaException ⟨"java.lang.RuntimeException", some "a\x00😀", proxy⟩)) last := by
  intro _
  obtain ⟨exchanges, result, last, hrun, hlaw⟩ := @Program.exists_run _ _ _ Sample.thread
    Sample.catching (do
      Sample.env.raiseNew "java/lang/RuntimeException" "a\x00😀"
      Sample.env.catchPending : Fallible Unit).run Sample.Echoing Sample.exists_echoing
  have hname : Text.CString.ofText "java/lang/RuntimeException" =
      .ok (encode "java/lang/RuntimeException") := by decide +kernel
  have hproxies : ∀ factory ∈ Sample.throwables.factories, ∃ type, factory = .proxy type := by
    simp [Sample.throwables]
  have hknown : ∃ known ∈ Sample.failureNames, Sample.throwables.lookup known ≠ none :=
    ⟨Sample.platform.name "java/lang/Throwable", .tail _ (.tail _ (.head _)), by decide +kernel⟩
  obtain ⟨error, rfl, hmessage⟩ := (Env.texts_return Sample.env Sample.thread).message
    Sample.catching "a\x00😀" hname hproxies Sample.decided_throwables hknown rfl exchanges result
    last hrun fun exchange hmem ↦ (hlaw exchange hmem).echoes
  rcases hmessage with ⟨proxy, rfl⟩ | ⟨-, exchange, hmem, hrefused⟩
  · rw [Sample.platform.name_runtime] at hrun
    exact ⟨exchanges, proxy, last, hrun⟩
  · exact absurd hrefused (hlaw exchange hmem).granted

end JavaInterop
