import JavaInterop.Proofs.Class.Recognition
import JavaInterop.Proofs.Lifecycle.Admission
import JavaInterop.Proofs.Text.Plain

/-!
# Texts that are handed to a machine

A machine reads texts in modified UTF-8.  The content of a new string, the message of a new
exception and the name of a thread are written so, and they are read as they are.

The names of classes, and the names and signatures of methods, are written in plain UTF-8.  One with
a zero character is refused before any call is made, and the others are read as they are as long as
no character of them is above `U+FFFF`; otherwise they are not read at all.  So the two ways to find
the class of a descriptor agree on its name under the same condition, since the name goes to a class
loader as the content of a string.
-/

namespace JavaInterop

open Program (Ensures)
open Fallible (Yields)

variable [Host] {ω α β : Type}

/-- The first call of a run asks the environment for such a function. -/
def Begins (env : Env) (asks : EnvFunction → Prop) (exchanges : List (Exchange ω)) : Prop :=
  ∃ exchange rest function, exchanges = exchange :: rest ∧
    exchange.request = .env env.pointer function ∧ asks function

/-- An operation hands something over with its first call.  If it is refused, the operation fails
without a call. -/
structure Delivers (env : Env) (refused : Prop) (asks : EnvFunction → Prop)
    (exchanges : List (Exchange ω)) (result : Except Error α) : Prop where
  silent : refused → exchanges = [] ∧ Failed result
  begins : ¬ refused → Begins env asks exchanges

variable {law : Exchange ω → Prop} {thread : NativeThread} {first : Moment ω} {env : Env}
  {refused : Prop} {asks : EnvFunction → Prop}

/-! ## The first call -/

theorem ensures_perform_begins {function : EnvFunction} {next : function.Reply → Fallible α}
    (hrefused : ¬ refused) (hasks : asks function) :
    Ensures law thread (liftM (env.perform function) >>= next : Fallible α).run first
      fun exchanges result _ ↦ Delivers env refused asks exchanges result := by
  rw [Fallible.ensures_liftThen, Env.perform, Program.ensures_perform]
  intro reply after _ rest result last _ _
  exact ⟨fun h ↦ absurd h hrefused, fun _ ↦ ⟨_, rest, function, rfl, rfl, hasks⟩⟩

theorem ensures_throw_refused {error : Error} {next : α → Fallible β} (hrefused : refused) :
    Ensures law thread (throw error >>= next : Fallible β).run first
      fun exchanges result _ ↦ Delivers env refused asks exchanges result := by
  rw [Fallible.run_throw_bind, Program.ensures_pure]
  exact ⟨fun _ ↦ ⟨rfl, failed_error error⟩, fun h ↦ absurd hrefused h⟩

/-- A text with a zero character is refused, and any other one is ended in plain UTF-8. -/
theorem ended_cases (text : String) :
    (Text.HasZero text ∧ ∃ position, Fallible.ended text = throw (.zeroInText position)) ∨
      ¬ Text.HasZero text ∧ ∃ string, Fallible.ended text = pure string ∧
        string.reads? = Text.plainReading? text := by
  unfold Fallible.ended
  obtain ⟨hzero, position, herror⟩ | ⟨hnone, string, hstring, hreads⟩ := Text.ofText_cases text
  · rw [herror]
    exact .inl ⟨hzero, position, rfl⟩
  · rw [hstring]
    exact .inr ⟨hnone, string, rfl, hreads⟩

theorem ensures_ended {text : String} {next : Text.CString → Fallible α}
    (hzero : Text.HasZero text → refused)
    (hended : ∀ string : Text.CString, ¬ Text.HasZero text →
      string.reads? = Text.plainReading? text → Ensures law thread (next string).run first
        fun exchanges result _ ↦ Delivers env refused asks exchanges result) :
    Ensures law thread (Fallible.ended text >>= next).run first
      fun exchanges result _ ↦ Delivers env refused asks exchanges result := by
  obtain ⟨hmem, position, herror⟩ | ⟨hnone, string, hstring, hreads⟩ := ended_cases text
  · rw [herror]
    exact ensures_throw_refused (hzero hmem)
  · rw [hstring, pure_bind]
    exact hended string hnone hreads

theorem ensures_nonNull_begins {reference : Option β} {place : String} {next : β → Fallible α}
    (hnull : reference = none → refused)
    (hpresent : ∀ present, reference = some present → Ensures law thread (next present).run first
      fun exchanges result _ ↦ Delivers env refused asks exchanges result) :
    Ensures law thread (Fallible.nonNull reference place >>= next).run first
      fun exchanges result _ ↦ Delivers env refused asks exchanges result := by
  unfold Fallible.nonNull
  cases reference with
  | none => exact ensures_throw_refused (hnull rfl)
  | some present =>
    dsimp only
    rw [pure_bind]
    exact hpresent present rfl

/-- The function looks for a class whose name was written in plain UTF-8. -/
def EnvFunction.SeeksClass (internalName : String) (function : EnvFunction) : Prop :=
  ∃ string, function = .findClass string ∧ string.reads? = Text.plainReading? internalName

/-- The function looks for a method whose name and signature were written in plain UTF-8. -/
def EnvFunction.SeeksMethod (classObject : Option Handle) (name signature : String)
    (isStatic : Bool) (function : EnvFunction) : Prop :=
  ∃ handle string other, classObject = some handle ∧
    function = .getMethodId handle string other isStatic ∧
    string.reads? = Text.plainReading? name ∧ other.reads? = Text.plainReading? signature

theorem ensures_findClass_begins (internalName : String) :
    Ensures law thread (env.findClass internalName).run first fun exchanges result _ ↦
      Delivers env (Text.HasZero internalName) (·.SeeksClass internalName) exchanges result := by
  unfold Env.findClass
  refine ensures_ended id fun string hzero hreads ↦ ?_
  exact ensures_perform_begins hzero ⟨string, rfl, hreads⟩

theorem ensures_findMethod_begins (classObject : Option Handle) (name signature : String)
    (isStatic : Bool) :
    Ensures law thread (env.findMethod classObject name signature isStatic).run first
      fun exchanges result _ ↦
        Delivers env (classObject = none ∨ Text.HasZero name ∨ Text.HasZero signature)
          (·.SeeksMethod classObject name signature isStatic) exchanges result := by
  unfold Env.findMethod
  refine ensures_nonNull_begins .inl fun handle hhandle ↦ ?_
  refine ensures_ended (.inr ∘ .inl) fun string hname hreads ↦ ?_
  refine ensures_ended (.inr ∘ .inr) fun other hsignature hreads' ↦ ?_
  refine ensures_perform_begins ?_ ⟨handle, string, other, hhandle, rfl, hreads, hreads'⟩
  rintro (hnull | hzero | hzero)
  · cases hnull.symm.trans hhandle
  · exact hname hzero
  · exact hsignature hzero

/-- A list of native methods is passed on as it is. -/
theorem ensures_registerNatives_begins (classObject : Option Handle)
    (methods : List NativeMethod) :
    Ensures law thread (env.registerNatives classObject methods).run first
      fun exchanges result _ ↦ Delivers env (classObject = none)
        (fun function ↦ ∃ handle, classObject = some handle ∧
          function = .registerNatives handle methods) exchanges result := by
  unfold Env.registerNatives
  refine ensures_nonNull_begins id fun handle hhandle ↦ ?_
  exact ensures_perform_begins (by simp [hhandle]) ⟨handle, hhandle, rfl⟩

omit [Host] in
/-- What becomes of the name and the signature of a native method. -/
theorem nativeMethod_texts (name signature : String) (function : NativeFunction) :
    ((Text.HasZero name ∨ Text.HasZero signature) ∧
        Failed (NativeMethod.of name signature function)) ∨
      ¬ (Text.HasZero name ∨ Text.HasZero signature) ∧
        ∃ method, NativeMethod.of name signature function = .ok method ∧
          method.name.reads? = Text.plainReading? name ∧
          method.signature.reads? = Text.plainReading? signature := by
  unfold NativeMethod.of
  dsimp only
  obtain ⟨hzero, position, herror⟩ | ⟨hname, string, hstring, hreads⟩ := Text.ofText_cases name
  · rw [herror]
    exact .inl ⟨.inl hzero, failed_error _⟩
  · obtain ⟨hzero, position, herror⟩ | ⟨hsignature, other, hother, hreads'⟩ :=
      Text.ofText_cases signature
    · rw [hstring, herror]
      exact .inl ⟨.inr hzero, failed_error _⟩
    · rw [hstring, hother]
      exact .inr ⟨not_or.2 ⟨hname, hsignature⟩, _, rfl, hreads, hreads'⟩

/-! ## Texts that are encoded -/

theorem ensures_newString_begins (content : String) :
    Ensures law thread (env.newString content).run first fun exchanges _ _ ↦
      Begins env (fun function ↦ ∃ string, function = .newString string ∧
        string.reads? = some content) exchanges := by
  have hbegins : Ensures law thread (env.newString content).run first fun exchanges result _ ↦
      Delivers env False (fun function ↦ ∃ string, function = .newString string ∧
        string.reads? = some content) exchanges result := by
    unfold Env.newString
    exact ensures_perform_begins id ⟨_, rfl, Text.reads?_encode content⟩
  exact hbegins.weaken fun _ _ _ hdelivers ↦ hdelivers.begins id

/-- A new exception is raised: its class is found, and if that works the next call carries the
message. -/
inductive RaisesNew (env : Env) (internalName message : String) (thread : NativeThread)
    (first : Moment ω) : List (Exchange ω) → Except Error Unit → Prop
  | unknown {begun : List (Exchange ω)} {error : Error} {middle : Moment ω}
      (hrun : (env.findClass internalName).run.Run thread first begun (.error error) middle) :
      RaisesNew env internalName message thread first begun (.error error)
  | found {begun rest : List (Exchange ω)} {classObject : LocalReference}
      {result : Except Error Unit} {middle : Moment ω}
      (hrun : (env.findClass internalName).run.Run thread first begun (.ok classObject) middle)
      (hbegins : Begins env (fun function ↦ ∃ string,
        function = .throwNew classObject.raw string ∧ string.reads? = some message) rest) :
      RaisesNew env internalName message thread first (begun ++ rest) result

theorem ensures_raiseNew (internalName message : String) :
    Ensures law thread (env.raiseNew internalName message).run first fun exchanges result _ ↦
      RaisesNew env internalName message thread first exchanges result := by
  unfold Env.raiseNew LocalReference.scope
  rw [Fallible.ensures_bind]
  rintro begun (error | classObject) middle hrun -
  · exact .unknown hrun
  · rw [Fallible.continues_ok, Fallible.ensures_thenAlways, Fallible.ensures_liftThen, Env.perform,
      Program.ensures_perform]
    intro answer after _ rest result last _ _ released _ _ _ _
    exact .found hrun ⟨_, rest ++ released, _, rfl, rfl, _, rfl, Text.reads?_encode message⟩

/-- If the thread is attached then under this name. -/
def Exchange.Introduces (exchange : Exchange ω) (name : String) : Prop :=
  ∀ vm request, exchange.request = .attach vm request → request.name.reads? = some name

theorem ensures_attachTo_introduces (id : LifecycleId) (registration : Registration)
    (config : AttachConfig) :
    Ensures law thread (id.attachTo registration config).run first fun exchanges _ _ ↦
      ∀ exchange ∈ exchanges, exchange.Introduces (config.name.getD thread.attachName) := by
  have hasks : ∀ answer asked, Exchange.Introduces
      ⟨thread, .getEnv registration.vm registration.version, answer, first, asked⟩
      (config.name.getD thread.attachName) :=
    fun _ _ ↦ nofun
  have hattaches : ∀ answer (asked attached : Moment ω), Exchange.Introduces
      ⟨thread, .attach registration.vm (config.request registration thread), answer, asked,
        attached⟩ (config.name.getD thread.attachName) := by
    rintro _ _ _ _ _ ⟨⟩
    exact Text.reads?_encode _
  refine (id.ensures_attachTo_approach config).weaken fun exchanges result last happroach ↦ ?_
  cases happroach with
  | present => simpa using hasks _ _
  | unclear => simpa using hasks _ _
  | refused => simpa using ⟨hasks _ _, hattaches _ _ _⟩
  | admitted => simpa using ⟨hasks _ _, hattaches _ _ _⟩

/-- A thread is attached under the name that it was given. -/
theorem ensures_enter_introduces (id : LifecycleId) (config : AttachConfig) :
    Ensures law thread (id.enter config).run first fun exchanges _ _ ↦
      ∀ exchange ∈ exchanges, exchange.Introduces (config.name.getD thread.attachName) := by
  rw [LifecycleId.ensures_enter_iff]
  cases (first.bridge.lifecycle id).registration with
  | none => exact fun _ hmem ↦ absurd hmem List.not_mem_nil
  | some registration => exact ensures_attachTo_introduces id registration config

/-! ## The class of a descriptor -/

/-- The call asks the environment for this function and obtains this reply. -/
def Exchange.Obtains (exchange : Exchange ω) (thread : NativeThread) (env : Env)
    (function : EnvFunction) (reply : function.Reply) : Prop :=
  ∃ before after, exchange = ⟨thread, .env env.pointer function, reply, before, after⟩

theorem yields_perform {function : EnvFunction} {next : function.Reply → Fallible α}
    {good : List (Exchange ω) → α → Moment ω → Prop}
    (hnext : ∀ exchange reply after, Exchange.Obtains exchange thread env function reply →
      Yields law thread (next reply) after fun rest ↦ good (exchange :: rest)) :
    Yields law thread (liftM (env.perform function) >>= next : Fallible α) first good := by
  refine Fallible.ensures_liftThen.2 (Program.ensures_perform.2 fun reply after _ ↦ ?_)
  exact hnext _ reply after ⟨first, after, rfl⟩

theorem yields_ended {text : String} {next : Text.CString → Fallible α}
    {good : List (Exchange ω) → α → Moment ω → Prop}
    (hnext : ∀ string : Text.CString, string.reads? = Text.plainReading? text →
      Yields law thread (next string) first good) :
    Yields law thread (Fallible.ended text >>= next) first good := by
  obtain ⟨-, position, herror⟩ | ⟨-, string, hstring, hreads⟩ := ended_cases text
  · rw [herror]
    exact .throwThen
  · rw [hstring, pure_bind]
    exact hnext string hreads

theorem yields_findMethod (classObject : Option Handle) (name signature : String)
    (isStatic : Bool) :
    Yields law thread (env.findMethod classObject name signature isStatic) first
      fun exchanges method _ ↦ ∃ handle string other,
        string.reads? = Text.plainReading? name ∧ other.reads? = Text.plainReading? signature ∧
        ∃ exchange ∈ exchanges, Exchange.Obtains exchange thread env
          (.getMethodId handle string other isStatic) (some method) := by
  unfold Env.findMethod
  refine .nonNullThen fun handle _ ↦ yields_ended fun string hreads ↦
    yields_ended fun other hreads' ↦ yields_perform fun exchange reply after hobtains ↦ ?_
  cases reply with
  | none => exact .skip fun _ error _ ↦ .throw
  | some method =>
    exact .done ⟨handle, string, other, hreads, hreads', exchange, List.mem_cons_self, hobtains⟩

theorem yields_newString (content : String) :
    Yields law thread (env.newString content) first fun exchanges reference _ ↦
      ∃ text string, text.reads? = some content ∧ reference = env.own (some string) ∧
        ∃ exchange ∈ exchanges,
          Exchange.Obtains exchange thread env (.newString text) (some string) := by
  unfold Env.newString
  refine yields_perform fun exchange answer after hobtains ↦ .skip fun _ _ _ ↦
    .nonNullThen fun string hstring ↦ ?_
  subst hstring
  exact .done ⟨_, string, Text.reads?_encode content, rfl, exchange, List.mem_cons_self, hobtains⟩

theorem yields_callObject (receiver : Option Handle) (method : MethodId)
    (arguments : List Argument) :
    Yields law thread (env.callObject receiver method arguments) first fun exchanges answer _ ↦
      ∀ reference, answer = some reference → ∃ handle object, receiver = some handle ∧
        reference = env.own (some object) ∧ ∃ exchange ∈ exchanges, Exchange.Obtains exchange
          thread env (.callObject handle method arguments) (some object) := by
  unfold Env.callObject
  refine .nonNullThen fun handle hhandle ↦ yields_perform fun exchange answer after hobtains ↦
    .skip fun _ _ _ ↦ .done fun reference hreference ↦ ?_
  obtain ⟨object, rfl, rfl⟩ := Option.map_eq_some_iff.1 hreference
  exact ⟨handle, object, hhandle, rfl, exchange, List.mem_cons_self, hobtains⟩

/-- The class came from a loader: its method `loadClass` was looked up, the name was made a string,
and the method was called with that string. -/
inductive Loads (env : Env) (loader : GlobalReference) (name : String) (thread : NativeThread)
    (exchanges : List (Exchange ω)) : LocalReference → Prop
  | intro {looked named loaded : Exchange ω} {metaclass receiver string classObject : Handle}
      {method : MethodId} {methodName signature text : Text.CString}
      (hcalls : [looked, named, loaded].Sublist exchanges)
      (hmethod : methodName.reads? = some "loadClass")
      (hsignature : signature.reads? = some "(Ljava/lang/String;)Ljava/lang/Class;")
      (hlooked : looked.Obtains thread env (.getMethodId metaclass methodName signature false)
        (some method))
      (htext : text.reads? = some name)
      (hnamed : named.Obtains thread env (.newString text) (some string))
      (hreceiver : loader.raw = some receiver)
      (hloaded : loaded.Obtains thread env
        (.callObject receiver method [.reference (some string)]) (some classObject)) :
      Loads env loader name thread exchanges (env.own (some classObject))

theorem yields_loadThrough (descriptor : ClassDescriptor) (loader : GlobalReference) :
    Yields law thread (descriptor.loadThrough env loader) first fun exchanges reference _ ↦
      Loads env loader descriptor.dottedName thread exchanges reference := by
  unfold ClassDescriptor.loadThrough LocalReference.scope
  refine .skip fun begun metaclass _ ↦ .thenAlways ?_
  dsimp only
  refine (yields_findMethod metaclass.raw _ _ false).bind ?_
  rintro looking method _ ⟨handle, methodName, signature, hmethod, hsignature, looked, hmem,
    hlooked⟩
  refine (yields_newString descriptor.dottedName).bind ?_
  rintro naming name _ ⟨text, string, htext, rfl, named, hmem', hnamed⟩
  refine .thenAlways ?_
  refine (yields_callObject loader.raw method _).bind ?_
  rintro loading (_ | reference) _ hloading
  · exact .throw
  · obtain ⟨receiver, classObject, hreceiver, rfl, loaded, hmem'', hloaded⟩ :=
      hloading reference rfl
    refine .done fun rest _ rest' _ ↦ ?_
    have hlast : [named, loaded].Sublist (naming ++ (loading ++ [] ++ rest)) :=
      (List.singleton_sublist.2 hmem').append (List.singleton_sublist.2 (by simp [hmem'']))
    have hcalls : [looked, named, loaded].Sublist
        (begun ++ (looking ++ (naming ++ (loading ++ [] ++ rest)) ++ rest')) :=
      (((List.singleton_sublist.2 hmem).append hlast).trans
        (List.sublist_append_left _ _)).trans (List.sublist_append_right _ _)
    exact .intro hcalls (hmethod.trans (Text.plainReading?_eq_some.2 (by decide)))
      (hsignature.trans (Text.plainReading?_eq_some.2 (by decide))) hlooked htext hnamed hreceiver
      hloaded

/-- The loader that classes are found through. -/
def Moment.loader? (moment : Moment ω) (thread : NativeThread) : Option GlobalReference :=
  (moment.bridge.thread thread.id).loader.filter moment.bridge.isUsable

theorem resolve_by_name {descriptor : ClassDescriptor} (hloader : first.loader? thread = none) :
    Ensures law thread (descriptor.resolve env).run first fun exchanges result _ ↦
      Delivers env (Text.HasZero descriptor.internalName)
        (·.SeeksClass descriptor.internalName) exchanges result := by
  unfold Moment.loader? at hloader
  unfold ClassDescriptor.resolve
  rw [Fallible.ensures_liftThen]
  refine ensures_currentClassLoader.weaken ?_
  rintro _ _ middle ⟨rfl, -, -, rfl⟩
  rw [hloader]
  exact ensures_findClass_begins descriptor.internalName

theorem resolve_by_loader {descriptor : ClassDescriptor} {loader : GlobalReference}
    (hloader : first.loader? thread = some loader) :
    Yields law thread (descriptor.resolve env) first fun exchanges reference _ ↦
      Loads env loader descriptor.dottedName thread exchanges reference := by
  unfold Moment.loader? at hloader
  unfold ClassDescriptor.resolve
  refine Fallible.ensures_liftThen.2 (ensures_currentClassLoader.weaken ?_)
  rintro _ _ middle ⟨rfl, -, -, rfl⟩
  rw [hloader]
  exact yields_loadThrough descriptor loader

omit [Host] in
/-- The two names under which a class may be looked for. -/
theorem plainReading?_dotted (descriptor : ClassDescriptor) :
    (Text.plainReading? descriptor.internalName).map dotted = some descriptor.dottedName ↔
      Text.IsBasic descriptor.internalName := by
  rw [← Text.plainReading?_eq_some]
  unfold Text.plainReading?
  split
  · exact iff_of_true rfl rfl
  · exact iff_of_false nofun nofun

/-! ## All texts -/

/-- How texts are handed over.  Contents, messages and names of threads are read as they are; names
of classes and names and signatures of methods as far as plain UTF-8 is read. -/
structure Handover (law : Exchange ω → Prop) (thread : NativeThread) (env : Env)
    (first : Moment ω) : Prop where
  plain : ∀ text, Text.plainReading? text = some text ↔ Text.IsBasic text
  newString : ∀ content, Ensures law thread (env.newString content).run first
    fun exchanges _ _ ↦ Begins env (fun function ↦ ∃ string, function = .newString string ∧
      string.reads? = some content) exchanges
  raiseNew : ∀ internalName message, Ensures law thread (env.raiseNew internalName message).run
    first fun exchanges result _ ↦ RaisesNew env internalName message thread first exchanges result
  attachTo : ∀ (id : LifecycleId) registration config, Ensures law thread
    (id.attachTo registration config).run first fun exchanges _ _ ↦ ∀ exchange ∈ exchanges,
      exchange.Introduces (config.name.getD thread.attachName)
  enter : ∀ (id : LifecycleId) config, Ensures law thread (id.enter config).run first
    fun exchanges _ _ ↦ ∀ exchange ∈ exchanges,
      exchange.Introduces (config.name.getD thread.attachName)
  findClass : ∀ internalName, Ensures law thread (env.findClass internalName).run first
    fun exchanges result _ ↦ Delivers env (Text.HasZero internalName)
      (·.SeeksClass internalName) exchanges result
  findMethod : ∀ classObject name signature isStatic, Ensures law thread
    (env.findMethod classObject name signature isStatic).run first fun exchanges result _ ↦
      Delivers env (classObject = none ∨ Text.HasZero name ∨ Text.HasZero signature)
        (·.SeeksMethod classObject name signature isStatic) exchanges result
  nativeMethod : ∀ name signature function,
    ((Text.HasZero name ∨ Text.HasZero signature) ∧
        Failed (NativeMethod.of name signature function)) ∨
      ¬ (Text.HasZero name ∨ Text.HasZero signature) ∧
        ∃ method, NativeMethod.of name signature function = .ok method ∧
          method.name.reads? = Text.plainReading? name ∧
          method.signature.reads? = Text.plainReading? signature
  registerNatives : ∀ classObject methods, Ensures law thread
    (env.registerNatives classObject methods).run first fun exchanges result _ ↦
      Delivers env (classObject = none) (fun function ↦ ∃ handle, classObject = some handle ∧
        function = .registerNatives handle methods) exchanges result
  byName : ∀ descriptor : ClassDescriptor, first.loader? thread = none →
    Ensures law thread (descriptor.resolve env).run first fun exchanges result _ ↦
      Delivers env (Text.HasZero descriptor.internalName)
        (·.SeeksClass descriptor.internalName) exchanges result
  byLoader : ∀ (descriptor : ClassDescriptor) loader, first.loader? thread = some loader →
    Yields law thread (descriptor.resolve env) first fun exchanges reference _ ↦
      Loads env loader descriptor.dottedName thread exchanges reference
  /-- The name that is read in a search by name is the one that a loader would be given. -/
  sameName : ∀ descriptor : ClassDescriptor,
    (Text.plainReading? descriptor.internalName).map dotted = some descriptor.dottedName ↔
      Text.IsBasic descriptor.internalName

/-- Whatever the machine does, all texts are handed over in these ways. -/
theorem Env.handover (law : Exchange ω → Prop) (thread : NativeThread) (env : Env)
    (first : Moment ω) : Handover law thread env first where
  plain _ := Text.plainReading?_eq_some
  newString := ensures_newString_begins
  raiseNew := ensures_raiseNew
  attachTo := ensures_attachTo_introduces
  enter := ensures_enter_introduces
  findClass := ensures_findClass_begins
  findMethod := ensures_findMethod_begins
  nativeMethod := nativeMethod_texts
  registerNatives := ensures_registerNatives_begins
  byName _ := resolve_by_name
  byLoader _ _ := resolve_by_loader
  sameName := plainReading?_dotted

omit [Host] in
/-- A class whose name has a character above `U+FFFF` is looked for by bytes that are no encoded
text, while a loader would be given its name. -/
theorem Env.findClass_unread :
    let _ := Sample.host
    let first : Moment Unit := ⟨Sample.bridge, ()⟩
    let descriptor : ClassDescriptor := ⟨"😀", "L😀;", .numbered 0⟩
    ∃ exchanges result last,
      (descriptor.resolve Sample.env).run.Run Sample.thread first exchanges result last ∧
        Begins Sample.env (fun function ↦ ∃ string, function = .findClass string ∧
          string.reads? = none) exchanges ∧
        (Text.ModifiedUtf8.encode descriptor.dottedName).reads? = some descriptor.dottedName := by
  intro _ first descriptor
  have hrun : (descriptor.resolve Sample.env).run.Run Sample.thread first _ _ _ :=
    Program.run_play (.answering Sample.nothing) _
  have hloader : first.loader? Sample.thread = none := rfl
  have hdelivers := resolve_by_name hloader _ _ _ hrun fun _ _ ↦ trivial
  obtain ⟨exchange, rest, function, hexchanges, hrequest, string, hfunction, hreads⟩ :=
    hdelivers.begins (by decide)
  have hunread : string.reads? = none := hreads.trans (by decide)
  exact ⟨_, _, _, hrun, ⟨exchange, rest, function, hexchanges, hrequest, string, hfunction,
    hunread⟩, Text.reads?_encode _⟩

end JavaInterop
