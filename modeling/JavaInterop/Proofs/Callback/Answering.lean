import JavaInterop.Proofs.Callback.Conversion

/-!
# A machine that answers every call

The laws that the way back into Java relies on ask a lot of a machine: it finds classes and methods,
boxes scalars, throws what it is told to, and tells what it knows of its objects.  Here is a machine
that does so, whatever has happened before and whatever it is asked for.  It never raises an
exception of its own accord and refuses no reference.
-/

namespace JavaInterop

open Text.ModifiedUtf8 (encode encode_injective)

namespace Sample

/-- An object that was thrown, a failure, or the box of a scalar. -/
inductive Thing where
  | thrown
  | failure (text : String)
  | box (scalar : Scalar)

/-- A machine in which every class can be found.  A class is its internal name, and all of them are
direct subclasses of the root but for some exceptions. -/
def platform : Platform where
  Object := Thing
  Class := String
  classOf
    | .thrown => "java/lang/IllegalStateException"
    | .failure _ => "java/lang/RuntimeException"
    | .box scalar => (javaLang scalar.kind).internal
  superclass
    | "java/lang/Object" => none
    | "java/lang/IllegalStateException" => some "java/lang/RuntimeException"
    | "java/lang/RuntimeException" => some "java/lang/Exception"
    | "java/lang/Exception" => some "java/lang/Throwable"
    | _ => some "java/lang/Object"
  name classObject := classObject.map fun char ↦ if char = '/' then '.' else char
  message
    | .thrown => some "text"
    | .failure text => some text
    | .box _ => none
  declaring accessor := accessor.className
  method accessor := if accessor = .getName then ⟨vm, 1⟩ else ⟨vm, 2⟩
  readable_name _ := ⟨encode _, Text.ModifiedUtf8.decode?_encode _⟩
  readable_message _ text _ := ⟨encode text, Text.ModifiedUtf8.decode?_encode text⟩
  runtime := "java/lang/RuntimeException"
  wrapper kind := (javaLang kind).internal
  valueOf _ := ⟨vm, 3⟩
  boxed
    | .box scalar => some scalar
    | _ => none
  name_runtime := by decide +kernel
  name_wrapper kind := by cases kind <;> decide +kernel
  class_boxed object scalar hboxed := by
    cases object with
    | box held =>
      cases hboxed
      rfl
    | _ => cases hboxed

/-- How the machine answers: it keeps the laws, it raises an exception only when it is asked for
that, and it refuses no reference.  It may let strings be read, or keep the books. -/
structure Answers (reads : Bool) (before : platform.toHierarchy.Heap) (request : Call)
    (reply : request.Reply) (after : platform.toHierarchy.Heap) : Prop where
  complies : Platform.Law vm before after request reply
  obeys : reads = true → Hierarchy.Law before after request reply
  pending : PendingLaw EnvFunction.mayFault before.pending.isSome after.pending.isSome request reply
  ledger : reads = false → ∀ live, ∃ live',
    LedgerLaw ⟨before.pending.isSome, live⟩ ⟨after.pending.isSome, live'⟩ request reply
  attach : AttachLaw request reply
  steady : before.Raises after → ∃ pointer function, request = .env pointer function ∧
    Platform.Replaces function
  granted : ¬ request.Refused reply

/-- The functions that tell whether an exception is pending, or forget it. -/
def Looks : EnvFunction → Prop
  | .exceptionCheck | .exceptionOccurred | .exceptionClear => True
  | _ => False

variable {reads : Bool} {pointer : EnvPointer} {function : EnvFunction} {reply : function.Reply}
  {before after : platform.toHierarchy.Heap}

theorem pendingLaw_of_same (hlooks : ¬ Looks function) (mayRaise : EnvFunction → Bool)
    (pending : Bool) : PendingLaw mayRaise pending pending (.env pointer function) reply := by
  cases function with
  | exceptionCheck | exceptionOccurred | exceptionClear => exact absurd trivial hlooks
  | exceptionDescribe => exact id
  | deleteLocalRef | deleteGlobalRef | releaseStringChars => rfl
  | _ => exact .inl

/-- A machine that hands out only what is its own can keep the books. -/
theorem exists_ledger {pending pending' : Bool}
    (hown : ∀ resource ∈ function.brought reply, resource.vm = pointer.vm)
    (hraised : pending = false → pending' = true → function.brought reply = 0)
    (live : Multiset Resource) :
    ∃ live', LedgerLaw ⟨pending, live⟩ ⟨pending', live'⟩ (.env pointer function) reply :=
  ⟨_, hown, hraised, rfl⟩

theorem answers_of_same (hsame : after.pending = before.pending) (hlooks : ¬ Looks function)
    (hcomplies : Platform.Law vm before after (.env pointer function) reply)
    (hobeys : reads = true → Hierarchy.Law before after (.env pointer function) reply)
    (hown : reads = false → ∀ resource ∈ function.brought reply, resource.vm = pointer.vm)
    (hgranted : ¬ Call.Refused (.env pointer function) reply) :
    Answers reads before (.env pointer function) reply after where
  complies := hcomplies
  obeys := hobeys
  pending := hsame ▸ pendingLaw_of_same hlooks _ _
  ledger hreads := exists_ledger (hown hreads) fun hno hyes ↦ by simp [hsame, hno] at hyes
  attach := trivial
  steady := by
    rintro ⟨hnone, object, hobject⟩
    rw [hsame, hnone] at hobject
    cases hobject
  granted := hgranted

/-- Answers of functions that nothing is relied on for. -/
theorem answers_idle (hlooks : ¬ Looks function)
    (hcomplies : Platform.Law vm before before (.env pointer function) reply)
    (hobeys : Hierarchy.Law before before (.env pointer function) reply)
    (hbrought : function.brought reply = 0)
    (hgranted : ¬ Call.Refused (.env pointer function) reply) :
    Answers reads before (.env pointer function) reply before :=
  answers_of_same rfl hlooks hcomplies (fun _ ↦ hobeys) (fun _ ↦ by simp [hbrought]) hgranted

/-- The reference that a reply brings is one of its machine. -/
theorem own_share {make : Handle → Resource} (hmake : ∀ handle, (make handle).vm = handle.vm)
    {vm : VmId} {reply : Option Handle} (hvm : ∀ handle, reply = some handle → handle.vm = vm) :
    ∀ resource ∈ (reply.elim 0 fun handle ↦ {make handle} : Multiset Resource),
      resource.vm = vm := by
  cases reply with
  | none => exact fun _ hmem ↦ absurd hmem (Multiset.notMem_zero _)
  | some handle =>
    intro resource hmem
    rw [Multiset.mem_singleton.1 hmem, hmake]
    exact hvm handle rfl

theorem own_localShare {vm : VmId} {reply : Option Handle}
    (hvm : ∀ handle, reply = some handle → handle.vm = vm) :
    ∀ resource ∈ localShare reply, resource.vm = vm :=
  own_share (fun _ ↦ rfl) hvm

theorem own_globalShare {vm : VmId} {reply : Option Handle}
    (hvm : ∀ handle, reply = some handle → handle.vm = vm) :
    ∀ resource ∈ globalShare reply, resource.vm = vm :=
  own_share (fun _ ↦ rfl) hvm

/-- There is a new reference of any machine. -/
theorem exists_fresh (vm : VmId) (before : platform.toHierarchy.Heap)
    (denoted : Option platform.Denoted) : ∃ reply after, before.Offers after reply denoted ∧
      after.pending = before.pending ∧ ∀ handle, reply = some handle → handle.vm = vm := by
  obtain ⟨reply, after, hoffers, hvm⟩ := before.exists_offers_of vm denoted
  exact ⟨reply, after, hoffers, hoffers.pending, hvm⟩

theorem exists_findClass (reads : Bool) (pointer : EnvPointer) (name : Text.CString)
    (before : platform.toHierarchy.Heap) :
    ∃ reply after, Answers reads before (.env pointer (.findClass name)) reply after := by
  by_cases hknown : ∃ text, name = encode text
  · obtain ⟨text, rfl⟩ := hknown
    obtain ⟨reply, after, hoffers, hsame, hown⟩ :=
      exists_fresh pointer.vm before (some (.classObject text))
    have hoffered : ∀ other, encode text = encode other →
        before.Offers after reply (some (.classObject other)) := by
      intro other hother
      rw [← encode_injective hother]
      exact hoffers
    refine ⟨reply, after, answers_of_same hsame id ⟨fun _ ↦ ⟨hoffered _, fun kind hname ↦ ?_⟩,
      fun _ hpending _ ↦ hsame.trans hpending⟩ (fun _ _ accessor ↦ hoffered _)
      (fun _ ↦ own_localShare hown) id⟩
    exact .inr (hoffered _ hname)
  · refine ⟨none, before, answers_idle id ⟨fun _ ↦ ⟨fun hname ↦ ?_, fun kind hname ↦ ?_⟩,
      fun _ hpending _ ↦ hpending⟩ (fun _ accessor hname ↦ ?_) rfl id⟩
    · exact absurd ⟨_, hname⟩ hknown
    · exact absurd ⟨_, hname⟩ hknown
    · exact absurd ⟨_, hname⟩ hknown

theorem exists_getMethodId (reads : Bool) (pointer : EnvPointer) (classObject : Handle)
    (name signature : Text.CString) (isStatic : Bool) (before : platform.toHierarchy.Heap) :
    ∃ reply after, Answers reads before
      (.env pointer (.getMethodId classObject name signature isStatic)) reply after := by
  by_cases hknown : ∃ accessor : Accessor, name = encode accessor.methodName
  · obtain ⟨accessor, rfl⟩ := hknown
    refine ⟨some (platform.method accessor), before, answers_idle id
      ⟨fun _ kind _ hname ↦ ?_, fun _ hpending _ ↦ hpending⟩ (fun _ other _ hother _ _ ↦ ?_) rfl id⟩
    · have hother : accessor.methodName = "valueOf" := encode_injective hname
      cases accessor <;> exact absurd hother (by decide)
    · rw [← Accessor.encode_methodName_injective hother]
      exact ⟨rfl, rfl⟩
  · refine ⟨some ⟨vm, 3⟩, before, answers_idle id
      ⟨fun _ kind _ _ _ _ ↦ .inr ⟨rfl, rfl⟩, fun _ hpending _ ↦ hpending⟩ ?_ rfl id⟩
    exact fun _ accessor _ hname _ _ ↦ absurd ⟨accessor, hname⟩ hknown

/-- An exception is raised when it is asked for. -/
theorem answers_throwing (object : platform.Object) (hreplaces : Platform.Replaces function)
    (hcomplies : Platform.Law vm before { before with pending := some object }
      (.env pointer function) reply) :
    Answers reads before (.env pointer function) reply
      { before with pending := some object } := by
  cases function with
  | throw | throwNew =>
    exact ⟨hcomplies, fun _ _ ↦ trivial, fun _ ↦ .inr ⟨rfl, trivial⟩,
      fun _ ↦ exists_ledger (fun _ hmem ↦ absurd hmem (Multiset.notMem_zero _)) fun _ _ ↦ rfl,
      trivial, fun _ ↦ ⟨_, _, rfl, hreplaces⟩, id⟩
  | _ => exact hreplaces.elim

theorem exists_throw (reads : Bool) (pointer : EnvPointer) (throwable : Handle)
    (before : platform.toHierarchy.Heap) :
    ∃ reply after, Answers reads before (.env pointer (.throw throwable)) reply after := by
  by_cases hknown : ∃ object, before.live.find? throwable = some (.object object)
  · obtain ⟨object, hobject⟩ := hknown
    refine ⟨.ok (), _, answers_throwing object trivial ⟨fun _ other hother ↦ ?_,
      fun _ _ hreplaces ↦ absurd trivial hreplaces⟩⟩
    cases hobject.symm.trans hother
    exact ⟨rfl, rfl⟩
  · exact ⟨.ok (), before, answers_idle id ⟨fun _ object hobject ↦ absurd ⟨object, hobject⟩ hknown,
      fun _ _ hreplaces ↦ absurd trivial hreplaces⟩ (fun _ ↦ trivial) rfl id⟩

theorem exists_throwNew (reads : Bool) (pointer : EnvPointer) (classObject : Option Handle)
    (content : Text.CString) (before : platform.toHierarchy.Heap) :
    ∃ reply after,
      Answers reads before (.env pointer (.throwNew classObject content)) reply after := by
  by_cases hknown : ∃ text, content = encode text
  · obtain ⟨text, rfl⟩ := hknown
    refine ⟨.ok (), _, answers_throwing (.failure text) trivial
      ⟨fun _ handle other _ _ hother ↦ ?_, fun _ _ hreplaces ↦ absurd trivial hreplaces⟩⟩
    rw [← encode_injective hother]
    exact ⟨rfl, rfl, _, rfl, rfl, rfl⟩
  · exact ⟨.ok (), before, answers_idle id ⟨fun _ _ text _ _ htext ↦ absurd ⟨text, htext⟩ hknown,
      fun _ _ hreplaces ↦ absurd trivial hreplaces⟩ (fun _ ↦ trivial) rfl id⟩

theorem exists_callStaticObject (reads : Bool) (pointer : EnvPointer) (classObject : Handle)
    (method : MethodId) (arguments : List Argument) (before : platform.toHierarchy.Heap) :
    ∃ reply after, Answers reads before
      (.env pointer (.callStaticObject classObject method arguments)) reply after := by
  by_cases hknown : ∃ scalar, arguments = [.scalar scalar]
  · obtain ⟨scalar, rfl⟩ := hknown
    obtain ⟨reply, after, hoffers, hsame, hown⟩ :=
      exists_fresh pointer.vm before (some (.object (.box scalar)))
    refine ⟨reply, after, answers_of_same hsame id ⟨fun _ other _ _ hother ↦ ?_,
      fun _ hpending _ ↦ hsame.trans hpending⟩ (fun _ _ ↦ trivial)
      (fun _ ↦ own_localShare hown) id⟩
    cases hother
    exact ⟨.box scalar, rfl, .inr hoffers⟩
  · exact ⟨none, before, answers_idle id
      ⟨fun _ scalar _ _ hscalar ↦ absurd ⟨scalar, hscalar⟩ hknown, fun _ hpending _ ↦ hpending⟩
      (fun _ ↦ trivial) rfl id⟩

theorem exists_newLocalRef (reads : Bool) (pointer : EnvPointer) (object : Handle)
    (before : platform.toHierarchy.Heap) :
    ∃ reply after, Answers reads before (.env pointer (.newLocalRef object)) reply after := by
  cases hobject : before.live.find? object with
  | none =>
    refine ⟨some ⟨pointer.vm, 0⟩, before, answers_of_same rfl id ⟨fun denoted hdenoted ↦ ?_,
      fun _ ↦ rfl⟩ (fun _ _ ↦ trivial) (fun _ ↦ by simp [EnvFunction.brought, Resource.vm]) ?_⟩
    · cases hobject.symm.trans hdenoted
    · exact Option.some_ne_none _
  | some denoted =>
    obtain ⟨reply, after, hoffers, hsame, hown⟩ := exists_fresh pointer.vm before (some denoted)
    refine ⟨reply, after, answers_of_same hsame id ⟨fun other hother ↦ ?_, fun _ ↦ hsame⟩
      (fun _ _ ↦ trivial) (fun _ ↦ own_localShare hown) ?_⟩
    · cases hobject.symm.trans hother
      exact .inr hoffers
    · rintro rfl
      obtain ⟨_, hnone, -⟩ := hoffers
      cases hnone

theorem exists_newGlobalRef (reads : Bool) (pointer : EnvPointer) (object : Handle)
    (before : platform.toHierarchy.Heap) :
    ∃ reply after, Answers reads before (.env pointer (.newGlobalRef object)) reply after := by
  cases hobject : before.live.find? object with
  | none =>
    refine ⟨some ⟨pointer.vm, 0⟩, before, answers_of_same rfl id ⟨fun _ ↦ trivial,
      fun _ hpending _ ↦ hpending⟩ (fun _ _ denoted hdenoted ↦ ?_)
      (fun _ ↦ by simp [EnvFunction.brought, Resource.vm]) ?_⟩
    · cases hobject.symm.trans hdenoted
    · exact Option.some_ne_none _
  | some denoted =>
    obtain ⟨reply, after, hoffers, hsame, hown⟩ := exists_fresh pointer.vm before (some denoted)
    refine ⟨reply, after, answers_of_same hsame id ⟨fun _ ↦ trivial,
      fun _ hpending _ ↦ hsame.trans hpending⟩ (fun _ _ other hother ↦ ?_)
      (fun _ ↦ own_globalShare hown) ?_⟩
    · cases hobject.symm.trans hother
      exact .inr hoffers
    · rintro rfl
      obtain ⟨_, hnone, -⟩ := hoffers
      cases hnone

theorem exists_getObjectClass (reads : Bool) (pointer : EnvPointer) (object : Handle)
    (before : platform.toHierarchy.Heap) :
    ∃ reply after, Answers reads before (.env pointer (.getObjectClass object)) reply after := by
  obtain ⟨reply, after, hanswers, hsame, hown⟩ :=
    Hierarchy.offers_getObjectClass pointer.vm before object
  exact ⟨reply, after, answers_of_same hsame id ⟨fun _ ↦ trivial,
    fun _ hpending _ ↦ hsame.trans hpending⟩ (fun _ _ ↦ hanswers) (fun _ ↦ own_localShare hown) id⟩

theorem exists_getSuperclass (reads : Bool) (pointer : EnvPointer) (classObject : Handle)
    (before : platform.toHierarchy.Heap) :
    ∃ reply after,
      Answers reads before (.env pointer (.getSuperclass classObject)) reply after := by
  obtain ⟨reply, after, hanswers, hsame, hown⟩ :=
    Hierarchy.offers_getSuperclass pointer.vm before classObject
  exact ⟨reply, after, answers_of_same hsame id ⟨fun _ ↦ trivial,
    fun _ hpending _ ↦ hsame.trans hpending⟩ (fun _ _ ↦ hanswers) (fun _ ↦ own_localShare hown) id⟩

theorem exists_callObject (reads : Bool) (pointer : EnvPointer) (receiver : Handle)
    (method : MethodId) (arguments : List Argument) (before : platform.toHierarchy.Heap) :
    ∃ reply after,
      Answers reads before (.env pointer (.callObject receiver method arguments)) reply after := by
  obtain ⟨reply, after, hanswers, hsame, hown⟩ :=
    Hierarchy.offers_callObject pointer.vm before receiver method arguments
  exact ⟨reply, after, answers_of_same hsame id ⟨fun _ ↦ trivial,
    fun _ hpending _ ↦ hsame.trans hpending⟩ (fun _ _ ↦ hanswers) (fun _ ↦ own_localShare hown) id⟩

theorem exists_getStringChars (reads : Bool) (pointer : EnvPointer) (string : Handle)
    (before : platform.toHierarchy.Heap) :
    ∃ reply after, Answers reads before (.env pointer (.getStringChars string)) reply after := by
  by_cases hknown : reads = true ∧ ∃ content, before.live.find? string = some (.string content)
  · obtain ⟨rfl, content, hstring⟩ := hknown
    refine ⟨some (encode content), before, answers_of_same rfl id ⟨fun _ ↦ trivial,
      fun _ hpending _ ↦ hpending⟩ (fun _ _ other hother _ ↦ ?_) (fun hno ↦ nomatch hno) id⟩
    cases hstring.symm.trans hother
    exact ⟨⟨_, rfl, Text.ModifiedUtf8.decode?_encode content⟩, rfl⟩
  · refine ⟨none, before, answers_of_same rfl id ⟨fun _ ↦ trivial, fun _ hpending _ ↦ hpending⟩
      (fun hreads _ content hstring _ ↦ absurd ⟨hreads, content, hstring⟩ hknown)
      (fun _ _ hmem ↦ absurd hmem (Multiset.notMem_zero _)) id⟩

theorem exists_exceptionOccurred (reads : Bool) (pointer : EnvPointer)
    (before : platform.toHierarchy.Heap) :
    ∃ reply after, Answers reads before (.env pointer .exceptionOccurred) reply after := by
  obtain ⟨reply, after, hoffers, hsame, hown⟩ :=
    exists_fresh pointer.vm before (before.pending.map .object)
  have hreply : reply.isSome = before.pending.isSome := by
    cases hpending : before.pending with
    | none =>
      rw [hpending] at hoffers
      rw [hoffers.1]
      rfl
    | some object =>
      rw [hpending] at hoffers
      obtain ⟨handle, rfl, -⟩ := hoffers
      rfl
  refine ⟨reply, after, hoffers, fun _ ↦ hoffers, ⟨hreply, congrArg Option.isSome hsame⟩,
    fun _ ↦ exists_ledger (own_localShare hown) fun hno hyes ↦ ?_, trivial, ?_, id⟩
  · rw [hsame, hno] at hyes
    cases hyes
  · rintro ⟨hnone, object, hobject⟩
    rw [hsame, hnone] at hobject
    cases hobject

/-- The machine has an answer to every call, whatever has happened before. -/
theorem exists_answers (reads : Bool) (before : platform.toHierarchy.Heap) (request : Call) :
    ∃ reply after, Answers reads before request reply after := by
  have hidle : before.Raises before →
      ∃ pointer function, request = .env pointer function ∧ Platform.Replaces function := by
    rintro ⟨hnone, object, hobject⟩
    rw [hnone] at hobject
    cases hobject
  have hnothing : ∀ {vm : VmId}, ∀ resource ∈ (0 : Multiset Resource), resource.vm = vm :=
    fun resource hmem ↦ absurd hmem (Multiset.notMem_zero resource)
  cases request with
  | env pointer function =>
    cases function with
    | findClass name => exact exists_findClass reads pointer name before
    | getMethodId classObject name signature isStatic =>
      exact exists_getMethodId reads pointer classObject name signature isStatic before
    | throw throwable => exact exists_throw reads pointer throwable before
    | throwNew classObject content => exact exists_throwNew reads pointer classObject content before
    | callStaticObject classObject method arguments =>
      exact exists_callStaticObject reads pointer classObject method arguments before
    | newLocalRef object => exact exists_newLocalRef reads pointer object before
    | newGlobalRef object => exact exists_newGlobalRef reads pointer object before
    | getObjectClass object => exact exists_getObjectClass reads pointer object before
    | getSuperclass classObject => exact exists_getSuperclass reads pointer classObject before
    | callObject receiver method arguments =>
      exact exists_callObject reads pointer receiver method arguments before
    | getStringChars string => exact exists_getStringChars reads pointer string before
    | exceptionCheck => exact ⟨_, before, ⟨rfl, rfl⟩, fun _ ↦ ⟨rfl, rfl⟩, ⟨rfl, rfl⟩,
        fun _ ↦ exists_ledger hnothing fun _ _ ↦ rfl, trivial, hidle, id⟩
    | exceptionOccurred => exact exists_exceptionOccurred reads pointer before
    | exceptionClear =>
      refine ⟨(), { before with pending := none }, rfl, fun _ ↦ rfl, rfl,
        fun _ ↦ exists_ledger hnothing fun _ _ ↦ rfl, trivial, ?_, id⟩
      exact fun hraises ↦ nomatch hraises.2
    | deleteLocalRef reference =>
      refine ⟨(), { before with live := before.live.erase reference }, answers_of_same rfl id
        ⟨rfl, fun other hother ↦ ?_⟩ (fun _ ↦ rfl) (fun _ ↦ hnothing) id⟩
      exact Store.find?_erase_of_ne _ hother
    | deleteGlobalRef reference =>
      exact ⟨(), before, answers_idle id ⟨rfl, fun _ _ ↦ rfl⟩ (fun _ ↦ trivial) rfl id⟩
    | releaseStringChars string =>
      exact ⟨(), before, answers_idle id ⟨fun _ ↦ trivial, fun _ hpending _ ↦ hpending⟩ rfl rfl id⟩
    | exceptionDescribe => exact ⟨(), before, answers_idle id trivial (fun _ ↦ trivial) rfl id⟩
    | getVersion | getArrayLength =>
      exact ⟨0, before, answers_idle id ⟨fun _ ↦ trivial, fun _ hpending _ ↦ hpending⟩
        (fun _ ↦ trivial) rfl id⟩
    | newObject | newString | getArrayElement =>
      exact ⟨none, before, answers_idle id ⟨fun _ ↦ trivial, fun _ hpending _ ↦ hpending⟩
        (fun _ ↦ trivial) rfl id⟩
    | isAssignableFrom | isInstanceOf =>
      exact ⟨false, before, answers_idle id ⟨fun _ ↦ trivial, fun _ hpending _ ↦ hpending⟩
        (fun _ ↦ trivial) rfl id⟩
    | registerNatives =>
      exact ⟨.ok (), before, answers_idle id ⟨fun _ ↦ trivial, fun _ hpending _ ↦ hpending⟩
        (fun _ ↦ trivial) rfl id⟩
    | callPrimitive kind =>
      exact ⟨kind.zero, before, answers_idle id ⟨fun _ ↦ trivial, fun _ hpending _ ↦ hpending⟩
        (fun _ ↦ trivial) rfl id⟩
    | callVoid | callStaticVoid =>
      exact ⟨(), before, answers_idle id ⟨fun _ ↦ trivial, fun _ hpending _ ↦ hpending⟩
        (fun _ ↦ trivial) rfl id⟩
  | getEnv vm version =>
    exact ⟨.ok ⟨vm, 1⟩, before, ⟨rfl, fun _ ↦ rfl⟩, fun _ ↦ trivial, id, fun _ live ↦ ⟨live, rfl⟩,
      .inr ⟨_, rfl, rfl⟩, hidle, id⟩
  | attach vm request =>
    exact ⟨.ok ⟨vm, 1⟩, before, fun _ ↦ rfl, fun _ ↦ trivial, id, fun _ live ↦ ⟨live, rfl⟩,
      ⟨_, rfl, rfl⟩, hidle, id⟩
  | create | list =>
    exact ⟨.error .unknown, before, trivial, fun _ ↦ trivial, id, fun _ live ↦ ⟨live, rfl⟩,
      trivial, hidle, id⟩
  | detach =>
    exact ⟨.ok (), before, fun _ ↦ rfl, fun _ ↦ trivial, id, fun _ live ↦ ⟨live, rfl⟩, trivial,
      hidle, id⟩
  | destroy =>
    exact ⟨.ok (), before, trivial, fun _ ↦ trivial, id, fun _ live ↦ ⟨live, rfl⟩, trivial,
      hidle, id⟩

end Sample

end JavaInterop
