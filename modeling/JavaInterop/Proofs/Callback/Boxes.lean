import JavaInterop.Proofs.Callback.Boundary
import JavaInterop.Proofs.Callback.Elements

/-!
# Scalars in boxes

A scalar of any kind is put into a box by the class for its kind and taken out by the method that is
named for the kind.  The class, the two methods with their signatures and the function that calls
the second one are chosen in different places, and all of them fit: what is taken out is what was
put in, bit by bit.  Taking out a scalar of another kind is refused before any method of the box is
called.

The same box reaches Java when a callback returns the scalar, and a box that Java passes as an
argument is opened in the same way.  The machine may raise an exception or refuse a reference at any
time, and only then an operation fails for another reason.
-/

namespace JavaInterop

open Program (Ensures)
open Hierarchy (Heap)
open Text.ModifiedUtf8 (encode)

/-- A class library with the methods that take scalars out of their boxes, and with arrays of
objects. -/
structure Library extends Platform where
  /-- The method of the wrapper class of a kind that gives what a box holds. -/
  unboxer : Primitive → MethodId
  /-- The elements of an array; null is one, too. -/
  elements : Object → List (Option Object)
  short : ∀ array, (elements array).length < 0x80000000

namespace Library

variable {library : Library}

/-- What is relied on where boxes are opened and arguments are read, while no exception is pending.
A box is an instance of its own class only, and its method gives what it holds. -/
def Tells (before after : library.toHierarchy.Heap) :
    (function : EnvFunction) → function.Reply → Prop
  | .isInstanceOf object classObject, reply => after = before ∧ ∀ handle known scalar kind,
    object = some handle → before.live.find? handle = some (.object known) →
    library.boxed known = some scalar →
    before.live.find? classObject = some (.classObject (library.wrapper kind)) →
    (reply = true ↔ library.classOf known = library.wrapper kind)
  | .getMethodId classObject name signature isStatic, reply => ∀ kind : Primitive,
    before.live.find? classObject = some (.classObject (library.wrapper kind)) →
    name = encode (javaLang kind).taking → signature = encode (javaLang kind).takingSignature →
    isStatic = false →
    reply = none ∧ before.Raises after ∨ reply = some (library.unboxer kind) ∧ after = before
  | .callPrimitive kind receiver method arguments, reply => ∀ known scalar,
    before.live.find? receiver = some (.object known) → library.boxed known = some scalar →
    kind = scalar.kind → method = library.unboxer kind → arguments = [] →
    before.Raises after ∨ Scalar.of kind reply = scalar ∧ after = before
  | .getArrayLength array, reply => ∀ known, before.live.find? array = some (.object known) →
    reply = Int32.ofNat (library.elements known).length ∧ after = before
  | .getArrayElement array index, reply => ∀ known (number : Nat) content,
    before.live.find? array = some (.object known) → index.toInt = number →
    (library.elements known)[number]? = some (some content) →
    before.Yields after reply (.object content)
  | _, _ => True

/-- What may be relied on in a call besides what the way back into Java needs. -/
def Law (before after : library.toHierarchy.Heap) : (request : Call) → request.Reply → Prop
  | .env _ function, reply => before.pending = none → Tells before after function reply
  | _, _ => True

/-- No two kinds have the same wrapper class. -/
theorem wrapper_injective : Function.Injective library.wrapper := by
  intro first second hsame
  have hname := congrArg library.name hsame
  rw [library.name_wrapper, library.name_wrapper] at hname
  revert hname
  cases first <;> cases second <;> decide +kernel

theorem ofText_unboxMethod (kind : Primitive) :
    Text.CString.ofText kind.unboxMethod = .ok (encode (javaLang kind).taking) := by
  cases kind <;> decide +kernel

theorem ofText_unboxSignature (kind : Primitive) :
    Text.CString.ofText kind.unboxSignature = .ok (encode (javaLang kind).takingSignature) := by
  cases kind <;> decide +kernel

theorem name_eq (kind : Primitive) : kind.name = (javaLang kind).keyword := by
  cases kind <;> rfl

theorem wrapperDotted_eq (kind : Primitive) : kind.wrapperDotted = (javaLang kind).dotted := by
  cases kind <;> decide +kernel

end Library

/-- A method that gives a scalar is called. -/
def Call.Unboxes : Call → Prop
  | .env _ (.callPrimitive ..) => True
  | _ => False

section

variable [Host] {library : Library} {caller : VmId} {env : Env} {thread : NativeThread}
  {first : Moment library.toHierarchy.Heap}

/-- An exchange with such a machine, on a thread that a native method of the machine `caller` runs
on. -/
structure Exchange.Unwraps (caller : VmId) (exchange : Exchange library.toHierarchy.Heap) :
    Prop where
  complies : exchange.Complies caller
  law : Library.Law exchange.before.outside exchange.after.outside exchange.request exchange.reply

namespace Library

open Platform (Thwarted Replaces ensures_deleteLocal ensures_catchPending ensures_findClass
  ensures_box)

/-! ## Opening a box -/

/-- The test of a box for the class of a kind is passed exactly if it holds a scalar of that
kind. -/
theorem ensures_isInstanceOf {box wrapper : Handle} {object : library.Object} {scalar : Scalar}
    {kind : Primitive} (hcalm : first.outside.pending = none)
    (hbox : first.outside.live.find? box = some (.object object))
    (hboxed : library.boxed object = some scalar)
    (hwrapper : first.outside.live.find? wrapper = some (.classObject (library.wrapper kind))) :
    Ensures (Exchange.Unwraps caller) thread
      (env.isInstanceOf (some box) (some wrapper)).run first fun exchanges result last ↦
        result = .ok (decide (kind = scalar.kind)) ∧ last.outside = first.outside ∧
          ∀ exchange ∈ exchanges, ¬ exchange.request.Unboxes := by
  unfold Env.isInstanceOf Fallible.nonNull
  rw [pure_bind, Fallible.ensures_lift, Env.perform, Program.ensures_perform]
  intro reply after hunwraps
  obtain ⟨hsame, htest⟩ := hunwraps.law hcalm
  have hreply : reply = true ↔ library.classOf object = library.wrapper kind :=
    htest box object scalar kind rfl hbox hboxed hwrapper
  rw [library.class_boxed object scalar hboxed] at hreply
  have hkind : reply = true ↔ kind = scalar.kind :=
    hreply.trans (wrapper_injective.eq_iff.trans eq_comm)
  refine ⟨congrArg Except.ok (Bool.eq_iff_iff.2 (hkind.trans decide_eq_true_iff.symm)), hsame, ?_⟩
  intro exchange hmem
  obtain rfl := List.mem_singleton.1 hmem
  exact id

/-- The method that opens boxes of a kind is found. -/
theorem ensures_findUnboxer (kind : Primitive) {wrapper : Handle}
    (hcalm : first.outside.pending = none)
    (hwrapper : first.outside.live.find? wrapper = some (.classObject (library.wrapper kind))) :
    Ensures (Exchange.Unwraps caller) thread
      (env.findMethod (some wrapper) kind.unboxMethod kind.unboxSignature false).run first
      fun exchanges result last ↦
        (result = .ok (library.unboxer kind) ∧ last.outside = first.outside) ∨
        Thwarted exchanges result := by
  unfold Env.findMethod Fallible.ended Fallible.nonNull
  rw [ofText_unboxMethod, ofText_unboxSignature, pure_bind, pure_bind, pure_bind,
    Fallible.ensures_liftThen, Env.perform, Program.ensures_perform]
  intro reply after hunwraps
  rcases hunwraps.law hcalm kind hwrapper rfl rfl rfl with ⟨rfl, hraises⟩ | ⟨rfl, hsame⟩
  · have hfailed : Always (do
        throw (← env.withCause
          s!"Unable to find the method, {kind.unboxMethod} {kind.unboxSignature}") :
            Fallible MethodId).run Failed :=
      Always.lift fun _ ↦ Always.throw
    refine (hfailed _ _ thread after).weaken ?_
    refine fun _ _ _ hresult ↦ .inr ⟨hresult, _, List.mem_cons_self, .inl ⟨hraises, ?_⟩⟩
    rintro _ _ ⟨⟩
    exact id
  · exact Fallible.ensures_pure.2 (.inl ⟨rfl, hsame⟩)

/-- The method gives the scalar in the box. -/
theorem ensures_callUnboxer {box : Handle} {object : library.Object} {scalar : Scalar}
    (hcalm : first.outside.pending = none)
    (hbox : first.outside.live.find? box = some (.object object))
    (hboxed : library.boxed object = some scalar) :
    Ensures (Exchange.Unwraps caller) thread
      (env.callPrimitive scalar.kind (some box) (library.unboxer scalar.kind) []).run first
      fun exchanges result _ ↦ result = .ok scalar ∨ Thwarted exchanges result := by
  unfold Env.callPrimitive Fallible.nonNull
  rw [pure_bind, Fallible.ensures_liftThen, Env.perform, Program.ensures_perform]
  intro reply after hunwraps
  have hgives := hunwraps.law hcalm object scalar hbox hboxed rfl rfl rfl
  rw [Fallible.ensures_bind]
  refine (ensures_catchPending.strict fun _ ↦ Exchange.Unwraps.complies).weaken ?_
  rintro begun result middle hcaught
  rcases hgives with hraises | ⟨hscalar, hsame⟩
  · obtain ⟨-, raised, hraised⟩ := id hraises
    rcases hcaught with ⟨hnone, -⟩ | ⟨-, error, rfl⟩
    · rw [hnone] at hraised
      cases hraised
    · refine .inr ⟨failed_error error, _, List.mem_cons_self, .inl ⟨hraises, ?_⟩⟩
      rintro _ _ ⟨⟩
      exact id
  · rcases hcaught with ⟨-, rfl, -⟩ | ⟨⟨raised, hraised⟩, -⟩
    · exact Fallible.ensures_pure.2 (.inl (congrArg Except.ok hscalar))
    · rw [hsame, hcalm] at hraised
      cases hraised

/-- What taking out a scalar comes to: the scalar itself for its own kind, and for any other kind a
refusal without a look into the box.  Otherwise the machine has raised an exception. -/
def Opens (scalar : Scalar) (kind : Primitive)
    (exchanges : List (Exchange library.toHierarchy.Heap)) (result : Except Error Scalar) : Prop :=
  (if kind = scalar.kind then result = .ok scalar
    else result = .error (.bridge (s!"Can not unbox a {(javaLang kind).keyword}: " ++
      s!"the value isn't a {(javaLang kind).dotted}")) ∧
        ∀ exchange ∈ exchanges, ¬ exchange.request.Unboxes) ∨
    Thwarted exchanges result

/-- Nothing but the question for an exception is asked if there is none. -/
theorem yields_catchPending {ω : Type} {law : Exchange ω → Prop} {first : Moment ω} :
    Fallible.Yields law thread env.catchPending first fun exchanges _ _ ↦
      ∀ exchange ∈ exchanges, ¬ exchange.request.Unboxes := by
  refine ensures_catchPending_cases (fun calm _ ↦ ?_) fun _ _ _ _ _ _ ↦ nofun
  intro _ _ exchange hmem
  obtain rfl := List.mem_singleton.1 hmem
  exact id

/-- A class that is found is found without calling a method. -/
theorem yields_findClass {ω : Type} {law : Exchange ω → Prop} {first : Moment ω}
    (internalName : String) :
    Fallible.Yields law thread (env.findClass internalName) first fun exchanges _ _ ↦
      ∀ exchange ∈ exchanges, ¬ exchange.request.Unboxes := by
  unfold Env.findClass Fallible.ended
  cases Text.CString.ofText internalName with
  | error position => exact Fallible.Yields.throwThen
  | ok name =>
    refine Fallible.ensures_liftThen.2 ?_
    rw [Env.perform, Program.ensures_perform]
    intro answer found _
    refine yields_catchPending.bind fun begun _ middle hbegun ↦ ?_
    refine Fallible.Yields.nonNullThen fun classObject _ ↦ Fallible.Yields.done ?_
    intro exchange hmem
    simp only [List.append_nil, List.cons_append, List.nil_append, List.mem_cons] at hmem
    rcases hmem with rfl | hmem
    · exact id
    · exact hbegun exchange hmem

theorem ensures_deleteLocal_idle {ω : Type} {law : Exchange ω → Prop} {first : Moment ω}
    (reference : Option Handle) :
    Ensures law thread (env.deleteLocal reference) first fun exchanges _ _ ↦
      ∀ exchange ∈ exchanges, ¬ exchange.request.Unboxes := by
  unfold Env.deleteLocal LifecycleId.registered?
  cases reference with
  | none => exact Program.ensures_pure.2 fun _ hmem ↦ absurd hmem List.not_mem_nil
  | some handle =>
    rw [Program.ensures_bind, Program.ensures_look]
    split
    · rw [Env.perform, Program.ensures_perform]
      intro _ _ _ exchange hmem
      obtain rfl := List.mem_singleton.1 hmem
      exact id
    · exact Program.ensures_pure.2 fun _ hmem ↦ absurd hmem List.not_mem_nil

/-- What else was exchanged does not matter if it opened no box. -/
theorem Opens.mono {scalar : Scalar} {kind : Primitive}
    {exchanges wider : List (Exchange library.toHierarchy.Heap)} {result : Except Error Scalar}
    (hopens : Opens scalar kind exchanges result) (hsubset : exchanges ⊆ wider)
    (hothers : ∀ exchange ∈ wider, exchange ∈ exchanges ∨ ¬ exchange.request.Unboxes) :
    Opens scalar kind wider result := by
  rcases hopens with hopens | hthwarted
  · left
    split
    · rwa [if_pos ‹_›] at hopens
    · rw [if_neg ‹_›] at hopens
      refine ⟨hopens.1, fun exchange hmem ↦ ?_⟩
      exact (hothers exchange hmem).elim (hopens.2 exchange) id
  · exact .inr (hthwarted.mono hsubset hthwarted.1)

/-- A box gives what it holds to those who ask for its kind. -/
theorem ensures_unbox {box : Handle} {object : library.Object} {scalar : Scalar} (kind : Primitive)
    (hcalm : first.outside.pending = none)
    (hbox : first.outside.live.find? box = some (.object object))
    (hboxed : library.boxed object = some scalar) :
    Ensures (Exchange.Unwraps caller) thread (env.unbox (some box) kind).run first
      fun exchanges result _ ↦ Opens scalar kind exchanges result := by
  unfold Env.unbox
  rw [Fallible.ensures_bind]
  refine (((ensures_findClass kind hcalm).strict fun _ ↦ Exchange.Unwraps.complies).and
    (yields_findClass _)).weaken ?_
  rintro found _ middle ⟨⟨wrapper, rfl, hwrapper⟩ | hthwarted, hfound⟩
  · have hcalm' : middle.outside.pending = none := hwrapper.grows.pending.trans hcalm
    have hbox' := hwrapper.grows.live _ _ hbox
    rw [Fallible.continues_ok, LocalReference.scope, Fallible.ensures_thenAlways,
      Fallible.ensures_bind]
    refine (ensures_isInstanceOf hcalm' hbox' hboxed hwrapper.live).weaken ?_
    rintro tested _ opened ⟨rfl, hsame, htested⟩
    rw [Fallible.continues_ok]
    by_cases hkind : kind = scalar.kind
    · subst hkind
      rw [decide_eq_true rfl, if_pos rfl, Fallible.ensures_bind]
      refine (ensures_findUnboxer scalar.kind (hsame ▸ hcalm') (hsame ▸ hwrapper.live)).weaken ?_
      rintro asked result known (⟨rfl, hsame'⟩ | hthwarted)
      · rw [Fallible.continues_ok]
        refine (ensures_callUnboxer (hsame' ▸ hsame ▸ hcalm') (hsame' ▸ hsame ▸ hbox')
          hboxed).weaken ?_
        intro called result _ hcalled deleted _ last _ _
        rcases hcalled with rfl | hthwarted
        · exact .inl (by rw [if_pos rfl])
        · exact .inr (hthwarted.mono (fun _ hmem ↦ by simp [hmem]) hthwarted.1)
      · obtain ⟨error, rfl⟩ := hthwarted.1
        intro deleted _ last _ _
        exact .inr (hthwarted.mono (fun _ hmem ↦ by simp [hmem]) (failed_error error))
    · rw [decide_eq_false hkind, if_neg Bool.false_ne_true, Fallible.ensures_throw]
      refine (ensures_deleteLocal_idle _).weaken ?_
      intro deleted _ last hdeleted
      refine .inl ?_
      rw [if_neg hkind]
      refine ⟨by rw [name_eq, wrapperDotted_eq], fun exchange hmem ↦ ?_⟩
      simp only [List.append_nil, List.mem_append] at hmem
      rcases hmem with hmem | hmem | hmem
      · exact hfound _ rfl exchange hmem
      · exact htested exchange hmem
      · exact hdeleted exchange hmem
  · obtain ⟨error, rfl⟩ := hthwarted.1
    exact .inr (hthwarted.mono (List.Subset.refl _) (failed_error error))

/-! ## Arguments -/

/-- An element of an array is obtained without opening a box. -/
theorem ensures_arrayElement {array : Handle} {known content : library.Object} {index : Nat}
    (hcalm : first.outside.pending = none)
    (harray : first.outside.live.find? array = some (.object known))
    (hcontent : (library.elements known)[index]? = some (some content)) :
    Ensures (Exchange.Unwraps caller) thread (env.arrayElement (some array) index).run first
      fun exchanges result last ↦ (∃ handle, result = .ok (some (env.own (some handle))) ∧
        first.outside.Gains handle (.object content) last.outside ∧
          ∀ exchange ∈ exchanges, ¬ exchange.request.Unboxes) ∨
        Thwarted exchanges result := by
  have hshort := library.short known
  have hinside : index < (library.elements known).length :=
    (List.getElem?_eq_some_iff.1 hcontent).1
  have hnumber : (Int32.ofNat index).toInt = index := Int32.toInt_ofNat_of_lt (by omega)
  unfold Env.arrayElement Fallible.nonNull
  rw [pure_bind, Fallible.ensures_liftThen, Env.perform, Program.ensures_perform]
  intro reply after hunwraps
  have hyields := hunwraps.law hcalm known index content harray hnumber hcontent
  rw [Fallible.ensures_bind]
  refine ((ensures_catchPending.strict fun _ ↦ Exchange.Unwraps.complies).and
    yields_catchPending).weaken ?_
  rintro begun result middle ⟨hcaught, hbegun⟩
  rcases hyields with ⟨rfl, hraises⟩ | hoffers
  · obtain ⟨-, raised, hraised⟩ := id hraises
    rcases hcaught with ⟨hnone, -⟩ | ⟨-, error, rfl⟩
    · rw [hnone] at hraised
      cases hraised
    · refine .inr ⟨failed_error error, _, List.mem_cons_self, .inl ⟨hraises, ?_⟩⟩
      rintro _ _ ⟨⟩
      exact id
  · obtain ⟨handle, rfl, hgains⟩ := Heap.Offers.gains hoffers
    rcases hcaught with ⟨-, rfl, hsame⟩ | ⟨⟨raised, hraised⟩, -⟩
    · refine Fallible.ensures_pure.2 (.inl ⟨handle, rfl, hsame ▸ hgains, fun exchange hmem ↦ ?_⟩)
      simp only [List.append_nil, List.cons_append, List.nil_append, List.mem_cons] at hmem
      rcases hmem with rfl | hmem
      · exact id
      · exact hbegun () rfl exchange hmem
    · rw [hgains.grows.pending, hcalm] at hraised
      cases hraised

/-- An argument that is a box gives what it holds to those who ask for its kind. -/
theorem ensures_unboxArgument {array : Handle} {known box : library.Object} {index : Nat}
    {scalar : Scalar} (kind : Primitive) (hcalm : first.outside.pending = none)
    (harray : first.outside.live.find? array = some (.object known))
    (hbox : (library.elements known)[index]? = some (some box))
    (hboxed : library.boxed box = some scalar) :
    Ensures (Exchange.Unwraps caller) thread
      (CallArguments.unbox ⟨env, some array⟩ index kind).run first
      fun exchanges result _ ↦ Opens scalar kind exchanges result := by
  have hshort := library.short known
  have hinside : index < (library.elements known).length := (List.getElem?_eq_some_iff.1 hbox).1
  rw [unbox_eq_bind]
  unfold CallArguments.get CallArguments.size Env.arrayLength
  rw [Option.isNone_some, if_neg Bool.false_ne_true, Fallible.nonNull]
  simp only [pure_bind, bind_assoc]
  rw [Fallible.ensures_liftThen, Env.perform, Program.ensures_perform]
  intro length counted hunwraps
  obtain ⟨rfl, hsame⟩ := hunwraps.law hcalm known harray
  have hlength : (Int32.ofNat (library.elements known).length).toInt.toNat =
      (library.elements known).length := by
    rw [Int32.toInt_ofNat_of_lt hshort, Int.toNat_natCast]
  rw [hlength, if_neg (Nat.not_le.2 hinside), Fallible.ensures_bind]
  refine (ensures_arrayElement (hsame ▸ hcalm) (hsame ▸ harray) hbox).weaken ?_
  rintro begun _ middle (⟨handle, rfl, hgains, hbegun⟩ | hthwarted)
  · have hcalm' : middle.outside.pending = none := by rw [hgains.grows.pending, hsame, hcalm]
    rw [Fallible.continues_ok, scalarOf, LocalReference.scope, Fallible.ensures_thenAlways]
    refine (ensures_unbox kind hcalm' hgains.live hboxed).weaken ?_
    intro opening result opened hopens
    refine (ensures_deleteLocal_idle _).weaken ?_
    intro deleted _ last hdeleted
    refine hopens.mono (fun _ hmem ↦ by simp [hmem]) fun exchange hmem ↦ ?_
    simp only [List.cons_append, List.nil_append, List.mem_cons, List.mem_append] at hmem
    rcases hmem with rfl | hmem | hmem | hmem
    · exact .inr id
    · exact .inr (hbegun exchange hmem)
    · exact .inl hmem
    · exact .inr (hdeleted exchange hmem)
  · obtain ⟨error, rfl⟩ := hthwarted.1
    exact .inr (hthwarted.mono (fun _ hmem ↦ by simp [hmem]) (failed_error error))

end Library

/-! ## Results of callbacks -/

/-- Java gets the box of the scalar, with no exception pending, or the scalar cannot be boxed
because the machine raises an exception on the way. -/
def Library.Boxes (scalar : Scalar) (rest : List (Exchange library.toHierarchy.Heap))
    (result : Option Handle) (heap : library.toHierarchy.Heap) : Prop :=
  (∃ box object, result = some box ∧ heap.pending = none ∧
    heap.live.find? box = some (.object object) ∧ library.boxed object = some scalar) ∨
  ∃ exchange ∈ rest, exchange.Raises ∨ exchange.request.Refused exchange.reply

/-- A callback that leaves no exception behind and returns a scalar makes Java see its box. -/
theorem ensures_conclude_boxes {pointer : EnvPointer} (scalar : Scalar)
    (hcalm : first.outside.pending = none) :
    Ensures (Exchange.Unwraps caller) thread (conclude pointer env (.returned (.scalar scalar)))
      first fun rest result last ↦ Library.Boxes scalar rest result last.outside := by
  refine ((Platform.ensures_conclude _).strict fun _ ↦ Exchange.Unwraps.complies).weaken ?_
  intro rest result last hlands
  rcases hlands hcalm with ⟨hpending, hbecomes⟩ |
    ⟨error, converting, after, later, -, rfl, hunmade, -⟩
  · cases hbecomes with
    | @scalar _ object box hboxed _ hlive =>
      exact .inl ⟨box, object, rfl, hpending, hlive, hboxed⟩
  · rcases hunmade with ⟨_, hvalue, -⟩ | ⟨exchange, hmem, hcause⟩
    · cases hvalue
    · exact .inr ⟨exchange, List.mem_append_left _ hmem, hcause⟩

/-! ## The whole way -/

/-- How scalars come back from their boxes. -/
structure Library.ScalarsReturn (library : Library) (caller : VmId) (env : Env)
    (thread : NativeThread) : Prop where
  /-- The object that a scalar becomes gives the scalar to those who ask for its kind, and nothing
  to others. -/
  boxed : ∀ (scalar : Scalar) (first : Moment library.toHierarchy.Heap),
    first.outside.pending = none →
    Ensures (Exchange.Unwraps caller) thread ((Value.scalar scalar).toObject env).run first
      fun boxing result middle ↦
        (∃ box, result = .ok (some (env.own (some box))) ∧ ∀ kind,
          Ensures (Exchange.Unwraps caller) thread (env.unbox (some box) kind).run middle
            fun opening result _ ↦ Library.Opens scalar kind opening result) ∨
        Platform.Thwarted boxing result
  /-- A call from Java whose callback returns a scalar gives the box of it, and the box gives the
  scalar. -/
  returned : ∀ {run : CallbackRunner} {pointer : EnvPointer} {table : Int64} {index : Int32}
    {receiver array : Option Handle} {callback : Host.Callback}
    {first : Moment library.toHierarchy.Heap},
    first.bridge.route pointer table index = .ok (callback, env) →
    ∀ exchanges result last,
      (invokeNative run pointer table index receiver array).Run thread first exchanges result
        last →
      ∃ begun outcome middle rest, exchanges = begun ++ rest ∧
        (run callback env receiver ⟨env, array⟩).Run thread first begun outcome middle ∧
        ∀ scalar, outcome = .returned (.scalar scalar) → middle.outside.pending = none →
          (∀ exchange ∈ rest, exchange.Unwraps caller) →
          Library.Boxes scalar rest result last.outside
  /-- A box that Java passes as an argument gives what it holds. -/
  argument : ∀ {array : Handle} {known box : library.Object} {index : Nat} {scalar : Scalar}
    (kind : Primitive) (first : Moment library.toHierarchy.Heap), first.outside.pending = none →
    first.outside.live.find? array = some (.object known) →
    (library.elements known)[index]? = some (some box) → library.boxed box = some scalar →
    Ensures (Exchange.Unwraps caller) thread
      (CallArguments.unbox ⟨env, some array⟩ index kind).run first
      fun exchanges result _ ↦ Library.Opens scalar kind exchanges result

/-- Every scalar comes back from its box. -/
theorem Library.scalars_return (library : Library) (caller : VmId) (env : Env)
    (thread : NativeThread) : library.ScalarsReturn caller env thread where
  boxed scalar first hcalm := by
    refine ((Platform.ensures_box scalar hcalm).strict fun _ ↦ Exchange.Unwraps.complies).weaken ?_
    rintro boxing _ middle (⟨box, object, rfl, hboxed, hgains⟩ | hthwarted)
    · exact .inl ⟨box, rfl, fun kind ↦
        Library.ensures_unbox kind (hgains.grows.pending.trans hcalm) hgains.live hboxed⟩
    · exact .inr hthwarted
  returned hroute exchanges result last hrun := by
    rw [run_invokeNative, hroute] at hrun
    obtain ⟨begun, outcome, middle, rest, hbegun, hrest, rfl⟩ := Program.Run.of_bind hrun
    refine ⟨begun, outcome, middle, rest, rfl, hbegun, ?_⟩
    rintro scalar rfl hcalm hlaw
    exact ensures_conclude_boxes scalar hcalm rest result last hrest hlaw
  argument kind first hcalm harray hbox hboxed :=
    Library.ensures_unboxArgument kind hcalm harray hbox hboxed

end

/-! ## A number that is none -/

namespace Sample

/-- The class library of the machine that answers everything.  Each object counts as an array that
holds itself alone. -/
def library : Library where
  toPlatform := platform
  unboxer _ := ⟨vm, 3⟩
  elements object := [some object]
  short _ := by simp

/-- How the machine answers: it raises no exception and refuses nothing. -/
structure Unwrapping [Host] (exchange : Exchange library.toHierarchy.Heap) : Prop where
  unwraps : exchange.Unwraps vm
  steady : ¬ exchange.Raises
  granted : ¬ exchange.request.Refused exchange.reply

theorem Unwrapping.not_thwarted [Host] {α : Type}
    {exchanges : List (Exchange library.toHierarchy.Heap)} {result : Except Error α}
    (hlaw : ∀ exchange ∈ exchanges, Unwrapping exchange) :
    ¬ Platform.Thwarted exchanges result := by
  rintro ⟨-, exchange, hmem, hcause⟩
  exact hcause.elim (hlaw exchange hmem).steady (hlaw exchange hmem).granted

/-- An answer that leaves everything as it is. -/
theorem unwrapping_idle [Host] {pointer : EnvPointer} {function : EnvFunction}
    {reply : function.Reply} {before : Moment library.toHierarchy.Heap}
    (hcomplies : Platform.Law vm before.outside before.outside (.env pointer function) reply)
    (htells : Library.Tells before.outside before.outside function reply)
    (hgranted : ¬ Call.Refused (.env pointer function) reply) :
    ∃ reply after, Unwrapping ⟨thread, .env pointer function, reply, before, after⟩ := by
  refine ⟨reply, before, ⟨hcomplies, fun _ ↦ htells⟩, ?_, hgranted⟩
  rintro ⟨⟨hnone, object, hobject⟩, -⟩
  rw [hnone] at hobject
  cases hobject

theorem exists_unwrapping [Host] (request : Call) (before : Moment library.toHierarchy.Heap) :
    ∃ reply after, Unwrapping ⟨thread, request, reply, before, after⟩ := by
  have hplain : (∀ heap reply, Library.Law before.outside heap request reply) →
      ∃ reply after, Unwrapping ⟨thread, request, reply, before, after⟩ := by
    intro hlaw
    obtain ⟨reply, heap, hanswers⟩ := exists_answers false before.outside request
    refine ⟨reply, ⟨before.bridge, heap⟩, ⟨hanswers.complies, hlaw heap reply⟩, ?_,
      hanswers.granted⟩
    rintro ⟨hraises, hown⟩
    obtain ⟨pointer, function, hrequest, hreplaces⟩ := hanswers.steady hraises
    exact hown pointer function hrequest hreplaces
  cases request with
  | env pointer function =>
    cases function with
    | isInstanceOf object classObject =>
      by_cases hknown : ∃ handle known kind, object = some handle ∧
        before.outside.live.find? handle = some (.object known) ∧
        before.outside.live.find? classObject = some (.classObject (library.wrapper kind))
      · obtain ⟨handle, known, kind, rfl, hhandle, hclass⟩ := hknown
        classical
        refine @unwrapping_idle _ _ _ (decide (library.classOf known = library.wrapper kind)) _
          ⟨fun _ ↦ trivial, fun _ hpending _ ↦ hpending⟩ ⟨rfl, ?_⟩ id
        rintro _ other scalar kind' ⟨⟩ hother - hclass'
        cases hhandle.symm.trans hother
        cases Library.wrapper_injective
          (Hierarchy.Denoted.classObject.inj (Option.some.inj (hclass.symm.trans hclass')))
        exact decide_eq_true_iff
      · refine @unwrapping_idle _ _ _ false _ ⟨fun _ ↦ trivial, fun _ hpending _ ↦ hpending⟩
          ⟨rfl, fun handle known _ kind hobject hhandle _ hclass ↦ ?_⟩ id
        exact absurd ⟨handle, known, kind, hobject, hhandle, hclass⟩ hknown
    | getMethodId classObject name signature isStatic =>
      exact @unwrapping_idle _ _ _ (some ⟨vm, 3⟩) _
        ⟨fun _ kind _ _ _ _ ↦ .inr ⟨rfl, rfl⟩, fun _ hpending _ ↦ hpending⟩
        (fun kind _ _ _ _ ↦ .inr ⟨rfl, rfl⟩) id
    | callPrimitive kind receiver method arguments =>
      by_cases hknown : ∃ known scalar, before.outside.live.find? receiver = some (.object known) ∧
        library.boxed known = some scalar ∧ kind = scalar.kind
      · obtain ⟨known, scalar, hreceiver, hboxed, rfl⟩ := hknown
        refine @unwrapping_idle _ _ _ scalar.value _
          ⟨fun _ ↦ trivial, fun _ hpending _ ↦ hpending⟩ ?_ id
        rintro other held hother hheld - - -
        cases hreceiver.symm.trans hother
        cases hboxed.symm.trans hheld
        exact .inr ⟨scalar.of_value, rfl⟩
      · refine @unwrapping_idle _ _ _ kind.zero _
          ⟨fun _ ↦ trivial, fun _ hpending _ ↦ hpending⟩ ?_ id
        intro known scalar hreceiver hboxed hkind _ _
        exact absurd ⟨known, scalar, hreceiver, hboxed, hkind⟩ hknown
    | getArrayLength array =>
      exact @unwrapping_idle _ _ _ 1 _ ⟨fun _ ↦ trivial, fun _ hpending _ ↦ hpending⟩
        (fun _ _ ↦ ⟨rfl, rfl⟩) id
    | getArrayElement array index =>
      by_cases hknown : ∃ known, before.outside.live.find? array = some (.object known)
      · obtain ⟨known, harray⟩ := hknown
        obtain ⟨reply, after, hoffers, hsame, -⟩ :=
          exists_fresh vm before.outside (some (.object known))
        refine ⟨reply, ⟨before.bridge, after⟩, ⟨⟨fun _ ↦ trivial, fun _ hpending _ ↦
          hsame.trans hpending⟩, fun _ other number content hother _ hcontent ↦ .inr ?_⟩, ?_, id⟩
        · cases harray.symm.trans hother
          have hsingle : [some known][number]? = some (some content) := hcontent
          cases List.mem_singleton.1 (List.mem_of_getElem? hsingle)
          exact hoffers
        · rintro ⟨⟨hnone, object, hobject⟩, -⟩
          rw [show after.pending = before.outside.pending from hsame, hnone] at hobject
          cases hobject
      · refine @unwrapping_idle _ _ _ none _ ⟨fun _ ↦ trivial, fun _ hpending _ ↦ hpending⟩ ?_ id
        exact fun known _ _ harray _ _ ↦ absurd ⟨known, harray⟩ hknown
    | _ => exact hplain fun _ _ _ ↦ trivial
  | _ => exact hplain fun _ _ ↦ trivial

end Sample

/-- A signalling bit pattern that stands for no number comes out of its box as it went in. -/
theorem Library.scalars_return_nan :
    let _ := Sample.host
    ∃ (boxing opening : List (Exchange Sample.library.toHierarchy.Heap)) (box : Handle)
      (middle last : Moment Sample.library.toHierarchy.Heap),
      ((Value.scalar (.double 0x7ff0000000000001)).toObject Sample.env).run.Run Sample.thread
        ⟨Sample.bridge, none, .empty⟩ boxing (.ok (some (Sample.env.own (some box)))) middle ∧
      (Sample.env.unbox (some box) .double).run.Run Sample.thread middle opening
        (.ok (.double 0x7ff0000000000001)) last := by
  intro _
  let first : Moment Sample.library.toHierarchy.Heap := ⟨Sample.bridge, none, .empty⟩
  obtain ⟨boxing, result, middle, hboxing, hlaw⟩ := @Program.exists_run _ _ _ Sample.thread first
    ((Value.scalar (.double 0x7ff0000000000001)).toObject Sample.env).run Sample.Unwrapping
    Sample.exists_unwrapping
  have hreturn := (Library.scalars_return Sample.library Sample.vm Sample.env Sample.thread).boxed
    (.double 0x7ff0000000000001) first rfl boxing result middle hboxing
    fun exchange hmem ↦ (hlaw exchange hmem).unwraps
  rcases hreturn with ⟨box, rfl, hopens⟩ | hthwarted
  · obtain ⟨opening, scalar, last, hopening, hlaw'⟩ := @Program.exists_run _ _ _ Sample.thread
      middle (Sample.env.unbox (some box) .double).run Sample.Unwrapping Sample.exists_unwrapping
    rcases hopens .double opening scalar last hopening
      fun exchange hmem ↦ (hlaw' exchange hmem).unwraps with hscalar | hthwarted
    · obtain rfl : scalar = .ok (.double 0x7ff0000000000001) := hscalar
      exact ⟨boxing, opening, box, middle, last, hboxing, hopening⟩
    · exact absurd hthwarted (Sample.Unwrapping.not_thwarted hlaw')
  · exact absurd hthwarted (Sample.Unwrapping.not_thwarted hlaw)

end JavaInterop
