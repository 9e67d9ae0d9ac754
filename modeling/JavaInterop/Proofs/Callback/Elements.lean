import JavaInterop.Callback.Arguments
import JavaInterop.Proofs.Environment.Operation
import JavaInterop.Proofs.Exception.Inspection

/-!
# Elements of an array

The arguments of a callback are the elements of an array of objects.  A machine numbers them with
signed 32-bit numbers, and the bridge with natural ones, which are narrowed for the call.  What is
obtained is therefore the element whose number is the index modulo `2 ^ 32`.  An argument is only
asked for after its index was compared with the length, so here the narrowing does nothing.

The law says what a machine knows about its arrays, and that it raises an exception for a number
that is not one of an element.
-/

namespace JavaInterop

open Program (Ensures)

/-! ## Arrays -/

/-- The arrays of a machine, with what references stand for and whether an exception is pending.
Objects are numbers. -/
structure Arrays where
  object : Handle → Option Nat
  /-- The elements of an array; null is one, too. -/
  elements : Nat → List (Option Nat)
  pending : Bool
  short : ∀ array, (elements array).length < 0x80000000

namespace Arrays

/-- The element with a signed number. -/
def element? (arrays : Arrays) (array : Nat) (index : Int32) : Option (Option Nat) :=
  if index.toInt < 0 then none else (arrays.elements array)[index.toInt.toNat]?

/-- The reference stands for an element, which may be null. -/
def Holds (arrays : Arrays) (env : Env) (reference : Option LocalReference)
    (content : Option Nat) : Prop :=
  match content with
  | none => reference = none
  | some object =>
    ∃ handle, reference = some ⟨env, some handle⟩ ∧ arrays.object handle = some object

/-- The number of an element that is obtained is the one asked for, modulo `2 ^ 32`. -/
theorem element?_ofNat (arrays : Arrays) (array index : Nat) :
    arrays.element? array (Int32.ofNat index) = (arrays.elements array)[index % 0x100000000]? := by
  have hshort := arrays.short array
  have hvalue : (Int32.ofNat index).toInt = (index : Int).bmod 0x100000000 := by
    simp
  unfold element?
  rw [hvalue]
  split
  · rename_i hnegative
    have hlarge : (arrays.elements array).length ≤ index % 0x100000000 := by
      rw [Int.bmod_def] at hnegative
      omega
    rw [List.getElem?_eq_none hlarge]
  · rename_i hnonnegative
    have hsame : ((index : Int).bmod 0x100000000).toNat = index % 0x100000000 := by
      rw [Int.bmod_def] at hnonnegative ⊢
      omega
    rw [hsame]

end Arrays

/-- What happens to the arrays in a call of a machine.  Only an exception is pending after a number
that no element has. -/
def ArrayLaw (before after : Arrays) : (request : Call) → request.Reply → Prop
  | .env _ (.getArrayLength array), reply => after = before ∧
    ∀ object, before.object array = some object →
      reply = Int32.ofNat (before.elements object).length
  | .env _ (.getArrayElement array index), reply =>
    ∀ object, before.object array = some object →
      match before.element? object index with
      | none => after.pending = true
      | some none => reply = none ∧ after.pending = before.pending
      | some (some content) => ∃ handle, reply = some handle ∧
        after.object handle = some content ∧ after.pending = before.pending
  | .env _ .exceptionOccurred, reply => reply.isSome = before.pending ∧
    (before.pending = false → after = before)
  | _, _ => True

variable [Host]

def Exchange.KeepsArrays (exchange : Exchange Arrays) : Prop :=
  ArrayLaw exchange.before.outside exchange.after.outside exchange.request exchange.reply

/-- The outcome of reading the element with a given number: a reference to it, or an error if there
is none. -/
structure Reads (env : Env) (contents : List (Option Nat)) (index : Nat)
    (result : Except Error (Option LocalReference)) (last : Moment Arrays) : Prop where
  found : ∀ content, contents[index]? = some content →
    ∃ reference, result = .ok reference ∧ last.outside.Holds env reference content
  missing : contents[index]? = none → Failed result

variable {α : Type} {thread : NativeThread} {first : Moment Arrays} {env : Env}
  {array : Handle} {object : Nat}

/-- After the call the machine is asked for an exception. -/
theorem ensures_arrayElement (harray : first.outside.object array = some object)
    (hcalm : first.outside.pending = false) (index : Nat) :
    Ensures Exchange.KeepsArrays thread (env.arrayElement (some array) index).run first
      fun _ result last ↦
        Reads env (first.outside.elements object) (index % 0x100000000) result last := by
  unfold Env.arrayElement
  rw [Fallible.nonNull, pure_bind, Fallible.ensures_liftThen, Env.perform,
    Program.ensures_perform]
  intro element called hcalled
  replace hcalled := hcalled object harray
  change match first.outside.element? object (Int32.ofNat index) with
    | none => called.outside.pending = true
    | some none => element = none ∧ called.outside.pending = first.outside.pending
    | some (some content) => ∃ handle, element = some handle ∧
      called.outside.object handle = some content ∧
        called.outside.pending = first.outside.pending at hcalled
  rw [Arrays.element?_ofNat] at hcalled
  rw [Fallible.ensures_bind]
  refine ensures_catchPending_cases (fun after hlaw ↦ ?_)
    fun throwable after _ error _ hlaw ↦ ?_
  · -- No exception was pending, so there is an element.
    obtain ⟨hnone, hsame⟩ := hlaw
    replace hnone : called.outside.pending = false := hnone.symm
    replace hsame : after.outside = called.outside := hsame hnone
    rw [Fallible.continues_ok, Fallible.ensures_pure]
    refine ⟨fun content hcontent ↦ ⟨_, rfl, ?_⟩, fun hmissing ↦ ?_⟩
    · rw [hcontent] at hcalled
      rw [hsame]
      cases content with
      | none =>
        obtain ⟨rfl, -⟩ := hcalled
        rfl
      | some content =>
        obtain ⟨handle, rfl, hhandle, -⟩ := hcalled
        exact ⟨handle, rfl, hhandle⟩
    · rw [hmissing] at hcalled
      cases hnone.symm.trans hcalled
  · -- One was, so there is none.
    obtain ⟨hsome, -⟩ := hlaw
    replace hsome : called.outside.pending = true := hsome.symm
    refine ⟨fun content hcontent ↦ ?_, fun _ ↦ failed_error error⟩
    rw [hcontent] at hcalled
    have hpending : called.outside.pending = first.outside.pending := by
      cases content with
      | none => exact hcalled.2
      | some content =>
        obtain ⟨handle, -, -, hpending⟩ := hcalled
        exact hpending
    rw [hsome, hcalm] at hpending
    cases hpending

theorem ensures_size (harray : first.outside.object array = some object) :
    Ensures Exchange.KeepsArrays thread (CallArguments.size ⟨env, some array⟩).run first
      fun _ result last ↦ result = .ok (first.outside.elements object).length ∧
        last.outside = first.outside := by
  have hshort := first.outside.short object
  unfold CallArguments.size Env.arrayLength
  rw [Option.isNone_some, if_neg Bool.false_ne_true, Fallible.nonNull, pure_bind,
    Fallible.ensures_liftThen, Env.perform, Program.ensures_perform]
  rintro length after ⟨hsame, hlength⟩
  refine Fallible.ensures_pure.2 ⟨?_, hsame⟩
  have hvalue : length.toInt = (first.outside.elements object).length := by
    rw [show length = Int32.ofNat (first.outside.elements object).length from
      hlength object harray, Int32.toInt_ofNat_of_lt hshort]
  rw [hvalue, Int.toNat_natCast]

/-- An argument is read with its own index, since it is compared with their number before. -/
theorem ensures_get (harray : first.outside.object array = some object)
    (hcalm : first.outside.pending = false) (index : Nat) :
    Ensures Exchange.KeepsArrays thread (CallArguments.get ⟨env, some array⟩ index).run first
      fun _ result last ↦ Reads env (first.outside.elements object) index result last := by
  unfold CallArguments.get
  rw [Fallible.ensures_bind]
  refine (ensures_size harray).weaken ?_
  rintro _ _ middle ⟨rfl, hmiddle⟩
  rw [Fallible.continues_ok]
  dsimp only
  have hlength := first.outside.short object
  split
  · rename_i houtside
    rw [Fallible.run_throw_bind, Program.ensures_pure]
    exact ⟨fun content hcontent ↦ (by simp [houtside] at hcontent), fun _ ↦ failed_error _⟩
  · rename_i hinside
    have hsmall : index % 0x100000000 = index := Nat.mod_eq_of_lt (by omega)
    have hreads : Ensures Exchange.KeepsArrays thread (env.arrayElement (some array) index).run
        middle _ :=
      ensures_arrayElement (hmiddle.symm ▸ harray) (hmiddle.symm ▸ hcalm) index
    rw [hmiddle, hsmall] at hreads
    exact hreads.weaken fun _ _ _ hresult ↦ hresult

/-! ## All ways to read an element -/

/-- An operation that begins by reading the element with a given number and goes on with a reference
to it.  If there is none it fails. -/
structure Picks (env : Env) (contents : List (Option Nat)) (index : Nat)
    (next : Option LocalReference → Fallible α) (thread : NativeThread)
    (exchanges : List (Exchange Arrays)) (result : Except Error α) (last : Moment Arrays) :
    Prop where
  found : ∀ content, contents[index]? = some content →
    ∃ reference begun middle rest, middle.outside.Holds env reference content ∧
      exchanges = begun ++ rest ∧ (next reference).run.Run thread middle rest result last
  missing : contents[index]? = none → Failed result

theorem ensures_get_bind (harray : first.outside.object array = some object)
    (hcalm : first.outside.pending = false) (index : Nat)
    (next : Option LocalReference → Fallible α) :
    Ensures Exchange.KeepsArrays thread
      (CallArguments.get ⟨env, some array⟩ index >>= next).run first
      (Picks env (first.outside.elements object) index next thread) := by
  rw [Fallible.ensures_bind]
  refine (ensures_get harray hcalm index).weaken ?_
  rintro begun (error | reference) middle hreads
  · refine ⟨fun content hcontent ↦ ?_, fun _ ↦ failed_error error⟩
    obtain ⟨_, ⟨⟩, -⟩ := hreads.found content hcontent
  · intro rest result last hrest _
    refine ⟨fun content hcontent ↦ ?_, fun hmissing ↦ ?_⟩
    · obtain ⟨_, ⟨⟩, hholds⟩ := hreads.found content hcontent
      exact ⟨reference, begun, middle, rest, hholds, rfl, hrest⟩
    · obtain ⟨_, ⟨⟩⟩ := hreads.missing hmissing

/-- The string that a reference stands for. -/
def stringOf (env : Env) : Option LocalReference → Fallible (Option String)
  | some object => object.scope (some <$> env.getString object.raw)
  | none => return none

/-- The scalar in the box that a reference stands for. -/
def scalarOf (env : Env) (index : Nat) (kind : Primitive) :
    Option LocalReference → Fallible Scalar
  | some object => object.scope (env.unbox object.raw kind)
  | none => throw (.bridge s!"Argument {index} is null, expected a boxed {kind.name}")

theorem string_eq_bind (arguments : CallArguments) (index : Nat) :
    arguments.string index = arguments.get index >>= stringOf arguments.env := by
  unfold CallArguments.string
  refine congrArg _ ?_
  funext reference
  cases reference <;> rfl

theorem unbox_eq_bind (arguments : CallArguments) (index : Nat) (kind : Primitive) :
    arguments.unbox index kind =
      arguments.get index >>= scalarOf arguments.env index kind := by
  unfold CallArguments.unbox
  refine congrArg _ ?_
  funext reference
  cases reference <;> rfl

/-- How the elements of an array are read.  The index of an element is narrowed to 32 bits, which
makes a difference only for indices that do not fit; for an argument it never does. -/
structure Indexing (env : Env) (array : Handle) (contents : List (Option Nat))
    (thread : NativeThread) (first : Moment Arrays) : Prop where
  narrowed : ∀ index, Ensures Exchange.KeepsArrays thread
    (env.arrayElement (some array) index).run first
    fun _ result last ↦ Reads env contents (index % 0x100000000) result last
  fitting : ∀ index < 0x100000000, Ensures Exchange.KeepsArrays thread
    (env.arrayElement (some array) index).run first
    fun _ result last ↦ Reads env contents index result last
  get : ∀ index, Ensures Exchange.KeepsArrays thread
    (CallArguments.get ⟨env, some array⟩ index).run first
    fun _ result last ↦ Reads env contents index result last
  string : ∀ index, Ensures Exchange.KeepsArrays thread
    (CallArguments.string ⟨env, some array⟩ index).run first
    (Picks env contents index (stringOf env) thread)
  unbox : ∀ index kind, Ensures Exchange.KeepsArrays thread
    (CallArguments.unbox ⟨env, some array⟩ index kind).run first
    (Picks env contents index (scalarOf env index kind) thread)

/-- Every array of objects is read in this way, if no exception is pending. -/
theorem Arrays.indexing (harray : first.outside.object array = some object)
    (hcalm : first.outside.pending = false) :
    Indexing env array (first.outside.elements object) thread first where
  narrowed := ensures_arrayElement harray hcalm
  fitting index hindex := by
    have hnarrowed : Ensures Exchange.KeepsArrays thread
        (env.arrayElement (some array) index).run first _ := ensures_arrayElement harray hcalm index
    rw [Nat.mod_eq_of_lt hindex] at hnarrowed
    exact hnarrowed
  get := ensures_get harray hcalm
  string index := by
    rw [string_eq_bind]
    exact ensures_get_bind harray hcalm index _
  unbox index kind := by
    rw [unbox_eq_bind]
    exact ensures_get_bind harray hcalm index _

namespace Sample

/-- An array with one object in it. -/
def single : Arrays where
  object handle := if handle = ⟨vm, 2⟩ then some 0 else none
  elements array := if array = 0 then [some 1] else []
  pending := false
  short array := by split <;> decide

/-- The answer if this element is asked for.  Every object is referred to by the same number. -/
def fetch (before : Moment Arrays) : Option (Option Nat) → Option Handle × Moment Arrays
  | none => (none, ⟨before.bridge, { before.outside with pending := true }⟩)
  | some none => (none, before)
  | some (some content) => (some ⟨vm, 3⟩, ⟨before.bridge, { before.outside with
      object := Function.update before.outside.object ⟨vm, 3⟩ (some content) }⟩)

/-- A machine that knows its arrays. -/
def shelving : Program.Machine Arrays
  | .env _ (.getArrayLength array), before =>
    (((before.outside.object array).elim 0 fun object ↦
      Int32.ofNat (before.outside.elements object).length), before)
  | .env _ (.getArrayElement array index), before =>
    fetch before ((before.outside.object array).bind (before.outside.element? · index))
  | .env _ .exceptionOccurred, before =>
    (if before.outside.pending then some ⟨vm, 4⟩ else none, before)
  | request, before => (nothing request, before)

theorem keepsArrays_shelving (thread : NativeThread) (request : Call)
    (before : Moment Arrays) :
    Exchange.KeepsArrays ⟨thread, request, (shelving request before).1, before,
      (shelving request before).2⟩ := by
  cases request with
  | env pointer function =>
    cases function with
    | getArrayLength array =>
      refine ⟨rfl, fun object hobject ↦ ?_⟩
      simp [shelving, show before.outside.object array = some object from hobject]
    | getArrayElement array index =>
      intro object hobject
      replace hobject : before.outside.object array = some object := hobject
      simp only [shelving, hobject, Option.bind_some]
      rcases before.outside.element? object index with _ | _ | content
      · rfl
      · exact ⟨rfl, rfl⟩
      · exact ⟨⟨vm, 3⟩, rfl, by simp [fetch], rfl⟩
    | exceptionOccurred =>
      refine ⟨?_, fun _ ↦ rfl⟩
      cases hpending : before.outside.pending <;> simp [shelving, hpending]
    | _ => exact trivial
  | _ => exact trivial

end Sample

omit [Host] in
/-- The argument of a call with one argument is read. -/
theorem Arrays.indexing_single :
    let _ := Sample.host
    let first : Moment Arrays := ⟨Sample.bridge, Sample.single⟩
    first.outside.object ⟨Sample.vm, 2⟩ = some 0 ∧ first.outside.pending = false ∧
      first.outside.elements 0 = [some 1] ∧
      Indexing Sample.env ⟨Sample.vm, 2⟩ [some 1] Sample.thread first := by
  intro _ first
  have harray : first.outside.object ⟨Sample.vm, 2⟩ = some 0 := by decide
  exact ⟨harray, rfl, rfl, Arrays.indexing harray rfl⟩

omit [Host] in
/-- An array with one element has no element number `2 ^ 32`, but reading it gives the first one. -/
theorem Arrays.element_of_wrapped_index :
    let _ := Sample.host
    let first : Moment Arrays := ⟨Sample.bridge, Sample.single⟩
    first.outside.object ⟨Sample.vm, 2⟩ = some 0 ∧ first.outside.pending = false ∧
      first.outside.elements 0 = [some 1] ∧
      ∃ exchanges result last,
        (Sample.env.arrayElement (some ⟨Sample.vm, 2⟩) 0x100000000).run.Run Sample.thread first
          exchanges result last ∧ (∀ exchange ∈ exchanges, exchange.KeepsArrays) ∧
        result = .ok (some ⟨Sample.env, some ⟨Sample.vm, 3⟩⟩) ∧
        last.outside.object ⟨Sample.vm, 3⟩ = some 1 ∧
        ¬ Reads Sample.env [some 1] 0x100000000 result last := by
  intro _ first
  let program := (Sample.env.arrayElement (some ⟨Sample.vm, 2⟩) 0x100000000).run
  have hresult : (program.play Sample.shelving Sample.thread first).2.1 =
      .ok (some ⟨Sample.env, some ⟨Sample.vm, 3⟩⟩) := by
    rfl
  refine ⟨by decide, rfl, rfl, _, _, _, Program.run_play Sample.shelving program,
    Program.lawful_play program (Sample.keepsArrays_shelving Sample.thread), hresult, by rfl,
    fun hreads ↦ ?_⟩
  obtain ⟨error, herror⟩ := hreads.missing (by simp)
  cases hresult.symm.trans herror

end JavaInterop
