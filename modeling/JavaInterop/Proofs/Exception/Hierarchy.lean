import JavaInterop.Exception.Catch
import JavaInterop.Proofs.Program.Fallible
import Mathlib.Data.Fintype.EquivFin

/-!
# Objects and their classes

What a machine knows of the objects that native code asks it about: the class of each, the
superclass and the name of a class, and the message of a throwable.  A thread sees all this through
references, and the law says which object each new reference stands for.

The machine answers every question about a reference that is in use, as long as no exception is
pending.  Only a new global reference may be refused.
-/

namespace JavaInterop

open Text.ModifiedUtf8 (encode decode?)

/-- The methods through which a thrown object is inspected. -/
inductive Accessor where
  | getName
  | getMessage
deriving DecidableEq

namespace Accessor

/-- The class that declares the method. -/
def className : Accessor → String
  | getName => "java/lang/Class"
  | getMessage => "java/lang/Throwable"

def methodName : Accessor → String
  | getName => "getName"
  | getMessage => "getMessage"

/-- The two methods are declared in different classes. -/
theorem encode_className_injective {first second : Accessor}
    (hsame : encode first.className = encode second.className) : first = second := by
  revert hsame
  cases first <;> cases second <;> decide +kernel

theorem encode_methodName_injective {first second : Accessor}
    (hsame : encode first.methodName = encode second.methodName) : first = second := by
  revert hsame
  cases first <;> cases second <;> decide +kernel

end Accessor

/-- A text that a machine can give as the characters of a string. -/
def Readable (text : String) : Prop := ∃ chars : Text.CString, decode? chars.bytes = some text

/-- The classes of a machine and its objects. -/
structure Hierarchy where
  Object : Type
  Class : Type
  classOf : Object → Class
  superclass : Class → Option Class
  /-- The dotted name of a class. -/
  name : Class → String
  /-- What an object answers when it is asked for its message. -/
  message : Object → Option String
  declaring : Accessor → Class
  method : Accessor → MethodId
  readable_name : ∀ classObject, Readable (name classObject)
  readable_message : ∀ object text, message object = some text → Readable text

namespace Hierarchy

variable {hierarchy : Hierarchy}

/-- The names of a class and its superclasses, without the root. -/
inductive Lineage (hierarchy : Hierarchy) : hierarchy.Class → List String → Prop
  | root {classObject : hierarchy.Class} (hname : hierarchy.name classObject = rootClass) :
    Lineage hierarchy classObject []
  | inherits {classObject parent : hierarchy.Class} {names : List String}
    (hname : hierarchy.name classObject ≠ rootClass)
    (hparent : hierarchy.superclass classObject = some parent)
    (hrest : Lineage hierarchy parent names) :
    Lineage hierarchy classObject (hierarchy.name classObject :: names)

/-- What a reference may stand for. -/
inductive Denoted (hierarchy : Hierarchy) where
  | object (object : hierarchy.Object)
  | classObject (classObject : hierarchy.Class)
  | string (content : String)

/-- What an accessor gives for whatever it may be called on; the text may be null. -/
def text : Accessor → hierarchy.Denoted → Option (Option String)
  | .getName, .classObject classObject => some (some (hierarchy.name classObject))
  | .getMessage, .object object => some (hierarchy.message object)
  | _, _ => none

/-- Whatever an accessor gives can be read. -/
theorem readable_text {accessor : Accessor} {denoted : hierarchy.Denoted} {content : String}
    (htext : text accessor denoted = some (some content)) : Readable content := by
  cases accessor with
  | getName =>
    cases denoted with
    | classObject classObject =>
      cases htext
      exact hierarchy.readable_name classObject
    | _ => cases htext
  | getMessage =>
    cases denoted with
    | object object =>
      exact hierarchy.readable_message object content (Option.some.inj htext)
    | _ => cases htext

/-- At most one accessor can be called on what a reference stands for. -/
theorem text_unique {first second : Accessor} {denoted : hierarchy.Denoted}
    {content other : Option String} (hfirst : text first denoted = some content)
    (hsecond : text second denoted = some other) : content = other := by
  cases denoted <;> cases first <;> cases second <;> simp_all [text]

/-- What a thread sees of a machine: the exception that is pending, and the references in use. -/
structure Heap (hierarchy : Hierarchy) where
  pending : Option hierarchy.Object
  live : Store Handle hierarchy.Denoted

namespace Heap

/-- The reference stands for something from now on. -/
def add (heap : hierarchy.Heap) (handle : Handle) (denoted : hierarchy.Denoted) : hierarchy.Heap :=
  { heap with live := heap.live.insert handle denoted }

@[simp]
theorem pending_add (heap : hierarchy.Heap) (handle : Handle) (denoted : hierarchy.Denoted) :
    (heap.add handle denoted).pending = heap.pending := rfl

@[simp]
theorem find?_add_self (heap : hierarchy.Heap) (handle : Handle) (denoted : hierarchy.Denoted) :
    (heap.add handle denoted).live.find? handle = some denoted :=
  Store.find?_insert_self _ _ _

/-- A reference that has not been in use stands for something now, or for null. -/
def Offers (before after : hierarchy.Heap) (reply : Option Handle)
    (denoted : Option hierarchy.Denoted) : Prop :=
  match denoted with
  | none => reply = none ∧ after = before
  | some denoted => ∃ handle, reply = some handle ∧ before.live.find? handle = none ∧
      after = before.add handle denoted

/-- The references in use stay so. -/
structure Grows (before after : hierarchy.Heap) : Prop where
  pending : after.pending = before.pending
  live : ∀ handle denoted, before.live.find? handle = some denoted →
    after.live.find? handle = some denoted

theorem Grows.refl (heap : hierarchy.Heap) : heap.Grows heap := ⟨rfl, fun _ _ ↦ id⟩

theorem Grows.trans {first middle last : hierarchy.Heap} (hfirst : first.Grows middle)
    (hlast : middle.Grows last) : first.Grows last :=
  ⟨hlast.pending.trans hfirst.pending, fun handle denoted hlive ↦
    hlast.live handle denoted (hfirst.live handle denoted hlive)⟩

theorem grows_add {heap : hierarchy.Heap} {handle : Handle} (denoted : hierarchy.Denoted)
    (hfresh : heap.live.find? handle = none) : heap.Grows (heap.add handle denoted) := by
  refine ⟨rfl, fun other found hlive ↦ ?_⟩
  have hother : other ≠ handle := by
    rintro rfl
    rw [hfresh] at hlive
    cases hlive
  exact (Store.find?_insert_of_ne _ _ hother).trans hlive

/-- What is new now was not in use before. -/
theorem Grows.fresh {before after : hierarchy.Heap} {handle : Handle} (hgrows : before.Grows after)
    (hfresh : after.live.find? handle = none) : before.live.find? handle = none := by
  cases hlive : before.live.find? handle with
  | none => rfl
  | some denoted =>
    have hstill := hgrows.live handle denoted hlive
    rw [hfresh] at hstill
    cases hstill

/-- At most one reference is given up. -/
structure Forgets (handle : Handle) (before after : hierarchy.Heap) : Prop where
  pending : after.pending = before.pending
  live : ∀ other, other ≠ handle → after.live.find? other = before.live.find? other

/-- Giving up a reference does not concern those that were in use before it. -/
theorem Grows.forgets {first middle last : hierarchy.Heap} {handle : Handle}
    (hgrows : first.Grows middle) (hfresh : first.live.find? handle = none)
    (hforgets : Forgets handle middle last) : first.Grows last := by
  refine ⟨hforgets.pending.trans hgrows.pending, fun other denoted hlive ↦ ?_⟩
  have hother : other ≠ handle := by
    rintro rfl
    rw [hfresh] at hlive
    cases hlive
  rw [hforgets.live other hother]
  exact hgrows.live other denoted hlive

end Heap

/-! ## The law -/

/-- What the machine answers while no exception is pending. -/
def Answers (before after : hierarchy.Heap) : (function : EnvFunction) → function.Reply → Prop
  | .findClass name, reply => ∀ accessor : Accessor, name = encode accessor.className →
    before.Offers after reply (some (.classObject (hierarchy.declaring accessor)))
  | .getMethodId classObject name signature isStatic, reply => ∀ accessor : Accessor,
    before.live.find? classObject = some (.classObject (hierarchy.declaring accessor)) →
    name = encode accessor.methodName → signature = encode "()Ljava/lang/String;" →
    isStatic = false → reply = some (hierarchy.method accessor) ∧ after = before
  | .callObject receiver method _, reply => ∀ accessor denoted content,
    method = hierarchy.method accessor → before.live.find? receiver = some denoted →
    text accessor denoted = some content → before.Offers after reply (content.map .string)
  | .getStringChars string, reply => ∀ content,
    before.live.find? string = some (.string content) → Readable content →
    (∃ chars : Text.CString, reply = some chars ∧ decode? chars.bytes = some content) ∧
      after = before
  | .getObjectClass object, reply => ∀ known, before.live.find? object = some (.object known) →
    before.Offers after reply (some (.classObject (hierarchy.classOf known)))
  | .getSuperclass classObject, reply => ∀ known,
    before.live.find? classObject = some (.classObject known) →
    before.Offers after reply ((hierarchy.superclass known).map .classObject)
  | .newGlobalRef object, reply => ∀ denoted, before.live.find? object = some denoted →
    before.Offers after reply none ∨ before.Offers after reply (some denoted)
  | _, _ => True

/-- What may be relied on in a call. -/
def Law (before after : hierarchy.Heap) : (request : Call) → request.Reply → Prop
  | .env _ .exceptionOccurred, reply => before.Offers after reply (before.pending.map .object)
  | .env _ .exceptionClear, _ => after = { before with pending := none }
  | .env _ .exceptionCheck, reply => reply = before.pending.isSome ∧ after = before
  | .env _ (.deleteLocalRef reference), _ =>
    after = { before with live := before.live.erase reference }
  | .env _ (.releaseStringChars _), _ => after = before
  | .env _ function, reply => before.pending = none → Answers before after function reply
  | _, _ => True

/-! ## Answers -/

/-- There is always a reference of a machine that is not in use. -/
theorem Heap.exists_offers_of (vm : VmId) (before : hierarchy.Heap)
    (denoted : Option hierarchy.Denoted) : ∃ reply after, before.Offers after reply denoted ∧
      ∀ handle, reply = some handle → handle.vm = vm := by
  cases denoted with
  | none =>
    refine ⟨none, before, ⟨rfl, rfl⟩, ?_⟩
    rintro _ ⟨⟩
  | some denoted =>
    obtain ⟨number, hnumber⟩ :=
      Infinite.exists_notMem_finset (before.live.keys.map Handle.number).toFinset
    refine ⟨some ⟨vm, number⟩, before.add ⟨vm, number⟩ denoted, ⟨_, rfl, ?_, rfl⟩, ?_⟩
    · simp only [Store.keys, List.mem_toFinset, List.mem_map, not_exists, not_and] at hnumber
      simp only [Store.find?, Option.map_eq_none_iff, List.find?_eq_none, decide_eq_true_eq]
      intro entry hentry hsame
      exact hnumber _ ⟨entry, hentry, hsame⟩ rfl
    · rintro _ ⟨rfl⟩
      rfl

theorem Heap.exists_offers (before : hierarchy.Heap) (denoted : Option hierarchy.Denoted) :
    ∃ reply after, before.Offers after reply denoted := by
  obtain ⟨reply, after, hoffers, -⟩ := before.exists_offers_of ⟨0⟩ denoted
  exact ⟨reply, after, hoffers⟩

/-- An offer does not concern the exception that is pending. -/
theorem Heap.Offers.pending {before after : hierarchy.Heap} {reply : Option Handle}
    {denoted : Option hierarchy.Denoted} (hoffers : before.Offers after reply denoted) :
    after.pending = before.pending := by
  cases denoted with
  | none => rw [hoffers.2]
  | some denoted =>
    obtain ⟨handle, -, -, rfl⟩ := hoffers
    rfl

/-- What is asked for can be offered if it is the same for all who may ask. -/
theorem Heap.exists_offers_asked {ι : Type} (vm : VmId) (before : hierarchy.Heap)
    {asked : ι → Prop} {denoted : ι → Option hierarchy.Denoted}
    (hunique : ∀ first second, asked first → asked second → denoted first = denoted second) :
    ∃ reply after, (∀ index, asked index → before.Offers after reply (denoted index)) ∧
      after.pending = before.pending ∧ ∀ handle, reply = some handle → handle.vm = vm := by
  by_cases hasked : ∃ index, asked index
  · obtain ⟨first, hfirst⟩ := hasked
    obtain ⟨reply, after, hoffers, hown⟩ := before.exists_offers_of vm (denoted first)
    refine ⟨reply, after, fun second hsecond ↦ ?_, hoffers.pending, hown⟩
    rwa [← hunique first second hfirst hsecond]
  · exact ⟨none, before, fun index hindex ↦ absurd ⟨index, hindex⟩ hasked, rfl, nofun⟩

section

variable (vm : VmId) (before : hierarchy.Heap)

theorem offers_findClass (name : Text.CString) : ∃ reply after,
    Answers before after (.findClass name) reply ∧ after.pending = before.pending ∧
      ∀ handle, reply = some handle → handle.vm = vm := by
  refine before.exists_offers_asked vm fun first second hfirst hsecond ↦ ?_
  rw [Accessor.encode_className_injective (hfirst.symm.trans hsecond)]

theorem offers_callObject (receiver : Handle) (method : MethodId) (arguments : List Argument) :
    ∃ reply after, Answers before after (.callObject receiver method arguments) reply ∧
      after.pending = before.pending ∧ ∀ handle, reply = some handle → handle.vm = vm := by
  have hunique : ∀ first second : Accessor × hierarchy.Denoted × Option String,
      (before.live.find? receiver = some first.2.1 ∧ text first.1 first.2.1 = some first.2.2) →
      (before.live.find? receiver = some second.2.1 ∧ text second.1 second.2.1 = some second.2.2) →
      first.2.2.map (@Denoted.string hierarchy) = second.2.2.map .string := by
    rintro ⟨_, denoted, _⟩ ⟨_, other, _⟩ ⟨hfirst, hread⟩ ⟨hsecond, hread'⟩
    cases hfirst.symm.trans hsecond
    rw [text_unique hread hread']
  obtain ⟨reply, after, hoffers, hsame⟩ := before.exists_offers_asked vm hunique
  exact ⟨reply, after, fun accessor denoted content _ hreceiver htext ↦
    hoffers (accessor, denoted, content) ⟨hreceiver, htext⟩, hsame⟩

theorem offers_getObjectClass (object : Handle) : ∃ reply after,
    Answers before after (.getObjectClass object) reply ∧ after.pending = before.pending ∧
      ∀ handle, reply = some handle → handle.vm = vm := by
  refine before.exists_offers_asked vm fun first second hfirst hsecond ↦ ?_
  cases hfirst.symm.trans hsecond
  rfl

theorem offers_getSuperclass (classObject : Handle) : ∃ reply after,
    Answers before after (.getSuperclass classObject) reply ∧ after.pending = before.pending ∧
      ∀ handle, reply = some handle → handle.vm = vm := by
  refine before.exists_offers_asked vm fun first second hfirst hsecond ↦ ?_
  cases hfirst.symm.trans hsecond
  rfl

end

/-- Whether the machine refuses to make new global references. -/
def Grants (refuses : Bool) : (request : Call) → request.Reply → Prop
  | .env _ (.newGlobalRef _), reply => reply.isNone = refuses
  | _, _ => True

/-- The machine has an answer to every question, whatever references are in use, and it may refuse
to make global references or not. -/
theorem exists_answer (refuses : Bool) (before : hierarchy.Heap) (request : Call) :
    ∃ reply after, Law before after request reply ∧ Grants refuses request reply := by
  cases request with
  | env pointer function =>
    cases function with
    | exceptionOccurred =>
      obtain ⟨reply, after, hoffers⟩ := before.exists_offers (before.pending.map .object)
      exact ⟨reply, after, hoffers, trivial⟩
    | exceptionClear => exact ⟨(), _, rfl, trivial⟩
    | exceptionCheck => exact ⟨_, _, ⟨rfl, rfl⟩, trivial⟩
    | deleteLocalRef reference => exact ⟨(), _, rfl, trivial⟩
    | releaseStringChars string => exact ⟨(), _, rfl, trivial⟩
    | findClass name =>
      obtain ⟨reply, after, hanswers, -⟩ := offers_findClass ⟨0⟩ before name
      exact ⟨reply, after, fun _ ↦ hanswers, trivial⟩
    | getMethodId classObject name signature isStatic =>
      by_cases hknown : ∃ accessor : Accessor, name = encode accessor.methodName
      · obtain ⟨accessor, rfl⟩ := hknown
        refine ⟨some (hierarchy.method accessor), before, fun _ other _ hother _ _ ↦ ?_, trivial⟩
        rw [← Accessor.encode_methodName_injective hother]
        exact ⟨rfl, rfl⟩
      · exact ⟨none, before, fun _ accessor _ haccessor _ _ ↦
          absurd ⟨accessor, haccessor⟩ hknown, trivial⟩
    | callObject receiver method arguments =>
      obtain ⟨reply, after, hanswers, -⟩ := offers_callObject ⟨0⟩ before receiver method arguments
      exact ⟨reply, after, fun _ ↦ hanswers, trivial⟩
    | getStringChars string =>
      by_cases hknown : ∃ content, before.live.find? string = some (.string content) ∧
        Readable content
      · obtain ⟨content, hstring, chars, hchars⟩ := hknown
        refine ⟨some chars, before, fun _ other hother _ ↦ ⟨⟨chars, rfl, ?_⟩, rfl⟩, trivial⟩
        cases hstring.symm.trans hother
        exact hchars
      · exact ⟨none, before, fun _ content hstring hreadable ↦
          absurd ⟨content, hstring, hreadable⟩ hknown, trivial⟩
    | getObjectClass object =>
      obtain ⟨reply, after, hanswers, -⟩ := offers_getObjectClass ⟨0⟩ before object
      exact ⟨reply, after, fun _ ↦ hanswers, trivial⟩
    | getSuperclass classObject =>
      obtain ⟨reply, after, hanswers, -⟩ := offers_getSuperclass ⟨0⟩ before classObject
      exact ⟨reply, after, fun _ ↦ hanswers, trivial⟩
    | newGlobalRef object =>
      cases refuses with
      | true => exact ⟨none, before, fun _ denoted _ ↦ .inl ⟨rfl, rfl⟩, rfl⟩
      | false =>
        cases hobject : before.live.find? object with
        | none =>
          refine ⟨some object, before, fun _ denoted hdenoted ↦ ?_, rfl⟩
          cases hobject.symm.trans hdenoted
        | some denoted =>
          obtain ⟨reply, after, handle, rfl, hoffers⟩ := before.exists_offers (some denoted)
          refine ⟨some handle, after, fun _ other hother ↦ .inr ?_, rfl⟩
          cases hobject.symm.trans hother
          exact ⟨handle, rfl, hoffers⟩
    | getVersion | getArrayLength => exact ⟨0, before, fun _ ↦ trivial, trivial⟩
    | newLocalRef | callStaticObject | newObject | newString | getArrayElement =>
      exact ⟨none, before, fun _ ↦ trivial, trivial⟩
    | isAssignableFrom | isInstanceOf => exact ⟨false, before, fun _ ↦ trivial, trivial⟩
    | throw | throwNew | registerNatives => exact ⟨.ok (), before, fun _ ↦ trivial, trivial⟩
    | callPrimitive kind => exact ⟨kind.zero, before, fun _ ↦ trivial, trivial⟩
    | exceptionDescribe | deleteGlobalRef | callVoid | callStaticVoid =>
      exact ⟨(), before, fun _ ↦ trivial, trivial⟩
  | create | list => exact ⟨.error .unknown, before, trivial, trivial⟩
  | getEnv | attach => exact ⟨.error .unknown, before, trivial, trivial⟩
  | detach | destroy => exact ⟨.ok (), before, trivial, trivial⟩

end Hierarchy

/-- An exchange with a machine that has these classes.  Nothing is assumed about what other code
does to the bridge meanwhile. -/
def Exchange.Obeys [Host] {hierarchy : Hierarchy} (exchange : Exchange hierarchy.Heap) : Prop :=
  Hierarchy.Law exchange.before.outside exchange.after.outside exchange.request exchange.reply

end JavaInterop
