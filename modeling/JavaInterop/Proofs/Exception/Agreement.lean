import JavaInterop.Proofs.Class.Recognition
import JavaInterop.Proofs.Exception.Enlistment

/-!
# Caught types and the test of objects

A thrown object is matched by the names of its classes, while a test asks the machine itself.  Both
agree: the type that an exception is caught as is one that the object passes the test for, and it
can stand for every other enlisted type that the object passes the test for, the root aside.  No
type is found exactly if the object passes none of these tests.
-/

namespace JavaInterop

open Program (Ensures)
open Hierarchy (Heap)

/-! ## Looking up enlisted types -/

namespace Registry

/-- An enlisted type has a factory under the dotted form of its name. -/
theorem Enlists.lookup_ne_none {registry : Registry} {type : ProxyType}
    (henlists : registry.Enlists type) :
    registry.lookup type.descriptor.dottedName ≠ none := by
  have hlookup : registry.lookup type.descriptor.dottedName = some (.proxy type) :=
    lookup_eq_some_iff.2 ⟨henlists, rfl⟩
  rw [hlookup]
  exact Option.some_ne_none _

end Registry

/-! ## The nearest type -/

namespace Taxonomy.Covers

variable {taxonomy : Taxonomy} {registry : Registry} {meaning : ProxyType → taxonomy.Class}
  {classObject : taxonomy.Class} {names : List String} {type other : ProxyType}

/-- A class is one of a type's class exactly if it carries the name of the type on its way to the
root. -/
theorem isA_iff (hcovers : taxonomy.Covers registry meaning)
    (hlineage : taxonomy.Lineage classObject names) (hkind : taxonomy.kind classObject ≠ .array)
    (henlists : registry.Enlists type) (hroot : type.descriptor.dottedName ≠ rootClass) :
    taxonomy.IsA classObject (meaning type) ↔ type.descriptor.dottedName ∈ names := by
  rw [← hcovers.name type henlists] at hroot ⊢
  exact isA_iff_name_mem hlineage hkind (hcovers.kind type henlists) hroot

/-- The nearest type stands where its class does, and nothing below it has a factory. -/
theorem nearest (hcovers : taxonomy.Covers registry meaning)
    (hlineage : taxonomy.Lineage classObject names)
    (hnearest : names.findSome? registry.lookup = some (.proxy type)) :
    registry.Enlists type ∧ type.descriptor.dottedName ≠ rootClass ∧
      taxonomy.Inherits classObject (meaning type) ∧
      ∃ rest, taxonomy.Lineage (meaning type) rest ∧
        ∀ name ∈ names, registry.lookup name ≠ none → name ∈ rest := by
  obtain ⟨earlier, name, later, rfl, hlookup, hearlier⟩ := List.findSome?_eq_some_iff.1 hnearest
  obtain ⟨henlists, rfl⟩ := Registry.lookup_eq_some_iff.1 hlookup
  obtain ⟨target, hinherits, hname, hroot, hrest⟩ := exists_inherits_of_lineage hlineage
  obtain rfl : target = meaning type :=
    taxonomy.name_injective (hname.trans (hcovers.name type henlists).symm)
  refine ⟨henlists, hroot, hinherits, _, hrest, ?_⟩
  intro name hmem hfactory
  rcases List.mem_append.1 hmem with hmem | hmem
  · exact absurd (hearlier name hmem) hfactory
  · exact hmem

/-- The nearest type is the most specific one. -/
theorem nearest_isA (hcovers : taxonomy.Covers registry meaning)
    (hlineage : taxonomy.Lineage classObject names) (hkind : taxonomy.kind classObject ≠ .array)
    (hnearest : names.findSome? registry.lookup = some (.proxy type))
    (henlists : registry.Enlists other) (hroot : other.descriptor.dottedName ≠ rootClass)
    (hisA : taxonomy.IsA classObject (meaning other)) :
    taxonomy.IsA (meaning type) (meaning other) := by
  obtain ⟨-, -, -, rest, hrest, hnames⟩ := hcovers.nearest hlineage hnearest
  have hmem := (hcovers.isA_iff hlineage hkind henlists hroot).1 hisA
  have hlater : other.descriptor.dottedName ∈ rest := hnames _ hmem henlists.lookup_ne_none
  rw [← hcovers.name other henlists] at hlater
  exact (inherits_of_name_mem hrest hlater).isA

/-- There is no nearest type exactly if the class is one of no type's class. -/
theorem nearest_eq_none_iff (hcovers : taxonomy.Covers registry meaning)
    (hlineage : taxonomy.Lineage classObject names) (hkind : taxonomy.kind classObject ≠ .array) :
    names.findSome? registry.lookup = none ↔ ∀ type, registry.Enlists type →
      type.descriptor.dottedName ≠ rootClass → ¬ taxonomy.IsA classObject (meaning type) := by
  constructor
  · intro hnone type henlists hroot hisA
    have hmem := (hcovers.isA_iff hlineage hkind henlists hroot).1 hisA
    exact henlists.lookup_ne_none (List.findSome?_eq_none_iff.1 hnone _ hmem)
  · intro hnot
    cases hnearest : names.findSome? registry.lookup with
    | none => rfl
    | some factory =>
      obtain ⟨name, -, hlookup⟩ := List.exists_of_findSome?_eq_some hnearest
      obtain ⟨type, rfl⟩ := hcovers.proxies factory (Registry.lookup_eq_some_iff.1 hlookup).1
      obtain ⟨henlists, hroot, hinherits, -⟩ := hcovers.nearest hlineage hnearest
      exact absurd hinherits.isA (hnot type henlists hroot)

end Taxonomy.Covers

/-! ## What tests say -/

section

variable [Host] {taxonomy : Taxonomy} {registry : Registry} {meaning : ProxyType → taxonomy.Class}

/-- The test has this answer whenever the machine refuses no reference, and it need not refuse
any. -/
structure Says (thread : NativeThread) (first : Moment taxonomy.toHierarchy.Heap)
    (test : Fallible Bool) (answer : Bool) : Prop where
  sound : Ensures Exchange.Conforms thread test.run first fun exchanges result _ ↦
    result = .ok answer ∨ Taxonomy.Refused exchanges result
  possible : ∃ exchanges last, test.run.Run thread first exchanges (.ok answer) last ∧
    ∀ exchange ∈ exchanges, exchange.Conforms

/-- The answer to the question whether an object is of a type, whenever it is asked. -/
def SaysInstance (registry : Registry) (meaning : ProxyType → taxonomy.Class)
    (object : taxonomy.Object) (type : ProxyType) (answer : Bool) : Prop :=
  ∀ env thread (first : Moment taxonomy.toHierarchy.Heap) handle,
    Equipped registry meaning thread first →
    first.outside.live.find? handle = some (.object object) →
    Says thread first (type.isInstance env (some handle)) answer

/-- The answer to the question whether one type can stand for another, whenever it is asked. -/
def SaysAssignable (registry : Registry) (meaning : ProxyType → taxonomy.Class)
    (sub sup : ProxyType) (answer : Bool) : Prop :=
  ∀ env thread (first : Moment taxonomy.toHierarchy.Heap),
    Equipped registry meaning thread first → Says thread first (sub.isAssignable sup env) answer

/-- A machine with these classes can answer everything without refusing a reference. -/
theorem Taxonomy.exists_run (thread : NativeThread) (first : Moment taxonomy.toHierarchy.Heap)
    {α : Type} (program : Program α) :
    ∃ exchanges result last, program.Run thread first exchanges result last ∧
      (∀ exchange ∈ exchanges, exchange.Conforms) ∧
      ∀ exchange ∈ exchanges, ¬ exchange.request.Refused exchange.reply := by
  let law (exchange : Exchange taxonomy.toHierarchy.Heap) : Prop :=
    exchange.Conforms ∧ ¬ exchange.request.Refused exchange.reply
  have htotal : ∀ request before, ∃ reply after,
      law ⟨thread, request, reply, before, after⟩ := by
    intro request before
    obtain ⟨reply, heap, hanswer, hlaw, hrefused⟩ := answerable before.outside request
    exact ⟨reply, ⟨before.bridge, heap⟩, ⟨rfl, hanswer, hlaw⟩, hrefused⟩
  obtain ⟨exchanges, result, last, hrun, hlaw⟩ :=
    @Program.exists_run _ _ _ thread first program law htotal
  exact ⟨exchanges, result, last, hrun, fun exchange hmem ↦ (hlaw exchange hmem).1,
    fun exchange hmem ↦ (hlaw exchange hmem).2⟩

/-- A test that is answered truly says what is true. -/
theorem says_iff {thread : NativeThread} {first : Moment taxonomy.toHierarchy.Heap}
    {test : Fallible Bool} {truth : Prop} {answer : Bool}
    (htest : Ensures Exchange.Conforms thread test.run first fun exchanges result _ ↦
      Taxonomy.Answered truth exchanges result) :
    Says thread first test answer ↔ (answer = true ↔ truth) := by
  constructor
  · intro hanswer
    obtain ⟨exchanges, last, hrun, hconforms⟩ := hanswer.possible
    rcases htest exchanges _ last hrun hconforms with ⟨given, hgiven, htruth⟩ | ⟨⟨_, hfailed⟩, -⟩
    · cases hgiven
      exact htruth
    · cases hfailed
  · intro htruth
    have hsame : ∀ given : Bool, (given = true ↔ truth) → given = answer := fun given hgiven ↦
      Bool.eq_iff_iff.2 (hgiven.trans htruth.symm)
    refine ⟨htest.weaken ?_, ?_⟩
    · rintro exchanges _ last (⟨given, rfl, hgiven⟩ | hrefused)
      · exact .inl (hsame given hgiven ▸ rfl)
      · exact .inr hrefused
    · obtain ⟨exchanges, result, last, hrun, hconforms, hgrants⟩ :=
        Taxonomy.exists_run thread first test.run
      rcases htest exchanges result last hrun hconforms with
        ⟨given, rfl, hgiven⟩ | ⟨-, exchange, hmem, hrefused⟩
      · exact ⟨exchanges, last, hsame given hgiven ▸ hrun, hconforms⟩
      · exact absurd hrefused (hgrants exchange hmem)

/-- Tests can be made before anything is kept. -/
theorem equipped_nothing_kept (registry : Registry) (meaning : ProxyType → taxonomy.Class)
    (thread : NativeThread) {heap : taxonomy.toHierarchy.Heap} (hpending : heap.pending = none) :
    Equipped registry meaning thread ⟨{ }, heap⟩ where
  pending := hpending
  kept _ _ _ hfind := nomatch hfind
  loader _ hloader := nomatch hloader

theorem saysInstance_iff (hcovers : taxonomy.Covers registry meaning) {object : taxonomy.Object}
    {type : ProxyType} (henlists : registry.Enlists type) {answer : Bool} :
    SaysInstance registry meaning object type answer ↔
      (answer = true ↔ taxonomy.IsA (taxonomy.classOf object) (meaning type)) := by
  constructor
  · intro hanswer
    let handle : Handle := ⟨⟨0⟩, 0⟩
    let heap : taxonomy.toHierarchy.Heap := Heap.add ⟨none, .empty⟩ handle (.object object)
    let env : Env := ⟨⟨⟨0⟩, 0⟩, ⟨0⟩, .shared, .v1_8, 0⟩
    have hequipped : Equipped registry meaning { id := 0, name := none } ⟨{ }, heap⟩ :=
      equipped_nothing_kept registry meaning _ rfl
    have hlive : heap.live.find? handle = some (.object object) := Heap.find?_add_self _ _ _
    exact (says_iff (Taxonomy.ensures_isInstance hcovers henlists hequipped hlive)).1
      (hanswer env _ _ handle hequipped hlive)
  · intro htruth env thread first handle hequipped hlive
    exact (says_iff (Taxonomy.ensures_isInstance hcovers henlists hequipped hlive)).2 htruth

theorem saysAssignable_of_isA (hcovers : taxonomy.Covers registry meaning) {sub sup : ProxyType}
    (hsub : registry.Enlists sub) (hsup : registry.Enlists sup)
    (hisA : taxonomy.IsA (meaning sub) (meaning sup)) :
    SaysAssignable registry meaning sub sup true := by
  intro env thread first hequipped
  exact (says_iff (Taxonomy.ensures_isAssignable hcovers hsub hsup hequipped)).2
    (iff_of_true rfl hisA)

/-! ## Agreement -/

/-- Without an answer the machine has refused the reference. -/
theorem Exchange.OffersGlobal.refused {hierarchy : Hierarchy}
    {exchange : Exchange hierarchy.Heap} {object : hierarchy.Object}
    (hoffers : exchange.OffersGlobal object none) : exchange.request.Refused exchange.reply := by
  obtain ⟨caller, request, reply, before, after⟩ := exchange
  cases request with
  | env pointer function =>
    cases function with
    | newGlobalRef asked => exact hoffers.2.1
    | _ => exact hoffers.elim
  | _ => exact hoffers.elim

/-- The type that an exception is caught as is the most specific one that the thrown object passes
the test for, and no type is found exactly if the object passes no test.  Only a refused reference
can keep the exception from being caught. -/
theorem Env.catchWith_agrees {env : Env} {thread : NativeThread}
    {first last : Moment taxonomy.toHierarchy.Heap}
    {exchanges : List (Exchange taxonomy.toHierarchy.Heap)} {result : Except Error Unit}
    {object : taxonomy.Object} {names : List String}
    (hcovers : taxonomy.Covers registry meaning)
    (hpending : first.outside.pending = some object)
    (hkind : taxonomy.kind (taxonomy.classOf object) ≠ .array)
    (hlineage : taxonomy.Lineage (taxonomy.classOf object) names)
    (hlength : names.length < maxAncestors)
    (hrun : (env.catchWith registry).run.Run thread first exchanges result last)
    (hlaw : ∀ exchange ∈ exchanges, exchange.Obeys) :
    ((∃ thrown, result = .error (.javaException thrown)) ∨
      (∃ name, result = .error (.unlinkedException name)) ∨
      Taxonomy.Refused exchanges result) ∧
    (∀ thrown, result = .error (.javaException thrown) →
      registry.Enlists thrown.proxy.type ∧
      SaysInstance registry meaning object thrown.proxy.type true ∧
      ∀ other, registry.Enlists other → other.descriptor.dottedName ≠ rootClass →
        SaysInstance registry meaning object other true →
        SaysAssignable registry meaning thrown.proxy.type other true) ∧
    ((∃ name, result = .error (.unlinkedException name)) ↔
      ∀ type, registry.Enlists type → type.descriptor.dottedName ≠ rootClass →
        SaysInstance registry meaning object type false) := by
  obtain ⟨error, rfl, -, hstands⟩ := ensures_catchWith_pending hcovers.proxies hpending hlineage
    hlength exchanges result last hrun hlaw
  have hnone : names.findSome? registry.lookup = none ↔ ∀ type, registry.Enlists type →
      type.descriptor.dottedName ≠ rootClass → SaysInstance registry meaning object type false := by
    rw [hcovers.nearest_eq_none_iff hlineage hkind]
    refine forall₃_congr fun type henlists hroot ↦ ?_
    rw [saysInstance_iff hcovers henlists]
    simp
  rw [← hnone]
  cases hnearest : names.findSome? registry.lookup with
  | none =>
    rw [hnearest] at hstands
    obtain rfl : error = _ := hstands
    exact ⟨.inr (.inl ⟨_, rfl⟩), nofun, iff_of_true ⟨_, rfl⟩ rfl⟩
  | some factory =>
    rw [hnearest] at hstands
    rcases hstands with ⟨type, handle, rfl, rfl, -⟩ | ⟨rfl, exchange, hmem, hoffers⟩
    · refine ⟨.inl ⟨_, rfl⟩, ?_, by simp⟩
      rintro _ ⟨rfl⟩
      obtain ⟨henlists, -, hinherits, -⟩ := hcovers.nearest hlineage hnearest
      refine ⟨henlists, ?_, fun other hother hroot hanswer ↦ ?_⟩
      · exact (saysInstance_iff hcovers henlists).2 (iff_of_true rfl hinherits.isA)
      · have hisA := ((saysInstance_iff hcovers hother).1 hanswer).1 rfl
        exact saysAssignable_of_isA hcovers henlists hother
          (hcovers.nearest_isA hlineage hkind hnearest hother hroot hisA)
    · have hrefused : exchange.request.Refused exchange.reply :=
        Exchange.OffersGlobal.refused hoffers
      exact ⟨.inr (.inr ⟨failed_error _, exchange, hmem, hrefused⟩), nofun, by simp⟩

end

namespace Sample

/-- A class of exceptions below another one, and the classes that every machine has. -/
inductive Relative where
  | child
  | parent
  | throwable
  | metaclass
  | loader
  | root
deriving DecidableEq

namespace Relative

def internalName : Relative → String
  | child => "A"
  | parent => "T"
  | throwable => "java/lang/Throwable"
  | metaclass => "java/lang/Class"
  | loader => "java/lang/ClassLoader"
  | root => "java/lang/Object"

def name : Relative → String
  | child => "A"
  | parent => "T"
  | throwable => "java.lang.Throwable"
  | metaclass => "java.lang.Class"
  | loader => "java.lang.ClassLoader"
  | root => rootClass

def superclass : Relative → Option Relative
  | child => some parent
  | parent => some throwable
  | throwable | metaclass | loader => some root
  | root => none

def all : List Relative := [child, parent, throwable, metaclass, loader, root]

def found (name : Text.CString) : Option Relative :=
  all.find? fun relative ↦ Text.ModifiedUtf8.encode relative.internalName == name

theorem found_internalName (relative : Relative) :
    found (Text.ModifiedUtf8.encode relative.internalName) = some relative := by
  cases relative <;> decide +kernel

end Relative

theorem readable_content :
    ∀ (_ : Unit) (text : String), some "text" = some text → Readable text := by
  rintro _ _ ⟨rfl⟩
  exact ⟨Text.ModifiedUtf8.encode "text", by decide +kernel⟩

theorem accessor_ne (accessor : Accessor) :
    (match accessor with
      | .getName => ⟨vm, 1⟩
      | .getMessage => ⟨vm, 2⟩ : MethodId) ≠ ⟨vm, 3⟩ := by
  cases accessor <;> decide

/-- A machine with one object, which is a `child`. -/
def family : Taxonomy where
  Object := Unit
  Class := Relative
  classOf _ := .child
  superclass := Relative.superclass
  name := Relative.name
  message _ := some "text"
  declaring
    | .getName => .metaclass
    | .getMessage => .throwable
  method
    | .getName => ⟨vm, 1⟩
    | .getMessage => ⟨vm, 2⟩
  readable_name relative := by
    refine ⟨Text.ModifiedUtf8.encode relative.name, ?_⟩
    cases relative <;> decide +kernel
  readable_message := readable_content
  kind _ := .plain
  further _ := []
  found := Relative.found
  loaded _ _ := none
  loaderClass := .loader
  loadClass := ⟨vm, 3⟩
  name_injective first second hsame := by
    revert hsame
    cases first <;> cases second <;> decide +kernel
  superclass_root relative hname := by
    revert hname
    cases relative <;> decide +kernel
  superclass_interface _ hkind := nomatch hkind
  kind_superclass _ _ _ := rfl
  kind_further _ _ habove := nomatch habove
  found_accessor
    | .getName => Relative.found_internalName .metaclass
    | .getMessage => Relative.found_internalName .throwable
  found_loader := Relative.found_internalName .loader
  method_ne := accessor_ne

/-- The object has been thrown. -/
def uncaught [Host] : Moment family.Heap := ⟨bridge, ⟨some (), .empty⟩⟩

/-- A registry with factories for both classes of exceptions. -/
def both : Registry := ⟨[.proxy ⟨"T", "T"⟩, .proxy ⟨"A", "A"⟩], by decide +kernel⟩

def meaning (type : ProxyType) : family.Class :=
  if type.name = "T" then .parent else .child

theorem enlists_both {type : ProxyType} (henlists : both.Enlists type) :
    type = ⟨"T", "T"⟩ ∨ type = ⟨"A", "A"⟩ := by
  simpa [Registry.Enlists, both] using henlists

theorem covers_both : family.Covers both meaning where
  proxies := by simp [both]
  found type henlists := by
    rcases enlists_both henlists with rfl | rfl
    · have hname : Text.CString.ofText "T" = .ok (Text.ModifiedUtf8.encode "T") := by
        decide +kernel
      exact ⟨_, hname, Relative.found_internalName .parent⟩
    · have hname : Text.CString.ofText "A" = .ok (Text.ModifiedUtf8.encode "A") := by
        decide +kernel
      exact ⟨_, hname, Relative.found_internalName .child⟩
  name type henlists := by
    rcases enlists_both henlists with rfl | rfl <;> decide +kernel
  kind _ _ := nofun
  distinct type other htype hother := by
    rcases enlists_both htype with rfl | rfl <;> rcases enlists_both hother with rfl | rfl <;>
      decide

theorem nearest_both :
    ["A", "T", "java.lang.Throwable"].findSome? both.lookup = some (.proxy ⟨"A", "A"⟩) := by
  decide +kernel

theorem lineage_family : family.Lineage Relative.child ["A", "T", "java.lang.Throwable"] :=
  .inherits (by decide) rfl (.inherits (by decide) rfl
    (.inherits (by decide) rfl (.root rfl)))

end Sample

/-- A thrown object is caught as one of its own class, which can stand for the class above it. -/
theorem Env.catchWith_agrees_below :
    let _ := Sample.host
    ∃ (exchanges : List (Exchange Sample.family.Heap)) (thrown : Thrown)
      (last : Moment Sample.family.Heap),
      (Sample.env.catchWith Sample.both).run.Run Sample.thread Sample.uncaught exchanges
        (.error (.javaException thrown)) last ∧
      (∀ exchange ∈ exchanges, exchange.Obeys) ∧ thrown.proxy.type = ⟨"A", "A"⟩ ∧
      SaysInstance Sample.both Sample.meaning () ⟨"A", "A"⟩ true ∧
      SaysInstance Sample.both Sample.meaning () ⟨"T", "T"⟩ true ∧
      SaysAssignable Sample.both Sample.meaning ⟨"A", "A"⟩ ⟨"T", "T"⟩ true := by
  intro _
  obtain ⟨exchanges, result, last, hrun, hconforms, hgrants⟩ :=
    Taxonomy.exists_run Sample.thread Sample.uncaught (Sample.env.catchWith Sample.both).run
  have hlaw : ∀ exchange ∈ exchanges, exchange.Obeys := fun exchange hmem ↦
    (hconforms exchange hmem).obeys
  obtain ⟨error, rfl, -, hstands⟩ := ensures_catchWith_pending Sample.covers_both.proxies rfl
    Sample.lineage_family (by decide) exchanges result last hrun hlaw
  obtain ⟨-, hagrees, -⟩ := Env.catchWith_agrees Sample.covers_both rfl nofun
    Sample.lineage_family (by decide) hrun hlaw
  have hparent : Sample.both.Enlists ⟨"T", "T"⟩ := by simp [Registry.Enlists, Sample.both]
  have htested : SaysInstance Sample.both Sample.meaning () ⟨"T", "T"⟩ true :=
    (saysInstance_iff Sample.covers_both hparent).2 (iff_of_true rfl (.inherits rfl (.refl _)))
  rw [Sample.nearest_both] at hstands
  rcases hstands with ⟨type, handle, hfactory, rfl, -⟩ | ⟨-, exchange, hmem, hoffers⟩
  · cases hfactory
    obtain ⟨-, hinstance, hmost⟩ := hagrees _ rfl
    exact ⟨exchanges, _, last, hrun, hlaw, rfl, hinstance, htested,
      hmost _ hparent (by decide +kernel) htested⟩
  · exact absurd (Exchange.OffersGlobal.refused hoffers) (hgrants exchange hmem)

end JavaInterop
