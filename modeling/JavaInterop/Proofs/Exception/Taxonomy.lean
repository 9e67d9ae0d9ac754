import JavaInterop.Proofs.Exception.Hierarchy
import Mathlib.Logic.Relation

/-!
# Classes and what is one of them

A machine finds classes by name and tests by itself whether an object is one of a class.  Besides
its superclass a class has further types above it: interfaces, and arrays above arrays.  Everything
is one of the root.

The names on the way to the root tell as much as the test, as far as plain classes are concerned:
an object is one of a class other than the root exactly if the name of that class occurs among the
names of its superclasses.
-/

namespace JavaInterop

open Text.ModifiedUtf8 (encode)

/-- Interfaces and arrays are classes of their own kind. -/
inductive ClassKind where
  | plain
  | interface
  | array
deriving DecidableEq

/-- The machine has refused to make another reference. -/
def Call.Refused : (request : Call) → request.Reply → Prop
  | .env _ (.newLocalRef _), reply => reply = none
  | .env _ (.newGlobalRef _), reply => reply = none
  | _, _ => False

/-- The classes of a machine, no two of one name, and how they are found. -/
structure Taxonomy extends Hierarchy where
  kind : Class → ClassKind
  /-- The types right above a class besides its superclass. -/
  further : Class → List Class
  /-- The class that the machine itself finds under an internal name. -/
  found : Text.CString → Option Class
  /-- The class that a class loader finds under a dotted name. -/
  loaded : Object → Text.CString → Option Class
  loaderClass : Class
  loadClass : MethodId
  name_injective : Function.Injective name
  superclass_root : ∀ classObject, name classObject = rootClass → superclass classObject = none
  superclass_interface : ∀ classObject, kind classObject = .interface →
    superclass classObject = none
  kind_superclass : ∀ classObject parent, superclass classObject = some parent →
    kind parent = .plain
  kind_further : ∀ classObject, ∀ above ∈ further classObject, kind above = .interface ∨
    kind classObject = .array ∧ kind above = .array
  found_accessor : ∀ accessor : Accessor,
    found (encode accessor.className) = some (declaring accessor)
  found_loader : found (encode "java/lang/ClassLoader") = some loaderClass
  method_ne : ∀ accessor, method accessor ≠ loadClass

namespace Taxonomy

variable (taxonomy : Taxonomy)

/-- A class is another one, or its superclass inherits from that. -/
abbrev Inherits : taxonomy.Class → taxonomy.Class → Prop :=
  Relation.ReflTransGen fun classObject parent ↦ taxonomy.superclass classObject = some parent

/-- Whatever is of the first class is one of the second. -/
inductive IsA : taxonomy.Class → taxonomy.Class → Prop
  | refl (classObject : taxonomy.Class) : IsA classObject classObject
  | inherits {classObject parent target : taxonomy.Class}
    (hparent : taxonomy.superclass classObject = some parent) (hrest : IsA parent target) :
    IsA classObject target
  | further {classObject above target : taxonomy.Class}
    (habove : above ∈ taxonomy.further classObject) (hrest : IsA above target) :
    IsA classObject target
  | root {classObject target : taxonomy.Class} (hname : taxonomy.name target = rootClass) :
    IsA classObject target

variable {taxonomy} {classObject target : taxonomy.Class}

theorem Inherits.isA (hinherits : taxonomy.Inherits classObject target) :
    taxonomy.IsA classObject target := by
  induction hinherits using Relation.ReflTransGen.head_induction_on with
  | refl => exact .refl target
  | head hparent _ ih => exact .inherits hparent ih

/-- Above an interface there are only interfaces and the root. -/
theorem IsA.of_interface (hisA : taxonomy.IsA classObject target)
    (hkind : taxonomy.kind classObject = .interface) :
    taxonomy.kind target = .interface ∨ taxonomy.name target = rootClass := by
  induction hisA with
  | refl => exact .inl hkind
  | inherits hparent =>
    rw [taxonomy.superclass_interface _ hkind] at hparent
    cases hparent
  | further habove _ ih =>
    rcases taxonomy.kind_further _ _ habove with habove | ⟨harray, -⟩
    · exact ih habove
    · cases hkind.symm.trans harray
  | root hname => exact .inr hname

/-- A plain class stands above another one only as a superclass. -/
theorem IsA.inherits_of_ne_root (hisA : taxonomy.IsA classObject target)
    (hkind : taxonomy.kind classObject ≠ .array) (htarget : taxonomy.kind target ≠ .interface)
    (hname : taxonomy.name target ≠ rootClass) : taxonomy.Inherits classObject target := by
  induction hisA with
  | refl => exact .refl
  | inherits hparent _ ih =>
    have hplain := taxonomy.kind_superclass _ _ hparent
    exact .head hparent (ih (by simp [hplain]) htarget hname)
  | further habove hrest =>
    rcases taxonomy.kind_further _ _ habove with habove | ⟨harray, -⟩
    · rcases hrest.of_interface habove with hinterface | hroot
      · exact absurd hinterface htarget
      · exact absurd hroot hname
    · exact absurd harray hkind
  | root hroot => exact absurd hroot hname

/-! ## Names on the way to the root -/

/-- From any name on, the names are those of a superclass. -/
theorem exists_inherits_of_lineage {earlier later : List String} {name : String}
    (hlineage : taxonomy.Lineage classObject (earlier ++ name :: later)) :
    ∃ target, taxonomy.Inherits classObject target ∧ taxonomy.name target = name ∧
      name ≠ rootClass ∧ taxonomy.Lineage target (name :: later) := by
  generalize hnames : earlier ++ name :: later = names at hlineage
  induction hlineage generalizing earlier with
  | root => simp at hnames
  | @inherits classObject parent rest hname hparent hrest ih =>
    cases earlier with
    | nil =>
      obtain ⟨rfl, rfl⟩ := List.cons.inj hnames
      exact ⟨classObject, .refl, rfl, hname, .inherits hname hparent hrest⟩
    | cons first earlier =>
      obtain ⟨target, hinherits, htarget⟩ := ih (List.cons.inj hnames).2
      exact ⟨target, .head hparent hinherits, htarget⟩

/-- Every superclass but the root is named. -/
theorem Inherits.name_mem (hinherits : taxonomy.Inherits classObject target) {names : List String}
    (hlineage : taxonomy.Lineage classObject names) (hname : taxonomy.name target ≠ rootClass) :
    taxonomy.name target ∈ names := by
  induction hlineage with
  | root hroot =>
    rcases hinherits.cases_head with rfl | ⟨parent, hparent, -⟩
    · exact absurd hroot hname
    · rw [taxonomy.superclass_root _ hroot] at hparent
      cases hparent
  | inherits _ hparent _ ih =>
    rcases hinherits.cases_head with rfl | ⟨other, hother, hrest⟩
    · exact List.mem_cons_self
    · cases hparent.symm.trans hother
      exact List.mem_cons_of_mem _ (ih hrest)

/-- Whatever is named is a superclass. -/
theorem inherits_of_name_mem {names : List String}
    (hlineage : taxonomy.Lineage classObject names) (hmem : taxonomy.name target ∈ names) :
    taxonomy.Inherits classObject target := by
  obtain ⟨earlier, later, rfl⟩ := List.append_of_mem hmem
  obtain ⟨other, hinherits, hname, -⟩ := exists_inherits_of_lineage hlineage
  rwa [← taxonomy.name_injective hname]

/-- For a plain class other than the root the test says the same as the names. -/
theorem isA_iff_name_mem {names : List String} (hlineage : taxonomy.Lineage classObject names)
    (hkind : taxonomy.kind classObject ≠ .array) (htarget : taxonomy.kind target ≠ .interface)
    (hname : taxonomy.name target ≠ rootClass) :
    taxonomy.IsA classObject target ↔ taxonomy.name target ∈ names := by
  constructor
  · intro hisA
    exact (hisA.inherits_of_ne_root hkind htarget hname).name_mem hlineage hname
  · intro hmem
    exact (inherits_of_name_mem hlineage hmem).isA

/-! ## The law -/

/-- What the machine says of its classes while no exception is pending.  A string has the characters
that it was made from, and a reference to what is known already may be refused. -/
def Tells (before after : taxonomy.toHierarchy.Heap) :
    (function : EnvFunction) → function.Reply → Prop
  | .findClass name, reply => ∀ known, taxonomy.found name = some known →
    before.Offers after reply (some (.classObject known))
  | .getMethodId classObject name signature isStatic, reply =>
    before.live.find? classObject = some (.classObject taxonomy.loaderClass) →
    name = encode "loadClass" → signature = encode "(Ljava/lang/String;)Ljava/lang/Class;" →
    isStatic = false → reply = some taxonomy.loadClass ∧ after = before
  | .newString content, reply => ∀ text, content = encode text →
    ∃ same, content = encode same ∧ before.Offers after reply (some (.string same))
  | .callObject receiver method arguments, reply => ∀ loader string text known,
    method = taxonomy.loadClass → before.live.find? receiver = some (.object loader) →
    arguments = [.reference (some string)] → before.live.find? string = some (.string text) →
    taxonomy.loaded loader (encode text) = some known →
    before.Offers after reply (some (.classObject known))
  | .isInstanceOf object classObject, reply => ∀ handle known target, object = some handle →
    before.live.find? handle = some (.object known) →
    before.live.find? classObject = some (.classObject target) →
    (reply = true ↔ taxonomy.IsA (taxonomy.classOf known) target) ∧ after = before
  | .isAssignableFrom sub sup, reply => ∀ lower upper,
    before.live.find? sub = some (.classObject lower) →
    before.live.find? sup = some (.classObject upper) →
    (reply = true ↔ taxonomy.IsA lower upper) ∧ after = before
  | .newLocalRef object, reply => ∀ denoted, before.live.find? object = some denoted →
    before.Offers after reply none ∨ before.Offers after reply (some denoted)
  | _, _ => True

/-- What may be relied on in a call, besides what holds for any hierarchy. -/
def Law (before after : taxonomy.toHierarchy.Heap) : (request : Call) → request.Reply → Prop
  | .env _ function, reply => before.pending = none → Tells before after function reply
  | _, _ => True

/-! ## Answers -/

/-- A loader's method is told from the accessors by its name. -/
theorem encode_methodName_ne (accessor : Accessor) :
    encode "loadClass" ≠ encode accessor.methodName := by
  cases accessor <;> decide +kernel

/-- The machine has a lawful answer to the question, and it need not refuse anything. -/
def Answerable (before : taxonomy.toHierarchy.Heap) (request : Call) : Prop :=
  ∃ reply after, Hierarchy.Law before after request reply ∧ Law before after request reply ∧
    ¬ request.Refused reply

section

variable (before : taxonomy.toHierarchy.Heap) (pointer : EnvPointer)

/-- Most questions are not about classes and their names. -/
theorem answerable_of_law {request : Call} (hlaw : ∀ after reply, Law before after request reply)
    (hgrants : ∀ reply, Hierarchy.Grants false request reply → ¬ request.Refused reply) :
    Answerable before request := by
  obtain ⟨reply, after, hanswer, hgranted⟩ := Hierarchy.exists_answer false before request
  exact ⟨reply, after, hanswer, hlaw after reply, hgrants reply hgranted⟩

theorem answerable_findClass (name : Text.CString) :
    Answerable before (.env pointer (.findClass name)) := by
  cases hfound : taxonomy.found name with
  | none =>
    refine ⟨none, before, fun _ accessor haccessor ↦ ?_, fun _ known hknown ↦ ?_, id⟩
    · rw [haccessor, taxonomy.found_accessor] at hfound
      cases hfound
    · cases hfound.symm.trans hknown
  | some known =>
    obtain ⟨reply, after, hoffers⟩ := before.exists_offers (some (.classObject known))
    refine ⟨reply, after, fun _ accessor haccessor ↦ ?_, fun _ other hknown ↦ ?_, id⟩
    · rw [haccessor, taxonomy.found_accessor] at hfound
      cases hfound
      exact hoffers
    · cases hfound.symm.trans hknown
      exact hoffers

theorem answerable_getMethodId (classObject : Handle) (name signature : Text.CString)
    (isStatic : Bool) :
    Answerable before (.env pointer (.getMethodId classObject name signature isStatic)) := by
  by_cases hload : name = encode "loadClass"
  · refine ⟨some taxonomy.loadClass, before, fun _ accessor _ hname ↦ ?_,
      fun _ _ _ _ _ ↦ ⟨rfl, rfl⟩, id⟩
    exact absurd (hload.symm.trans hname) (encode_methodName_ne accessor)
  · obtain ⟨reply, after, hanswer, -⟩ := Hierarchy.exists_answer false before
      (.env pointer (.getMethodId classObject name signature isStatic))
    exact ⟨reply, after, hanswer, fun _ _ hname ↦ absurd hname hload, id⟩

theorem answerable_newString (content : Text.CString) :
    Answerable before (.env pointer (.newString content)) := by
  by_cases htext : ∃ text, content = encode text
  · obtain ⟨text, rfl⟩ := htext
    obtain ⟨reply, after, hoffers⟩ := before.exists_offers (some (.string text))
    exact ⟨reply, after, fun _ ↦ trivial, fun _ _ _ ↦ ⟨text, rfl, hoffers⟩, id⟩
  · exact ⟨none, before, fun _ ↦ trivial, fun _ text hsame ↦ absurd ⟨text, hsame⟩ htext, id⟩

/-- A class loader is asked for a class. -/
theorem answerable_loadClass (receiver : Handle) (arguments : List Argument) :
    Answerable before (.env pointer (.callObject receiver taxonomy.loadClass arguments)) := by
  -- No accessor is the method of a loader.
  have hlaw : ∀ reply after, Hierarchy.Law before after
      (.env pointer (.callObject receiver taxonomy.loadClass arguments)) reply :=
    fun _ _ _ accessor _ _ hmethod ↦ absurd hmethod.symm (taxonomy.method_ne accessor)
  by_cases hknown : ∃ loader string text known,
      before.live.find? receiver = some (.object loader) ∧
      arguments = [.reference (some string)] ∧ before.live.find? string = some (.string text) ∧
      taxonomy.loaded loader (encode text) = some known
  · obtain ⟨loader, string, text, known, hloader, rfl, hstring, hloaded⟩ := hknown
    obtain ⟨reply, after, hoffers⟩ := before.exists_offers (some (.classObject known))
    refine ⟨reply, after, hlaw reply after, ?_, id⟩
    rintro _ other _ read answer _ hother ⟨rfl⟩ hread hanswer
    cases hloader.symm.trans hother
    cases hstring.symm.trans hread
    cases hloaded.symm.trans hanswer
    exact hoffers
  · refine ⟨none, before, hlaw none before, ?_, id⟩
    intro _ loader string text known _ hloader harguments hstring hloaded
    exact absurd ⟨loader, string, text, known, hloader, harguments, hstring, hloaded⟩ hknown

theorem answerable_callObject (receiver : Handle) (method : MethodId)
    (arguments : List Argument) :
    Answerable before (.env pointer (.callObject receiver method arguments)) := by
  by_cases hmethod : method = taxonomy.loadClass
  · rw [hmethod]
    exact answerable_loadClass before pointer receiver arguments
  · obtain ⟨reply, after, hanswer, -⟩ := Hierarchy.exists_answer false before
      (.env pointer (.callObject receiver method arguments))
    exact ⟨reply, after, hanswer, fun _ _ _ _ _ hload ↦ absurd hload hmethod, id⟩

theorem answerable_isInstanceOf (object : Option Handle) (classObject : Handle) :
    Answerable before (.env pointer (.isInstanceOf object classObject)) := by
  by_cases hknown : ∃ handle known target, object = some handle ∧
    before.live.find? handle = some (.object known) ∧
    before.live.find? classObject = some (.classObject target)
  · obtain ⟨handle, known, target, rfl, hhandle, htarget⟩ := hknown
    classical
    refine ⟨decide (taxonomy.IsA (taxonomy.classOf known) target), before, fun _ ↦ trivial,
      ?_, id⟩
    rintro _ _ other tested ⟨rfl⟩ hother htested
    cases hhandle.symm.trans hother
    cases htarget.symm.trans htested
    exact ⟨decide_eq_true_iff, rfl⟩
  · refine ⟨false, before, fun _ ↦ trivial, ?_, id⟩
    intro _ handle known target hobject hhandle htarget
    exact absurd ⟨handle, known, target, hobject, hhandle, htarget⟩ hknown

theorem answerable_isAssignableFrom (sub sup : Handle) :
    Answerable before (.env pointer (.isAssignableFrom sub sup)) := by
  by_cases hknown : ∃ lower upper, before.live.find? sub = some (.classObject lower) ∧
    before.live.find? sup = some (.classObject upper)
  · obtain ⟨lower, upper, hlower, hupper⟩ := hknown
    classical
    refine ⟨decide (taxonomy.IsA lower upper), before, fun _ ↦ trivial, ?_, id⟩
    intro _ first second hfirst hsecond
    cases hlower.symm.trans hfirst
    cases hupper.symm.trans hsecond
    exact ⟨decide_eq_true_iff, rfl⟩
  · refine ⟨false, before, fun _ ↦ trivial, ?_, id⟩
    intro _ lower upper hlower hupper
    exact absurd ⟨lower, upper, hlower, hupper⟩ hknown

theorem answerable_newLocalRef (object : Handle) :
    Answerable before (.env pointer (.newLocalRef object)) := by
  cases hobject : before.live.find? object with
  | none =>
    refine ⟨some object, before, fun _ ↦ trivial, fun _ denoted hdenoted ↦ ?_, nofun⟩
    cases hobject.symm.trans hdenoted
  | some denoted =>
    obtain ⟨reply, after, handle, rfl, hoffers⟩ := before.exists_offers (some denoted)
    refine ⟨some handle, after, fun _ ↦ trivial, fun _ other hother ↦ .inr ?_, nofun⟩
    cases hobject.symm.trans hother
    exact ⟨handle, rfl, hoffers⟩

theorem answerable_newGlobalRef (object : Handle) :
    Answerable before (.env pointer (.newGlobalRef object)) := by
  refine answerable_of_law before (fun _ _ _ ↦ trivial) fun reply hgrants hrefused ↦ ?_
  obtain rfl : reply = none := hrefused
  cases hgrants

/-- The machine has an answer to every question, and it need not refuse anything. -/
theorem answerable (request : Call) : Answerable before request := by
  cases request with
  | env pointer function =>
    cases function with
    | findClass name => exact answerable_findClass before pointer name
    | getMethodId classObject name signature isStatic =>
      exact answerable_getMethodId before pointer classObject name signature isStatic
    | newString content => exact answerable_newString before pointer content
    | callObject receiver method arguments =>
      exact answerable_callObject before pointer receiver method arguments
    | isInstanceOf object classObject =>
      exact answerable_isInstanceOf before pointer object classObject
    | isAssignableFrom sub sup => exact answerable_isAssignableFrom before pointer sub sup
    | newLocalRef object => exact answerable_newLocalRef before pointer object
    | newGlobalRef object => exact answerable_newGlobalRef before pointer object
    | _ => exact answerable_of_law before (fun _ _ _ ↦ trivial) fun _ _ ↦ id
  | _ => exact answerable_of_law before (fun _ _ ↦ trivial) fun _ _ ↦ id

end

end Taxonomy

/-- An exchange with a machine that has these classes.  Operations of different threads follow each
other, so the bridge does not change during a call. -/
structure Exchange.Conforms [Host] {taxonomy : Taxonomy}
    (exchange : Exchange taxonomy.toHierarchy.Heap) : Prop where
  bridge : exchange.after.bridge = exchange.before.bridge
  obeys : exchange.Obeys
  law : Taxonomy.Law exchange.before.outside exchange.after.outside exchange.request
    exchange.reply

end JavaInterop
