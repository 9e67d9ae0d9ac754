import JavaInterop.Proofs.Environment.Operation
import JavaInterop.Proofs.Exception.Hierarchy

/-!
# Thrown objects and the factories of their classes

A pending exception is turned into an error by the factory for the nearest class that has one,
counting from the class of the thrown object upwards and leaving out the root.  The walk has the
reference to the next class in hand while it looks at the name of the last one, so what is said
about it speaks of the next reference, and the induction is on the names that are left.

References that were in use before a piece of the inspection stay in use, and whatever the piece
made for itself is newer than they are.  This is all that the pieces need to know of each other.
-/

namespace JavaInterop

open Program (Ensures)
open Hierarchy (Heap Denoted Lineage)
open Text.ModifiedUtf8 (encode decode?)

section

variable [Host] {α : Type} {hierarchy : Hierarchy} {env : Env} {thread : NativeThread}
  {first : Moment hierarchy.Heap}

/-! ## Single calls -/

/-- What holds after every lawful answer holds after the call. -/
theorem ensures_ask {function : EnvFunction}
    {post : List (Exchange hierarchy.Heap) → function.Reply → Moment hierarchy.Heap → Prop}
    (hpost : ∀ reply bridge heap,
      Hierarchy.Law first.outside heap (.env env.pointer function) reply →
      post [⟨thread, .env env.pointer function, reply, first, ⟨bridge, heap⟩⟩] reply
        ⟨bridge, heap⟩) :
    Ensures Exchange.Obeys thread (env.perform function) first post := by
  unfold Env.perform
  rw [Program.ensures_perform]
  rintro reply ⟨bridge, heap⟩ hlaw
  exact hpost reply bridge heap hlaw

/-- Giving up a local reference concerns no other one, whether it is still known or not. -/
theorem ensures_deleteLocal (handle : Handle) :
    Ensures Exchange.Obeys thread (env.deleteLocal (some handle)) first fun _ _ last ↦
      Heap.Forgets handle first.outside last.outside := by
  unfold Env.deleteLocal LifecycleId.registered?
  rw [Program.ensures_bind, Program.ensures_look]
  split
  · refine ensures_ask fun _ bridge heap hlaw ↦ ?_
    obtain rfl : heap = _ := hlaw
    exact ⟨rfl, fun other hother ↦ Store.find?_erase_of_ne _ hother⟩
  · rw [Program.ensures_pure]
    exact ⟨rfl, fun _ _ ↦ rfl⟩

/-- A string that the machine has made is read as it was made. -/
theorem ensures_readString {string : Handle} {content : String}
    (hpending : first.outside.pending = none) (hreadable : Readable content)
    (hstring : first.outside.live.find? string = some (.string content)) :
    Ensures Exchange.Obeys thread (env.readString string) first fun _ result last ↦
      result = some (.ok content) ∧ last.outside = first.outside := by
  unfold Env.readString
  rw [Program.ensures_bind]
  refine ensures_ask fun reply bridge heap hlaw ↦ ?_
  obtain ⟨⟨chars, rfl, hdecode⟩, rfl⟩ := hlaw hpending content hstring hreadable
  simp only [hdecode]
  rw [Program.ensures_bind]
  refine ensures_ask fun _ bridge' heap hlaw' ↦ ?_
  rw [Program.ensures_pure]
  exact ⟨rfl, hlaw'⟩

/-- A scope gives up only what is newer than `base`. -/
theorem ensures_scope {base : hierarchy.Heap} {handle : Handle} {body : Fallible α}
    (wanted : Except Error α → Prop) (hfresh : base.live.find? handle = none)
    (hbody : Ensures Exchange.Obeys thread body.run first fun _ result last ↦
      wanted result ∧ base.Grows last.outside) :
    Ensures Exchange.Obeys thread ((env.own (some handle)).scope body).run first
      fun _ result last ↦ wanted result ∧ base.Grows last.outside := by
  unfold LocalReference.scope
  rw [Fallible.ensures_thenAlways]
  refine hbody.weaken ?_
  rintro exchanges result middle ⟨hwanted, hgrows⟩
  refine (ensures_deleteLocal handle).weaken ?_
  rintro rest _ last hforgets
  exact ⟨hwanted, hgrows.forgets hfresh hforgets⟩

/-- Asking an object for a text through an accessor that it has gives that text. -/
theorem ensures_callStringMethod {object : Handle} {accessor : Accessor}
    {denoted : hierarchy.Denoted} {content : Option String}
    (hpending : first.outside.pending = none)
    (hobject : first.outside.live.find? object = some denoted)
    (htext : Hierarchy.text accessor denoted = some content) :
    Ensures Exchange.Obeys thread
      (env.callStringMethod object accessor.className accessor.methodName).run first
      fun _ result last ↦ result = .ok content ∧ first.outside.Grows last.outside := by
  unfold Env.callStringMethod
  rw [Fallible.ensures_liftThen]
  refine ensures_ask fun reply _ heap hlaw ↦ ?_
  obtain ⟨classObject, rfl, hfresh, rfl⟩ := hlaw hpending accessor rfl
  have hgrows := Heap.grows_add (.classObject (hierarchy.declaring accessor)) hfresh
  have hclass := first.outside.find?_add_self classObject
    (.classObject (hierarchy.declaring accessor))
  refine ensures_scope (fun result ↦ result = .ok content) hfresh ?_
  rw [Fallible.ensures_liftThen]
  refine ensures_ask fun reply _ heap hlaw' ↦ ?_
  obtain ⟨rfl, rfl⟩ := hlaw' hpending accessor hclass rfl rfl rfl
  rw [Fallible.ensures_liftThen]
  refine ensures_ask fun reply _ heap hlaw' ↦ ?_
  have hoffers := hlaw' hpending accessor denoted content rfl (hgrows.live _ _ hobject) htext
  rw [Fallible.ensures_liftThen]
  refine ensures_ask fun pending _ heap' hlaw' ↦ ?_
  obtain ⟨hcheck, rfl⟩ := hlaw'
  cases content with
  | none =>
    obtain ⟨rfl, rfl⟩ := hoffers
    simp only [Heap.pending_add, hpending, Option.isSome_none] at hcheck
    subst hcheck
    simp only [Bool.false_eq_true, ↓reduceIte]
    rw [Fallible.ensures_pure]
    exact ⟨rfl, hgrows⟩
  | some text =>
    obtain ⟨string, rfl, hnew, rfl⟩ := hoffers
    simp only [Heap.pending_add, hpending, Option.isSome_none] at hcheck
    subst hcheck
    simp only [Bool.false_eq_true, ↓reduceIte]
    have hgrows' := hgrows.trans (Heap.grows_add (.string text) hnew)
    refine ensures_scope (fun result ↦ result = .ok (some text)) (hgrows.fresh hnew) ?_
    rw [Fallible.ensures_liftThen]
    refine (ensures_readString ?_ (Hierarchy.readable_text htext) ?_).weaken ?_
    · exact hpending
    · exact Heap.find?_add_self _ _ _
    · rintro exchanges _ last ⟨rfl, hsame⟩
      simp only
      rw [Fallible.ensures_pure, hsame]
      exact ⟨rfl, hgrows'⟩

/-! ## Walking up the classes -/

/-- A walk through the superclasses has a reference to the class that it will name next, if there is
one.  It is newer than `base`, whose references all stay. -/
structure Hierarchy.Heap.Climbs (base : hierarchy.Heap) (next : Option Handle)
    (parent : Option hierarchy.Class) (heap : hierarchy.Heap) : Prop where
  grows : base.Grows heap
  next : match parent with
    | none => next = none
    | some parent => ∃ handle, next = some handle ∧ base.live.find? handle = none ∧
      heap.live.find? handle = some (.classObject parent)

/-- One step of the walk names a class and goes on to its superclass. -/
theorem ensures_ancestry {base : hierarchy.Heap} {next : Option Handle}
    {classObject : hierarchy.Class} (hpending : base.pending = none)
    (hclimbs : base.Climbs next (some classObject) first.outside) :
    Ensures Exchange.Obeys thread (env.ancestry.run.run next) first fun _ answer last ↦
      answer.1 = .ok (some (hierarchy.name classObject)) ∧
        base.Climbs answer.2 (hierarchy.superclass classObject) last.outside := by
  obtain ⟨hgrows, handle, rfl, hfresh, hclass⟩ := hclimbs
  have htext : Hierarchy.text .getName (Denoted.classObject classObject) =
      some (some (hierarchy.name classObject)) := rfl
  change Ensures _ _ (_ >>= _) _ _
  rw [Program.ensures_bind]
  refine (ensures_callStringMethod (hgrows.pending.trans hpending) hclass htext).weaken ?_
  rintro begun _ middle ⟨rfl, hnamed⟩
  simp only
  have hclass' := hnamed.live _ _ hclass
  have hpending' := (hgrows.trans hnamed).pending.trans hpending
  rw [Program.ensures_bind]
  refine ensures_ask fun reply _ heap hlaw ↦ ?_
  have hoffers := hlaw hpending' classObject hclass'
  rw [Program.ensures_bind]
  refine (ensures_deleteLocal handle).weaken ?_
  rintro rest _ last hforgets
  rw [Program.ensures_pure]
  refine ⟨rfl, ?_⟩
  cases hparent : hierarchy.superclass classObject with
  | none =>
    rw [hparent] at hoffers
    obtain ⟨rfl, rfl⟩ := hoffers
    exact ⟨(hgrows.trans hnamed).forgets hfresh hforgets, rfl⟩
  | some parent =>
    rw [hparent] at hoffers
    obtain ⟨above, rfl, hnew, rfl⟩ := hoffers
    have habove : above ≠ handle := by
      rintro rfl
      rw [hclass'] at hnew
      cases hnew
    have hgrows' := (hgrows.trans hnamed).trans (Heap.grows_add (.classObject parent) hnew)
    refine ⟨hgrows'.forgets hfresh hforgets, above, rfl, (hgrows.trans hnamed).fresh hnew, ?_⟩
    rw [hforgets.live above habove]
    exact Heap.find?_add_self _ _ _

/-- The outcome of a walk through classes of the given names. -/
def Registry.verdict (registry : Registry) (className : String) (names : List String) :
    Resolution :=
  match names.findSome? registry.lookup with
  | some factory => .matched factory className
  | none => .unmatched className

section

variable {m : Type → Type} [Monad m] {σ : Type} {registry : Registry} {next : Ancestry m σ}
  {className name : String} {remaining : Nat}

omit [Host] in
theorem walk_of_root (hname : name = rootClass) :
    walk registry next className remaining name = pure (.unmatched className) := by
  rw [walk.eq_def]
  exact if_pos hname

omit [Host] in
theorem walk_of_lookup {factory : Factory} (hname : name ≠ rootClass)
    (hlookup : registry.lookup name = some factory) :
    walk registry next className remaining name = pure (.matched factory className) := by
  rw [walk.eq_def]
  refine (if_neg hname).trans ?_
  rw [hlookup]

omit [Host] in
theorem walk_succ (hname : name ≠ rootClass) (hlookup : registry.lookup name = none) :
    walk registry next className (remaining + 1) name = (do
      match ← next with
      | some name => walk registry next className remaining name
      | none => pure (.unmatched className)) := by
  rw [walk.eq_def]
  refine (if_neg hname).trans ?_
  generalize registry.lookup name = found at hlookup ⊢
  subst hlookup
  rfl

end

/-- A walk from a class comes to an end although it may look at only so many more names, and these
names decide what it finds.  Names behind the first one that has a factory do not matter. -/
inductive Hierarchy.Decided (hierarchy : Hierarchy) (registry : Registry) :
    hierarchy.Class → List String → Nat → Prop
  | root {classObject : hierarchy.Class} {remaining : Nat}
    (hname : hierarchy.name classObject = rootClass) :
    Decided hierarchy registry classObject [] remaining
  | found {classObject : hierarchy.Class} {names : List String} {remaining : Nat}
    {factory : Factory} (hname : hierarchy.name classObject ≠ rootClass)
    (hlookup : registry.lookup (hierarchy.name classObject) = some factory) :
    Decided hierarchy registry classObject (hierarchy.name classObject :: names) remaining
  | missed {classObject parent : hierarchy.Class} {names : List String} {remaining : Nat}
    (hname : hierarchy.name classObject ≠ rootClass)
    (hlookup : registry.lookup (hierarchy.name classObject) = none)
    (hparent : hierarchy.superclass classObject = some parent)
    (hrest : Decided hierarchy registry parent names remaining) :
    Decided hierarchy registry classObject (hierarchy.name classObject :: names) (remaining + 1)

omit [Host] in
/-- All names up to the root are enough. -/
theorem Hierarchy.Lineage.decided {registry : Registry} {classObject : hierarchy.Class}
    {names : List String} (hlineage : hierarchy.Lineage classObject names) {remaining : Nat}
    (hremaining : names.length ≤ remaining) :
    hierarchy.Decided registry classObject names remaining := by
  induction hlineage generalizing remaining with
  | root hname => exact .root hname
  | inherits hname hparent hrest ih =>
    cases hlookup : registry.lookup (hierarchy.name _) with
    | some factory => exact .found hname hlookup
    | none =>
      cases remaining with
      | zero => simp at hremaining
      | succ remaining =>
        exact .missed hname hlookup hparent (ih (Nat.le_of_succ_le_succ hremaining))

/-- From any class on, the walk finds the first factory, provided that it may look at enough
names. -/
theorem ensures_walk {registry : Registry} {base : hierarchy.Heap} {className : String}
    {classObject : hierarchy.Class} {names : List String} {remaining : Nat}
    (hpending : base.pending = none)
    (hdecided : hierarchy.Decided registry classObject names remaining) {next : Option Handle}
    (hclimbs : base.Climbs next (hierarchy.superclass classObject) first.outside) :
    Ensures Exchange.Obeys thread
      ((walk registry env.ancestry className remaining
        (hierarchy.name classObject)).run.run next) first
      fun _ answer last ↦ answer.1 = .ok (registry.verdict className names) ∧
        ∃ parent, base.Climbs answer.2 parent last.outside := by
  induction hdecided generalizing first next with
  | root hname =>
    rw [walk_of_root hname]
    change Ensures _ _ (pure _) _ _
    rw [Program.ensures_pure]
    exact ⟨rfl, _, hclimbs⟩
  | found hname hlookup =>
    rw [walk_of_lookup hname hlookup]
    change Ensures _ _ (pure _) _ _
    rw [Program.ensures_pure]
    refine ⟨?_, _, hclimbs⟩
    simp [Registry.verdict, hlookup]
  | @missed classObject parent names remaining hname hlookup hparent hrest ih =>
    rw [hparent] at hclimbs
    rw [walk_succ hname hlookup, Fallible.run_stateful_bind, Program.ensures_bind]
    refine (ensures_ancestry hpending hclimbs).weaken ?_
    rintro begun ⟨_, rest⟩ middle ⟨rfl, hclimbs'⟩
    have hverdict : registry.verdict className (hierarchy.name classObject :: names) =
        registry.verdict className names := by
      simp [Registry.verdict, hlookup]
    rw [hverdict]
    exact ih hclimbs'

theorem ensures_resolve {registry : Registry} {base : hierarchy.Heap}
    {classObject : hierarchy.Class} {names : List String} (hpending : base.pending = none)
    (hdecided : hierarchy.Decided registry classObject names (maxAncestors - 1))
    {next : Option Handle} (hclimbs : base.Climbs next (some classObject) first.outside) :
    Ensures Exchange.Obeys thread ((resolve registry env.ancestry).run.run next) first
      fun _ answer last ↦
        answer.1 = .ok (registry.verdict (hierarchy.name classObject) names) ∧
          ∃ parent, base.Climbs answer.2 parent last.outside := by
  unfold resolve
  rw [Fallible.run_stateful_bind, Program.ensures_bind]
  refine (ensures_ancestry hpending hclimbs).weaken ?_
  rintro begun ⟨_, above⟩ middle ⟨rfl, hclimbs'⟩
  exact ensures_walk hpending hdecided hclimbs'

/-- The factory of a thrown object is found, or that there is none. -/
theorem ensures_resolveThrown {registry : Registry} {throwable : Handle}
    {object : hierarchy.Object} {names : List String}
    (hpending : first.outside.pending = none)
    (hobject : first.outside.live.find? throwable = some (.object object))
    (hdecided : hierarchy.Decided registry (hierarchy.classOf object) names (maxAncestors - 1)) :
    Ensures Exchange.Obeys thread (env.resolveThrown registry throwable).run first
      fun _ result last ↦
        result = .ok (registry.verdict (hierarchy.name (hierarchy.classOf object)) names) ∧
          first.outside.Grows last.outside := by
  unfold Env.resolveThrown
  rw [Fallible.ensures_liftThen]
  refine ensures_ask fun reply bridge heap hlaw ↦ ?_
  obtain ⟨classObject, rfl, hfresh, rfl⟩ := hlaw hpending object hobject
  have hclimbs : first.outside.Climbs (some classObject) (some (hierarchy.classOf object))
      (first.outside.add classObject (.classObject (hierarchy.classOf object))) :=
    ⟨Heap.grows_add _ hfresh, classObject, rfl, hfresh, Heap.find?_add_self _ _ _⟩
  change Ensures _ _ ((resolve registry env.ancestry).run.run (some classObject) >>= _) _ _
  rw [Program.ensures_bind]
  refine (ensures_resolve hpending hdecided hclimbs).weaken ?_
  rintro begun ⟨_, above⟩ middle ⟨rfl, parent, hgrows, hnext⟩
  simp only
  rw [Program.ensures_bind]
  cases parent with
  | none =>
    obtain rfl : above = none := hnext
    change Ensures _ _ (pure _) _ _
    rw [Program.ensures_pure, Program.ensures_pure]
    exact ⟨rfl, hgrows⟩
  | some parent =>
    obtain ⟨handle, rfl, hfresh', -⟩ := hnext
    refine (ensures_deleteLocal handle).weaken ?_
    rintro _ _ last hforgets
    rw [Program.ensures_pure]
    exact ⟨rfl, hgrows.forgets hfresh' hforgets⟩

/-- The message of a thrown object is what the object answers. -/
theorem ensures_thrownMessage {throwable : Handle} {object : hierarchy.Object}
    (hpending : first.outside.pending = none)
    (hobject : first.outside.live.find? throwable = some (.object object)) :
    Ensures Exchange.Obeys thread (env.thrownMessage throwable) first fun _ result last ↦
      result = hierarchy.message object ∧ first.outside.Grows last.outside := by
  have htext : Hierarchy.text .getMessage (Denoted.object object) =
      some (hierarchy.message object) := rfl
  unfold Env.thrownMessage
  rw [Program.ensures_bind]
  refine (ensures_callStringMethod hpending hobject htext).weaken ?_
  rintro exchanges _ last ⟨rfl, hgrows⟩
  simp only
  rw [Program.ensures_pure]
  exact ⟨rfl, hgrows⟩

/-! ## The error -/

/-- A new global reference to an object was asked for, and this was the answer. -/
def Exchange.OffersGlobal (object : hierarchy.Object) (answer : Option Handle) :
    Exchange hierarchy.Heap → Prop
  | ⟨_, .env _ (.newGlobalRef asked), reply, before, _⟩ =>
    before.outside.live.find? asked = some (.object object) ∧ reply = answer ∧
      ∀ handle, answer = some handle → before.outside.live.find? handle = none
  | _ => False

theorem Exchange.OffersGlobal.grants {exchange : Exchange hierarchy.Heap}
    {object : hierarchy.Object} {answer : Option Handle} {refuses : Bool}
    (hoffers : exchange.OffersGlobal object answer)
    (hgrants : Hierarchy.Grants refuses exchange.request exchange.reply) :
    answer.isNone = refuses := by
  obtain ⟨caller, request, reply, before, after⟩ := exchange
  cases request with
  | env pointer function =>
    cases function with
    | newGlobalRef asked =>
      obtain ⟨-, rfl, -⟩ := hoffers
      exact hgrants
    | _ => exact hoffers.elim
  | _ => exact hoffers.elim

/-- The error stands for the object: it carries the class and the message of the object, and the
object itself in the type of the nearest class that has a factory.  Without any such class only the
name of the object's class is kept, and without a reference to the object there is nothing to keep
it with. -/
def Error.StandsFor (error : Error) (object : hierarchy.Object) (env : Env)
    (nearest : Option Factory) (exchanges : List (Exchange hierarchy.Heap))
    (heap : hierarchy.Heap) : Prop :=
  match nearest with
  | none => error = .unlinkedException (hierarchy.name (hierarchy.classOf object))
  | some factory =>
    (∃ type handle, factory = .proxy type ∧
      error = .javaException ⟨hierarchy.name (hierarchy.classOf object), hierarchy.message object,
        ⟨type, ⟨some handle, env.lifecycle, env.generation⟩⟩⟩ ∧
      heap.live.find? handle = some (.object object) ∧
      ∃ exchange ∈ exchanges, exchange.OffersGlobal object (some handle)) ∨
    error = .globalReferencesExhausted ∧
      ∃ exchange ∈ exchanges, exchange.OffersGlobal object none

/-- What was exchanged otherwise does not matter. -/
theorem Error.StandsFor.mono {error : Error} {object : hierarchy.Object} {nearest : Option Factory}
    {exchanges wider : List (Exchange hierarchy.Heap)} {heap : hierarchy.Heap}
    (hstands : error.StandsFor object env nearest exchanges heap) (hsubset : exchanges ⊆ wider) :
    error.StandsFor object env nearest wider heap := by
  cases nearest with
  | none => exact hstands
  | some factory =>
    rcases hstands with ⟨type, handle, hfactory, herror, hlive, exchange, hmem, hoffers⟩ |
      ⟨herror, exchange, hmem, hoffers⟩
    · exact .inl ⟨type, handle, hfactory, herror, hlive, exchange, hsubset hmem, hoffers⟩
    · exact .inr ⟨herror, exchange, hsubset hmem, hoffers⟩

/-- The error is made from the nearest factory, and it does not need the reference through which the
object was inspected. -/
theorem ensures_throwResolved {registry : Registry} {throwable : Handle}
    {object : hierarchy.Object} {names : List String}
    (hproxies : ∀ factory ∈ registry.factories, ∃ type, factory = .proxy type)
    (hpending : first.outside.pending = none)
    (hobject : first.outside.live.find? throwable = some (.object object)) :
    Ensures Exchange.Obeys thread
      (env.throwResolved throwable
        (registry.verdict (hierarchy.name (hierarchy.classOf object)) names)
        (hierarchy.message object)).run first
      fun exchanges result last ↦ ∃ error, result = .error error ∧
        ∀ heap, Heap.Forgets throwable last.outside heap → heap.pending = none ∧
          error.StandsFor object env (names.findSome? registry.lookup) exchanges heap := by
  unfold Registry.verdict
  cases hnearest : names.findSome? registry.lookup with
  | none =>
    unfold Env.throwResolved
    rw [Fallible.ensures_throw]
    exact ⟨_, rfl, fun heap hforgets ↦ ⟨hforgets.pending.trans hpending, rfl⟩⟩
  | some factory =>
    obtain ⟨name, -, hlookup⟩ := List.exists_of_findSome?_eq_some hnearest
    obtain ⟨type, rfl⟩ := hproxies factory (List.mem_of_find?_eq_some hlookup)
    unfold Env.throwResolved Env.newGlobal Fallible.nonNull
    simp only [pure_bind, bind_assoc]
    rw [Fallible.ensures_liftThen]
    refine ensures_ask fun reply bridge heap hlaw ↦ ?_
    rcases hlaw hpending _ hobject with ⟨rfl, rfl⟩ | ⟨handle, rfl, hfresh, rfl⟩
    · simp only
      rw [Fallible.run_throw_bind, Program.ensures_pure]
      refine ⟨_, rfl, fun heap hforgets ↦ ⟨hforgets.pending.trans hpending, .inr ⟨rfl, ?_⟩⟩⟩
      exact ⟨_, List.mem_cons_self, hobject, rfl, fun _ hhandle ↦ nomatch hhandle⟩
    · simp only [pure_bind, Factory.keepsReference, Bool.not_true, Bool.false_eq_true, ↓reduceIte]
      rw [Fallible.ensures_throw]
      refine ⟨_, rfl, fun heap hforgets ↦ ⟨hforgets.pending.trans hpending, .inl ?_⟩⟩
      have hhandle : handle ≠ throwable := by
        rintro rfl
        rw [hobject] at hfresh
        cases hfresh
      refine ⟨type, handle, rfl, rfl, ?_, _, List.mem_cons_self, hobject, rfl, ?_⟩
      · rw [hforgets.live handle hhandle]
        exact Heap.find?_add_self _ _ _
      · rintro _ ⟨rfl⟩
        exact hfresh

/-! ## The catch -/

theorem ensures_catchWith_nothing {registry : Registry} (hpending : first.outside.pending = none) :
    Ensures Exchange.Obeys thread (env.catchWith registry).run first fun _ result last ↦
      result = .ok () ∧ last.outside.pending = none := by
  unfold Env.catchWith
  rw [Fallible.ensures_liftThen]
  refine ensures_ask fun reply bridge heap hlaw ↦ ?_
  have hoffers : first.outside.Offers heap reply (first.outside.pending.map .object) := hlaw
  rw [hpending] at hoffers
  obtain ⟨rfl, rfl⟩ := hoffers
  simp only
  rw [Fallible.ensures_pure]
  exact ⟨rfl, hpending⟩

theorem ensures_catchWith_decided {registry : Registry} {object : hierarchy.Object}
    {names : List String} (hproxies : ∀ factory ∈ registry.factories, ∃ type, factory = .proxy type)
    (hpending : first.outside.pending = some object)
    (hdecided : hierarchy.Decided registry (hierarchy.classOf object) names (maxAncestors - 1)) :
    Ensures Exchange.Obeys thread (env.catchWith registry).run first fun exchanges result last ↦
      ∃ error, result = .error error ∧ last.outside.pending = none ∧
        error.StandsFor object env (names.findSome? registry.lookup) exchanges last.outside := by
  unfold Env.catchWith
  rw [Fallible.ensures_liftThen]
  refine ensures_ask fun reply bridge heap hlaw ↦ ?_
  have hoffers : first.outside.Offers heap reply (first.outside.pending.map .object) := hlaw
  rw [hpending] at hoffers
  obtain ⟨throwable, rfl, -, rfl⟩ := hoffers
  simp only
  rw [Fallible.ensures_liftThen]
  refine ensures_ask fun _ bridge' heap hlaw' ↦ ?_
  obtain rfl : heap = { first.outside.add throwable (.object object) with pending := none } := hlaw'
  have hobject := first.outside.find?_add_self throwable (.object object)
  unfold LocalReference.scope
  rw [Fallible.ensures_thenAlways, Fallible.ensures_bind]
  refine (ensures_resolveThrown rfl hobject hdecided).weaken ?_
  rintro begun _ middle ⟨rfl, hgrows⟩
  rw [Fallible.continues_ok, Fallible.ensures_liftThen]
  have hobject' := hgrows.live _ _ hobject
  refine (ensures_thrownMessage hgrows.pending hobject').weaken ?_
  rintro asked _ middle' ⟨rfl, hgrows'⟩
  refine (ensures_throwResolved hproxies (hgrows'.pending.trans hgrows.pending)
    (hgrows'.live _ _ hobject')).weaken ?_
  rintro ended _ middle'' ⟨error, rfl, hstands⟩
  refine (ensures_deleteLocal throwable).weaken ?_
  rintro rest _ last hforgets
  obtain ⟨hpending', hstands'⟩ := hstands last.outside hforgets
  refine ⟨error, rfl, hpending', hstands'.mono ?_⟩
  intro exchange hmem
  simp [hmem]

theorem ensures_catchWith_pending {registry : Registry} {object : hierarchy.Object}
    {names : List String} (hproxies : ∀ factory ∈ registry.factories, ∃ type, factory = .proxy type)
    (hpending : first.outside.pending = some object)
    (hlineage : hierarchy.Lineage (hierarchy.classOf object) names)
    (hlength : names.length < maxAncestors) :
    Ensures Exchange.Obeys thread (env.catchWith registry).run first fun exchanges result last ↦
      ∃ error, result = .error error ∧ last.outside.pending = none ∧
        error.StandsFor object env (names.findSome? registry.lookup) exchanges last.outside :=
  ensures_catchWith_decided hproxies hpending (hlineage.decided (Nat.le_sub_one_of_lt hlength))

/-- Catching turns a pending exception into the error for the nearest class that has a factory, and
without an exception it does nothing. -/
theorem Env.catchWith_resolves {registry : Registry} {names : List String}
    {last : Moment hierarchy.Heap} {exchanges : List (Exchange hierarchy.Heap)}
    {result : Except Error Unit}
    (hproxies : ∀ factory ∈ registry.factories, ∃ type, factory = .proxy type)
    (hlineage : ∀ object, first.outside.pending = some object →
      hierarchy.Lineage (hierarchy.classOf object) names)
    (hlength : names.length < maxAncestors)
    (hrun : (env.catchWith registry).run.Run thread first exchanges result last)
    (hlaw : ∀ exchange ∈ exchanges, exchange.Obeys) :
    last.outside.pending = none ∧ (result = .ok () ↔ first.outside.pending = none) ∧
      ∀ object, first.outside.pending = some object → ∃ error, result = .error error ∧
        error.StandsFor object env (names.findSome? registry.lookup) exchanges last.outside := by
  cases hpending : first.outside.pending with
  | none =>
    obtain ⟨rfl, hlast⟩ := ensures_catchWith_nothing hpending exchanges result last hrun hlaw
    refine ⟨hlast, by simp, ?_⟩
    rintro object ⟨⟩
  | some object =>
    obtain ⟨error, rfl, hlast, hstands⟩ := ensures_catchWith_pending hproxies hpending
      (hlineage object hpending) hlength exchanges result last hrun hlaw
    refine ⟨hlast, by simp, ?_⟩
    rintro _ ⟨rfl⟩
    exact ⟨error, rfl, hstands⟩

end

/-! ## Runs in which a class is found or no reference is given -/

namespace Sample

/-- A machine with one object, whose class `A` descends from `T`. -/
def hierarchy : Hierarchy where
  Object := Unit
  Class := Fin 3
  classOf _ := 0
  superclass classObject := [some 1, some 2, none][classObject]
  name classObject := ["A", "T", rootClass][classObject]
  message _ := some "text"
  declaring _ := 2
  method accessor := if accessor = .getName then ⟨vm, 1⟩ else ⟨vm, 2⟩
  readable_name classObject := by
    refine ⟨encode ["A", "T", rootClass][classObject], ?_⟩
    revert classObject
    decide +kernel
  readable_message _ text htext := by
    cases htext
    exact ⟨encode "text", by decide +kernel⟩

/-- The object has been thrown. -/
def thrown [Host] : Moment hierarchy.Heap := ⟨bridge, ⟨some (), .empty⟩⟩

theorem lineage : hierarchy.Lineage (0 : Fin 3) ["A", "T"] :=
  .inherits (by decide) rfl (.inherits (by decide) rfl (.root rfl))

theorem proxies_linked : ∀ factory ∈ linked.factories, ∃ type, factory = .proxy type := by
  simp [linked]

theorem nearest_linked : ["A", "T"].findSome? linked.lookup = some (.proxy ⟨"T", "T"⟩) := by
  decide +kernel

/-- The machine may refuse the reference to the thrown object or not. -/
theorem exists_catch [Host] (refuses : Bool) :
    ∃ (exchanges : List (Exchange hierarchy.Heap)) (result : Except Error Unit)
      (last : Moment hierarchy.Heap),
      (env.catchWith linked).run.Run thread thrown exchanges result last ∧
      (∀ exchange ∈ exchanges, exchange.Obeys) ∧
        ∀ exchange ∈ exchanges, Hierarchy.Grants refuses exchange.request exchange.reply := by
  let law (exchange : Exchange hierarchy.Heap) : Prop :=
    exchange.Obeys ∧ Hierarchy.Grants refuses exchange.request exchange.reply
  have htotal : ∀ request before, ∃ reply after, law ⟨thread, request, reply, before, after⟩ := by
    intro request before
    obtain ⟨reply, heap, hanswer⟩ := Hierarchy.exists_answer refuses before.outside request
    exact ⟨reply, ⟨before.bridge, heap⟩, hanswer⟩
  obtain ⟨exchanges, result, last, hrun, hlaw⟩ :=
    @Program.exists_run _ _ _ thread thrown (env.catchWith linked).run law htotal
  exact ⟨exchanges, result, last, hrun, fun exchange hmem ↦ (hlaw exchange hmem).1,
    fun exchange hmem ↦ (hlaw exchange hmem).2⟩

end Sample

/-- An exception is caught by the factory for the superclass of its class. -/
theorem Env.catchWith_superclass :
    let _ := Sample.host
    ∃ (exchanges : List (Exchange Sample.hierarchy.Heap)) (handle : Handle)
      (last : Moment Sample.hierarchy.Heap),
      (Sample.env.catchWith Sample.linked).run.Run Sample.thread Sample.thrown exchanges
        (.error (.javaException ⟨"A", some "text", ⟨⟨"T", "T"⟩, ⟨some handle, .shared, 1⟩⟩⟩)) last ∧
      (∀ exchange ∈ exchanges, exchange.Obeys) ∧
      last.outside.live.find? handle = some (.object ()) := by
  intro _
  obtain ⟨exchanges, result, last, hrun, hlaw, hgrants⟩ := Sample.exists_catch false
  have hlineage : ∀ object, Sample.thrown.outside.pending = some object →
      Sample.hierarchy.Lineage (Sample.hierarchy.classOf object) ["A", "T"] :=
    fun _ _ ↦ Sample.lineage
  obtain ⟨-, -, hcaught⟩ := Env.catchWith_resolves Sample.proxies_linked hlineage (by decide) hrun
    hlaw
  obtain ⟨error, rfl, hstands⟩ := hcaught () rfl
  rw [Sample.nearest_linked] at hstands
  rcases hstands with ⟨type, handle, hfactory, rfl, hlive, -⟩ | ⟨-, exchange, hmem, hoffers⟩
  · cases hfactory
    exact ⟨exchanges, handle, last, hrun, hlaw, hlive⟩
  · cases hoffers.grants (hgrants exchange hmem)

/-- If the machine makes no new global reference, there is no error for the exception, although its
superclass has a factory. -/
theorem Env.catchWith_exhausted :
    let _ := Sample.host
    ∃ (exchanges : List (Exchange Sample.hierarchy.Heap)) (last : Moment Sample.hierarchy.Heap),
      (Sample.env.catchWith Sample.linked).run.Run Sample.thread Sample.thrown exchanges
        (.error .globalReferencesExhausted) last ∧
      (∀ exchange ∈ exchanges, exchange.Obeys) ∧
      Sample.hierarchy.Lineage (Sample.hierarchy.classOf ()) ["A", "T"] ∧
      Sample.linked.lookup "T" = some (.proxy ⟨"T", "T"⟩) := by
  intro _
  obtain ⟨exchanges, result, last, hrun, hlaw, hgrants⟩ := Sample.exists_catch true
  obtain ⟨error, rfl, -, hstands⟩ := ensures_catchWith_pending Sample.proxies_linked rfl
    Sample.lineage (by decide) exchanges result last hrun hlaw
  rw [Sample.nearest_linked] at hstands
  rcases hstands with ⟨_, _, _, _, _, exchange, hmem, hoffers⟩ | ⟨rfl, -⟩
  · cases hoffers.grants (hgrants exchange hmem)
  · exact ⟨exchanges, last, hrun, hlaw, Sample.lineage, by decide +kernel⟩

end JavaInterop
