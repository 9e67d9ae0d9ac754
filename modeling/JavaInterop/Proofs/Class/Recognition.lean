import JavaInterop.Class.Cast
import JavaInterop.Proofs.Environment.Setting
import JavaInterop.Proofs.Exception.Taxonomy
import JavaInterop.Proofs.Reference.Settled

/-!
# Testing objects for the class of a type

A test of an object, or of one type against another, gets hold of the classes of the types first.
A class that was kept is used again; any other one is found through the class loader of the thread
or by the machine itself, and is kept from then on.  Whatever a piece of this does, the references
that were in use before stay in use, and the next piece finds everything prepared as it was.

So the test asks the machine about the right class, and its answer is what the machine says.  The
only other outcome is that a reference was refused on the way.
-/

namespace JavaInterop

open Program (Ensures)
open Hierarchy (Heap)
open Text.ModifiedUtf8 (encode)

/-- A reference that was not in use before stands for something new. -/
structure Hierarchy.Heap.Gains {hierarchy : Hierarchy} (before : hierarchy.Heap) (handle : Handle)
    (denoted : hierarchy.Denoted) (after : hierarchy.Heap) : Prop where
  grows : before.Grows after
  fresh : before.live.find? handle = none
  live : after.live.find? handle = some denoted

namespace Hierarchy.Heap

variable {hierarchy : Hierarchy} {before middle after : hierarchy.Heap} {handle : Handle}
  {denoted : hierarchy.Denoted}

theorem Offers.gains {reply : Option Handle} (hoffers : before.Offers after reply (some denoted)) :
    ∃ handle, reply = some handle ∧ before.Gains handle denoted after := by
  obtain ⟨handle, rfl, hfresh, rfl⟩ := hoffers
  exact ⟨handle, rfl, grows_add denoted hfresh, hfresh, before.find?_add_self handle denoted⟩

/-- What was gained later stays when an earlier gain is given up. -/
theorem Gains.forgets {last : hierarchy.Heap} {earlier : Handle} {known : hierarchy.Denoted}
    (hearlier : before.Gains earlier known middle) (hgains : middle.Gains handle denoted after)
    (hforgets : Forgets earlier after last) : before.Gains handle denoted last := by
  have hother : handle ≠ earlier := by
    rintro rfl
    cases hearlier.live.symm.trans hgains.fresh
  refine ⟨(hearlier.grows.trans hgains.grows).forgets hearlier.fresh hforgets,
    hearlier.grows.fresh hgains.fresh, ?_⟩
  rw [hforgets.live handle hother]
  exact hgains.live

end Hierarchy.Heap

namespace Taxonomy

variable [Host] {α : Type} {taxonomy : Taxonomy} {env : Env} {thread : NativeThread}
  {first : Moment taxonomy.toHierarchy.Heap}

/-! ## Single calls -/

/-- What holds after every answer of the machine holds after the call. -/
theorem ensures_ask {function : EnvFunction}
    {post : List (Exchange taxonomy.toHierarchy.Heap) → function.Reply →
      Moment taxonomy.toHierarchy.Heap → Prop}
    (hpost : ∀ reply heap,
      Hierarchy.Law first.outside heap (.env env.pointer function) reply →
      Law first.outside heap (.env env.pointer function) reply →
      post [⟨thread, .env env.pointer function, reply, first, ⟨first.bridge, heap⟩⟩] reply
        ⟨first.bridge, heap⟩) :
    Ensures Exchange.Conforms thread (env.perform function) first post := by
  unfold Env.perform
  rw [Program.ensures_perform]
  rintro reply ⟨bridge, heap⟩ hconforms
  obtain rfl : bridge = first.bridge := hconforms.bridge
  exact hpost reply heap hconforms.obeys hconforms.law

theorem ensures_deleteLocal (handle : Handle) :
    Ensures Exchange.Conforms thread (env.deleteLocal (some handle)) first fun _ _ last ↦
      last.bridge = first.bridge ∧ Heap.Forgets handle first.outside last.outside := by
  unfold Env.deleteLocal LifecycleId.registered?
  rw [Program.ensures_bind, Program.ensures_look]
  split
  · refine ensures_ask fun _ heap hlaw _ ↦ ⟨rfl, ?_⟩
    obtain rfl : heap = _ := hlaw
    exact ⟨rfl, fun other hother ↦ Store.find?_erase_of_ne _ hother⟩
  · rw [Program.ensures_pure]
    exact ⟨rfl, rfl, fun _ _ ↦ rfl⟩

/-- Nothing is caught while nothing is pending. -/
theorem ensures_catchPending (hpending : first.outside.pending = none) :
    Ensures Exchange.Conforms thread env.catchPending.run first fun _ result last ↦
      result = .ok () ∧ last = first := by
  unfold Env.catchPending Env.catchWith
  rw [Fallible.ensures_liftThen, Program.ensures_state, Fallible.ensures_liftThen]
  refine ensures_ask fun reply heap hlaw _ ↦ ?_
  have hoffers : first.outside.Offers heap reply (first.outside.pending.map .object) := hlaw
  rw [hpending] at hoffers
  obtain ⟨rfl, rfl⟩ := hoffers
  exact Fallible.ensures_pure.2 ⟨rfl, rfl⟩

theorem ensures_findClass {internalName : String} {name : Text.CString}
    {known : taxonomy.Class} (hpending : first.outside.pending = none)
    (hname : Text.CString.ofText internalName = .ok name)
    (hfound : taxonomy.found name = some known) :
    Ensures Exchange.Conforms thread (env.findClass internalName).run first fun _ result last ↦
      ∃ handle, result = .ok (env.own (some handle)) ∧ last.bridge = first.bridge ∧
        first.outside.Gains handle (.classObject known) last.outside := by
  unfold Env.findClass Fallible.ended
  rw [hname, pure_bind, Fallible.ensures_liftThen]
  refine ensures_ask fun reply heap _ hlaw ↦ ?_
  obtain ⟨handle, rfl, hgains⟩ := (hlaw hpending known hfound).gains
  rw [Fallible.ensures_bind]
  refine (ensures_catchPending (hgains.grows.pending.trans hpending)).weaken ?_
  rintro _ _ last ⟨rfl, rfl⟩
  rw [Fallible.continues_ok, Fallible.nonNull, pure_bind]
  exact Fallible.ensures_pure.2 ⟨handle, rfl, rfl, hgains⟩

/-- The method through which class loaders find classes. -/
theorem ensures_findMethod {classObject : Handle} (hpending : first.outside.pending = none)
    (hclass : first.outside.live.find? classObject = some (.classObject taxonomy.loaderClass)) :
    Ensures Exchange.Conforms thread
      (env.findMethod (some classObject) "loadClass" "(Ljava/lang/String;)Ljava/lang/Class;"
        false).run first
      fun _ result last ↦ result = .ok taxonomy.loadClass ∧ last = first := by
  have hname : Text.CString.ofText "loadClass" = .ok (encode "loadClass") := by decide +kernel
  have hsignature : Text.CString.ofText "(Ljava/lang/String;)Ljava/lang/Class;" =
      .ok (encode "(Ljava/lang/String;)Ljava/lang/Class;") := by
    decide +kernel
  unfold Env.findMethod Fallible.ended Fallible.nonNull
  rw [hname, hsignature, pure_bind, pure_bind, pure_bind, Fallible.ensures_liftThen]
  refine ensures_ask fun reply heap _ hlaw ↦ ?_
  obtain ⟨rfl, rfl⟩ := hlaw hpending hclass rfl rfl rfl
  exact Fallible.ensures_pure.2 ⟨rfl, rfl⟩

theorem ensures_newString (content : String) (hpending : first.outside.pending = none) :
    Ensures Exchange.Conforms thread (env.newString content).run first fun _ result last ↦
      ∃ handle same, result = .ok (env.own (some handle)) ∧ encode content = encode same ∧
        last.bridge = first.bridge ∧ first.outside.Gains handle (.string same) last.outside := by
  unfold Env.newString
  rw [Fallible.ensures_liftThen]
  refine ensures_ask fun reply heap _ hlaw ↦ ?_
  obtain ⟨same, hsame, hoffers⟩ := hlaw hpending content rfl
  obtain ⟨handle, rfl, hgains⟩ := hoffers.gains
  rw [Fallible.ensures_bind]
  refine (ensures_catchPending (hgains.grows.pending.trans hpending)).weaken ?_
  rintro _ _ last ⟨rfl, rfl⟩
  rw [Fallible.continues_ok, Fallible.nonNull, pure_bind]
  exact Fallible.ensures_pure.2 ⟨handle, same, rfl, hsame, rfl, hgains⟩

theorem ensures_loadClass {receiver string : Handle} {loader : taxonomy.Object} {text : String}
    {known : taxonomy.Class} (hpending : first.outside.pending = none)
    (hreceiver : first.outside.live.find? receiver = some (.object loader))
    (hstring : first.outside.live.find? string = some (.string text))
    (hloaded : taxonomy.loaded loader (encode text) = some known) :
    Ensures Exchange.Conforms thread
      (env.callObject (some receiver) taxonomy.loadClass [.reference (some string)]).run first
      fun _ result last ↦ ∃ handle, result = .ok (some (env.own (some handle))) ∧
        last.bridge = first.bridge ∧
        first.outside.Gains handle (.classObject known) last.outside := by
  unfold Env.callObject Fallible.nonNull
  rw [pure_bind, Fallible.ensures_liftThen]
  refine ensures_ask fun reply heap _ hlaw ↦ ?_
  have hoffers := hlaw hpending loader string text known rfl hreceiver rfl hstring hloaded
  obtain ⟨handle, rfl, hgains⟩ := hoffers.gains
  rw [Fallible.ensures_bind]
  refine (ensures_catchPending (hgains.grows.pending.trans hpending)).weaken ?_
  rintro _ _ last ⟨rfl, rfl⟩
  exact Fallible.ensures_pure.2 ⟨handle, rfl, rfl, hgains⟩

/-- What is gained in a scope is kept when the scope gives up its own reference. -/
theorem ensures_scope_gains {base : taxonomy.toHierarchy.Heap} {handle : Handle}
    {known denoted : taxonomy.Denoted} {body : Fallible LocalReference}
    (hgains : base.Gains handle known first.outside)
    (hbody : Ensures Exchange.Conforms thread body.run first fun _ result last ↦
      ∃ gained, result = .ok (env.own (some gained)) ∧ last.bridge = first.bridge ∧
        first.outside.Gains gained denoted last.outside) :
    Ensures Exchange.Conforms thread ((env.own (some handle)).scope body).run first
      fun _ result last ↦ ∃ gained, result = .ok (env.own (some gained)) ∧
        last.bridge = first.bridge ∧ base.Gains gained denoted last.outside := by
  unfold LocalReference.scope
  rw [Fallible.ensures_thenAlways]
  refine hbody.weaken ?_
  rintro exchanges _ middle ⟨gained, rfl, hbridge, hgained⟩
  refine (ensures_deleteLocal handle).weaken ?_
  rintro rest _ last ⟨hsame, hforgets⟩
  exact ⟨gained, rfl, hsame.trans hbridge, hgains.forgets hgained hforgets⟩

/-- A class loader finds the class that it knows by this name. -/
theorem ensures_loadThrough {descriptor : ClassDescriptor} {loader : GlobalReference}
    {handle : Handle} {object : taxonomy.Object} {known : taxonomy.Class}
    (hpending : first.outside.pending = none) (hraw : loader.raw = some handle)
    (hloader : first.outside.live.find? handle = some (.object object))
    (hloaded : taxonomy.loaded object (encode descriptor.dottedName) = some known) :
    Ensures Exchange.Conforms thread (descriptor.loadThrough env loader).run first
      fun _ result last ↦ ∃ handle, result = .ok (env.own (some handle)) ∧
        last.bridge = first.bridge ∧
        first.outside.Gains handle (.classObject known) last.outside := by
  have hname : Text.CString.ofText "java/lang/ClassLoader" =
      .ok (encode "java/lang/ClassLoader") := by
    decide +kernel
  unfold ClassDescriptor.loadThrough
  rw [Fallible.ensures_bind]
  refine (ensures_findClass hpending hname taxonomy.found_loader).weaken ?_
  rintro _ _ middle ⟨loaderClass, rfl, hbridge, hclass⟩
  have hcalm := hclass.grows.pending.trans hpending
  rw [Fallible.continues_ok, ← hbridge]
  refine ensures_scope_gains hclass ?_
  rw [Fallible.ensures_bind]
  refine (ensures_findMethod hcalm hclass.live).weaken ?_
  rintro _ _ _ ⟨rfl, rfl⟩
  rw [Fallible.continues_ok, Fallible.ensures_bind]
  refine (ensures_newString _ hcalm).weaken ?_
  rintro _ _ last ⟨string, same, rfl, hsame, hbridge, hstring⟩
  rw [Fallible.continues_ok, ← hbridge]
  refine ensures_scope_gains hstring ?_
  rw [Fallible.ensures_bind, hraw]
  have hloader := hstring.grows.live _ _ (hclass.grows.live _ _ hloader)
  rw [hsame] at hloaded
  refine (ensures_loadClass (hstring.grows.pending.trans hcalm) hloader hstring.live
    hloaded).weaken ?_
  rintro _ _ ended ⟨found, rfl, hbridge, hfound⟩
  exact Fallible.ensures_pure.2 ⟨found, rfl, hbridge, hfound⟩

end Taxonomy

/-! ## What is kept between tests -/

/-- The type was enlisted. -/
def Registry.Enlists (registry : Registry) (type : ProxyType) : Prop :=
  Factory.proxy type ∈ registry.factories

/-- Each enlisted type means a class that can be found under the internal name of the type, and that
has the dotted form of it as its own name.  It is no interface, and types of one name are the same.
-/
structure Taxonomy.Covers (taxonomy : Taxonomy) (registry : Registry)
    (meaning : ProxyType → taxonomy.Class) : Prop where
  proxies : ∀ factory ∈ registry.factories, ∃ type, factory = .proxy type
  found : ∀ type, registry.Enlists type → ∃ name,
    Text.CString.ofText type.internalName = .ok name ∧ taxonomy.found name = some (meaning type)
  name : ∀ type, registry.Enlists type →
    taxonomy.name (meaning type) = type.descriptor.dottedName
  kind : ∀ type, registry.Enlists type → taxonomy.kind (meaning type) ≠ .interface
  distinct : ∀ type other, registry.Enlists type → registry.Enlists other →
    type.name = other.name → type = other

/-- Nothing is pending, the classes that are kept for the types are theirs, and a thread that has a
class loader finds them through it. -/
structure Equipped [Host] {taxonomy : Taxonomy} (registry : Registry)
    (meaning : ProxyType → taxonomy.Class) (thread : NativeThread)
    (moment : Moment taxonomy.toHierarchy.Heap) : Prop where
  pending : moment.outside.pending = none
  kept : ∀ type reference, registry.Enlists type →
    moment.bridge.classes.find? (.proxy type.name) = some reference →
    moment.bridge.isUsable reference = true → ∃ handle, reference.raw = some handle ∧
      moment.outside.live.find? handle = some (.classObject (meaning type))
  loader : ∀ loader, (moment.bridge.thread thread.id).loader = some loader →
    moment.bridge.isUsable loader = true → ∃ handle object, loader.raw = some handle ∧
      moment.outside.live.find? handle = some (.object object) ∧
      ∀ type, registry.Enlists type →
        taxonomy.loaded object (encode type.descriptor.dottedName) = some (meaning type)

/-- A later state of the bridge in which classes are found as before. -/
structure Bridge.Retains [Host] (before after : Bridge) : Prop where
  lifecycles : after.lifecycles = before.lifecycles
  classes : after.classes = before.classes
  loader : ∀ thread, (after.thread thread).loader = (before.thread thread).loader

section

variable [Host] {before after : Bridge}

theorem isUsable_of_lifecycles (hlifecycles : after.lifecycles = before.lifecycles)
    (reference : GlobalReference) : after.isUsable reference = before.isUsable reference := by
  simp [Bridge.isUsable, Bridge.isLive, Bridge.registered?, Bridge.lifecycle, hlifecycles]

theorem Bridge.Retains.refl (bridge : Bridge) : bridge.Retains bridge := ⟨rfl, rfl, fun _ ↦ rfl⟩

/-- The first use of a slot does not change what is in it. -/
theorem retains_touch (bridge : Bridge) (thread : Nat) (slot : ThreadSlot) :
    bridge.Retains (bridge.setThread thread ((bridge.thread thread).touch slot)) := by
  refine ⟨rfl, rfl, fun other ↦ ?_⟩
  by_cases hother : other = thread
  · rw [hother, Bridge.thread_setThread_self, touch_loader]
  · rw [Bridge.thread_setThread_of_ne _ _ hother]

/-- The loader of the running thread is looked up without a call. -/
theorem ensures_currentClassLoader {ω : Type} {law : Exchange ω → Prop} {thread : NativeThread}
    {first : Moment ω} :
    Ensures law thread currentClassLoader first fun exchanges result last ↦
      result = (first.bridge.thread thread.id).loader.filter first.bridge.isUsable ∧
        first.bridge.Retains last.bridge ∧ last.outside = first.outside ∧ exchanges = [] := by
  unfold currentClassLoader
  rw [Program.ensures_bind, Program.ensures_current, Program.ensures_bind, Program.ensures_update,
    Program.ensures_bind, Program.ensures_state, Program.ensures_pure]
  have hretains := retains_touch first.bridge thread.id .classLoader
  refine ⟨?_, hretains, rfl, rfl⟩
  rw [hretains.loader]
  congr 1

variable {taxonomy : Taxonomy} {registry : Registry} {meaning : ProxyType → taxonomy.Class}
  {thread : NativeThread} {first : Moment taxonomy.toHierarchy.Heap}
  {heap : taxonomy.toHierarchy.Heap}

namespace Equipped

/-- More references and the same sources do no harm. -/
theorem mono (hequipped : Equipped registry meaning thread first)
    (hretains : first.bridge.Retains after) (hgrows : first.outside.Grows heap) :
    Equipped registry meaning thread ⟨after, heap⟩ where
  pending := hgrows.pending.trans hequipped.pending
  kept type reference henlists hfind husable := by
    rw [hretains.classes] at hfind
    rw [isUsable_of_lifecycles hretains.lifecycles] at husable
    obtain ⟨handle, hraw, hlive⟩ := hequipped.kept type reference henlists hfind husable
    exact ⟨handle, hraw, hgrows.live _ _ hlive⟩
  loader loader hloader husable := by
    rw [hretains.loader] at hloader
    rw [isUsable_of_lifecycles hretains.lifecycles] at husable
    obtain ⟨handle, object, hraw, hlive, hloaded⟩ := hequipped.loader loader hloader husable
    exact ⟨handle, object, hraw, hgrows.live _ _ hlive, hloaded⟩

/-- The class of a type may be kept for it. -/
theorem keep (hequipped : Equipped registry meaning thread first)
    (hcovers : taxonomy.Covers registry meaning) {type : ProxyType}
    (henlists : registry.Enlists type) {reference : GlobalReference} {handle : Handle}
    (hraw : reference.raw = some handle)
    (hlive : first.outside.live.find? handle = some (.classObject (meaning type))) :
    Equipped registry meaning thread
      ⟨{ first.bridge with classes := first.bridge.classes.insert (.proxy type.name) reference },
        first.outside⟩ where
  pending := hequipped.pending
  kept other known henlisted hfind husable := by
    by_cases hsame : DescriptorKey.proxy other.name = .proxy type.name
    · obtain rfl := hcovers.distinct other type henlisted henlists (DescriptorKey.proxy.inj hsame)
      rw [Store.find?_insert_self] at hfind
      cases hfind
      exact ⟨handle, hraw, hlive⟩
    · rw [Store.find?_insert_of_ne _ _ hsame] at hfind
      exact hequipped.kept other known henlisted hfind husable
  loader := hequipped.loader

end Equipped

end

/-! ## Finding the class of a type -/

namespace Taxonomy

variable [Host] {taxonomy : Taxonomy} {registry : Registry} {meaning : ProxyType → taxonomy.Class}
  {env : Env} {thread : NativeThread} {first : Moment taxonomy.toHierarchy.Heap} {type : ProxyType}

/-- A class is found through the loader of the thread or by the machine itself. -/
theorem ensures_resolve (hcovers : taxonomy.Covers registry meaning)
    (henlists : registry.Enlists type) (hequipped : Equipped registry meaning thread first) :
    Ensures Exchange.Conforms thread (type.descriptor.resolve env).run first
      fun _ result last ↦ ∃ handle, result = .ok (env.own (some handle)) ∧
        first.bridge.Retains last.bridge ∧
        first.outside.Gains handle (.classObject (meaning type)) last.outside := by
  unfold ClassDescriptor.resolve
  rw [Fallible.ensures_liftThen]
  refine ensures_currentClassLoader.weaken ?_
  rintro _ _ ⟨bridge, heap⟩ ⟨rfl, hretains, rfl, -⟩
  have hmiddle : Equipped registry meaning thread ⟨bridge, first.outside⟩ :=
    hequipped.mono hretains (.refl first.outside)
  cases hloader : (first.bridge.thread thread.id).loader.filter first.bridge.isUsable with
  | none =>
    obtain ⟨name, hname, hfound⟩ := hcovers.found type henlists
    refine (ensures_findClass hmiddle.pending hname hfound).weaken ?_
    rintro _ _ last ⟨handle, rfl, hbridge, hgains⟩
    exact ⟨handle, rfl, hbridge ▸ hretains, hgains⟩
  | some loader =>
    obtain ⟨hloader, husable⟩ := Option.filter_eq_some_iff.1 hloader
    obtain ⟨handle, object, hraw, hlive, hloaded⟩ := hequipped.loader loader hloader husable
    refine (ensures_loadThrough hmiddle.pending hraw hlive (hloaded type henlists)).weaken ?_
    rintro _ _ last ⟨handle, rfl, hbridge, hgains⟩
    exact ⟨handle, rfl, hbridge ▸ hretains, hgains⟩

/-- The operation failed since the machine refused a reference. -/
def Refused {α : Type} (exchanges : List (Exchange taxonomy.toHierarchy.Heap))
    (result : Except Error α) : Prop :=
  Failed result ∧ ∃ exchange ∈ exchanges, exchange.request.Refused exchange.reply

theorem ensures_newLocal {handle : Handle} {denoted : taxonomy.Denoted}
    (hpending : first.outside.pending = none)
    (hlive : first.outside.live.find? handle = some denoted) :
    Ensures Exchange.Conforms thread (env.newLocal (some handle)).run first
      fun exchanges result last ↦ (∃ gained, result = .ok (env.own (some gained)) ∧
        last.bridge = first.bridge ∧ first.outside.Gains gained denoted last.outside) ∨
        Refused exchanges result := by
  unfold Env.newLocal Fallible.nonNull
  rw [pure_bind, Fallible.ensures_liftThen]
  refine ensures_ask fun reply heap _ hlaw ↦ ?_
  rcases hlaw hpending denoted hlive with ⟨rfl, -⟩ | hoffers
  · exact Fallible.ensures_throw.2 (.inr ⟨failed_error _, _, List.mem_cons_self, rfl⟩)
  · obtain ⟨gained, rfl, hgains⟩ := Heap.Offers.gains hoffers
    exact Fallible.ensures_pure.2 (.inl ⟨gained, rfl, rfl, hgains⟩)

theorem ensures_newGlobal {handle : Handle} {denoted : taxonomy.Denoted}
    (hpending : first.outside.pending = none)
    (hlive : first.outside.live.find? handle = some denoted) :
    Ensures Exchange.Conforms thread (env.newGlobal (some handle)).run first
      fun exchanges result last ↦
        (∃ gained, result = .ok ⟨some gained, env.lifecycle, env.generation⟩ ∧
          last.bridge = first.bridge ∧ first.outside.Gains gained denoted last.outside) ∨
        Refused exchanges result := by
  unfold Env.newGlobal Fallible.nonNull
  rw [pure_bind, Fallible.ensures_liftThen]
  refine ensures_ask fun reply heap hlaw _ ↦ ?_
  rcases hlaw hpending denoted hlive with ⟨rfl, -⟩ | hoffers
  · exact Fallible.ensures_throw.2 (.inr ⟨failed_error _, _, List.mem_cons_self, rfl⟩)
  · obtain ⟨gained, rfl, hgains⟩ := Heap.Offers.gains hoffers
    exact Fallible.ensures_pure.2 (.inl ⟨gained, rfl, rfl, hgains⟩)

/-- The class of a type is kept.  What was kept before could not be used, so nothing is deleted. -/
theorem ensures_keep (hcovers : taxonomy.Covers registry meaning)
    (henlists : registry.Enlists type) (hequipped : Equipped registry meaning thread first)
    (hvacant : ∀ previous, first.bridge.classes.find? type.descriptor.key = some previous →
      first.bridge.isUsable previous = false)
    {classObject : LocalReference} {reference : GlobalReference} {handle : Handle}
    (hraw : reference.raw = some handle)
    (hlive : first.outside.live.find? handle = some (.classObject (meaning type))) :
    Ensures Exchange.Conforms thread (do
      match ← type.descriptor.keep reference with
      | some previous => previous.drop
      | none => pure ()
      return classObject : Fallible LocalReference).run first
      fun _ result last ↦ result = .ok classObject ∧ Equipped registry meaning thread last ∧
        last.outside = first.outside := by
  let last : Moment taxonomy.toHierarchy.Heap := ⟨{ first.bridge with
    classes := first.bridge.classes.insert (.proxy type.name) reference }, first.outside⟩
  have hkept : Equipped registry meaning thread last :=
    hequipped.keep hcovers henlists hraw hlive
  unfold ClassDescriptor.keep
  rw [Fallible.run_lift_bind]
  simp only [bind_assoc, pure_bind]
  rw [Program.ensures_bind, Program.ensures_state, Program.ensures_bind, Program.ensures_update]
  cases hfind : first.bridge.classes.find? type.descriptor.key with
  | none => exact Program.ensures_pure.2 ⟨rfl, hkept, rfl⟩
  | some previous =>
    have hunusable : last.bridge.isUsable previous = false := hvacant previous hfind
    dsimp only
    rw [Fallible.run_lift_bind, Program.ensures_bind]
    refine (ensures_drop_of_not_usable hunusable).weaken ?_
    rintro _ _ _ ⟨-, rfl⟩
    exact Program.ensures_pure.2 ⟨rfl, hkept, rfl⟩

/-- Whoever asks for the class of a type gets it, unless a reference is refused. -/
theorem ensures_find (hcovers : taxonomy.Covers registry meaning)
    (henlists : registry.Enlists type) (hequipped : Equipped registry meaning thread first) :
    Ensures Exchange.Conforms thread (type.descriptor.find env).run first
      fun exchanges result last ↦ (∃ handle, result = .ok (env.own (some handle)) ∧
        Equipped registry meaning thread last ∧
        first.outside.Gains handle (.classObject (meaning type)) last.outside) ∨
        Refused exchanges result := by
  unfold ClassDescriptor.find
  rw [Fallible.ensures_liftThen, Program.ensures_state]
  cases hkept : (first.bridge.classes.find? type.descriptor.key).filter first.bridge.isUsable with
  | some kept =>
    obtain ⟨hfind, husable⟩ := Option.filter_eq_some_iff.1 hkept
    obtain ⟨handle, hraw, hlive⟩ := hequipped.kept type kept henlists hfind husable
    dsimp only
    rw [hraw]
    refine (ensures_newLocal hequipped.pending hlive).weaken ?_
    rintro exchanges result ⟨bridge, heap⟩ (⟨gained, rfl, rfl, hgains⟩ | hrefused)
    · exact .inl ⟨gained, rfl, hequipped.mono (.refl _) hgains.grows, hgains⟩
    · exact .inr hrefused
  | none =>
    dsimp only
    rw [Fallible.ensures_bind]
    refine (ensures_resolve hcovers henlists hequipped).weaken ?_
    rintro resolved _ middle ⟨handle, rfl, hretains, hgains⟩
    have hmiddle : Equipped registry meaning thread middle :=
      hequipped.mono hretains hgains.grows
    have hvacant : ∀ previous, middle.bridge.classes.find? type.descriptor.key = some previous →
        middle.bridge.isUsable previous = false := by
      intro previous hfind
      rw [hretains.classes] at hfind
      rw [isUsable_of_lifecycles hretains.lifecycles]
      rw [hfind] at hkept
      simpa using hkept
    rw [Fallible.continues_ok, Fallible.ensures_bind, Fallible.ensures_mapFailure]
    refine (ensures_newGlobal hmiddle.pending hgains.live).weaken ?_
    rintro asked result ⟨bridge, heap⟩
      (⟨gained, rfl, rfl, hgained⟩ | ⟨⟨error, rfl⟩, exchange, hmem, hrefused⟩)
    · have hasked := hmiddle.mono (.refl _) hgained.grows
      refine (ensures_keep hcovers henlists hasked hvacant rfl hgained.live).weaken ?_
      rintro kept _ last ⟨rfl, hequipped', hlast⟩
      refine .inl ⟨handle, rfl, hequipped', hgains.grows.trans ?_, hgains.fresh, ?_⟩
      · exact hlast ▸ hgained.grows
      · exact hlast ▸ hgained.grows.live _ _ hgains.live
    · intro dropped changed last _ _
      exact .inr ⟨failed_error _, exchange, by simp [hmem], hrefused⟩

/-! ## Tests -/

/-- A test was answered truly, or it failed since the machine refused a reference. -/
def Answered (truth : Prop) (exchanges : List (Exchange taxonomy.toHierarchy.Heap))
    (result : Except Error Bool) : Prop :=
  (∃ answer, result = .ok answer ∧ (answer = true ↔ truth)) ∨ Refused exchanges result

/-- What was asked before does not matter. -/
theorem Answered.append {truth : Prop} {exchanges : List (Exchange taxonomy.toHierarchy.Heap)}
    {result : Except Error Bool} (hanswered : Answered truth exchanges result)
    (begun : List (Exchange taxonomy.toHierarchy.Heap)) :
    Answered truth (begun ++ exchanges) result := by
  rcases hanswered with hanswer | ⟨hfailed, exchange, hmem, hrefused⟩
  · exact .inl hanswer
  · exact .inr ⟨hfailed, exchange, List.mem_append_right _ hmem, hrefused⟩

/-- Giving up a reference at the end of a scope does not change the answer. -/
theorem ensures_scope_answered {truth : Prop} {handle : Handle} {body : Fallible Bool}
    (hbody : Ensures Exchange.Conforms thread body.run first fun exchanges result _ ↦
      Answered truth exchanges result) :
    Ensures Exchange.Conforms thread ((env.own (some handle)).scope body).run first
      fun exchanges result _ ↦ Answered truth exchanges result := by
  unfold LocalReference.scope
  rw [Fallible.ensures_thenAlways]
  refine hbody.weaken ?_
  rintro exchanges result middle hanswered rest _ last _ _
  rcases hanswered with hanswer | ⟨hfailed, exchange, hmem, hrefused⟩
  · exact .inl hanswer
  · exact .inr ⟨hfailed, exchange, List.mem_append_left _ hmem, hrefused⟩

/-- A test that has the class of a type in hand for its scope. -/
theorem ensures_find_scope (hcovers : taxonomy.Covers registry meaning)
    (henlists : registry.Enlists type) (hequipped : Equipped registry meaning thread first)
    {truth : Prop} {test : LocalReference → Fallible Bool}
    (htest : ∀ handle (middle : Moment taxonomy.toHierarchy.Heap),
      Equipped registry meaning thread middle →
      first.outside.Gains handle (.classObject (meaning type)) middle.outside →
      Ensures Exchange.Conforms thread (test (env.own (some handle))).run middle
        fun exchanges result _ ↦ Answered truth exchanges result) :
    Ensures Exchange.Conforms thread (do
      let classObject ← type.descriptor.find env
      classObject.scope (test classObject) : Fallible Bool).run first
      fun exchanges result _ ↦ Answered truth exchanges result := by
  rw [Fallible.ensures_bind]
  refine (ensures_find hcovers henlists hequipped).weaken ?_
  rintro begun result middle (⟨handle, rfl, hequipped', hgains⟩ | ⟨⟨error, rfl⟩, hrefused⟩)
  · rw [Fallible.continues_ok]
    refine (ensures_scope_answered (htest handle middle hequipped' hgains)).weaken ?_
    exact fun _ _ _ hanswered ↦ hanswered.append begun
  · exact .inr ⟨failed_error error, hrefused⟩

/-- The test of an object says whether its class is one of the type's class. -/
theorem ensures_isInstance (hcovers : taxonomy.Covers registry meaning)
    (henlists : registry.Enlists type) (hequipped : Equipped registry meaning thread first)
    {handle : Handle} {object : taxonomy.Object}
    (hobject : first.outside.live.find? handle = some (.object object)) :
    Ensures Exchange.Conforms thread (type.isInstance env (some handle)).run first
      fun exchanges result _ ↦
        Answered (taxonomy.IsA (taxonomy.classOf object) (meaning type)) exchanges result := by
  unfold ProxyType.isInstance
  simp only [Option.isNone_some, Bool.false_eq_true, ↓reduceIte]
  refine ensures_find_scope hcovers henlists hequipped fun classObject middle hmiddle hgains ↦ ?_
  unfold Env.isInstanceOf Env.own Fallible.nonNull
  rw [pure_bind, Fallible.ensures_lift]
  refine ensures_ask fun reply heap _ hlaw ↦ .inl ⟨reply, rfl, ?_⟩
  exact (hlaw hmiddle.pending handle object (meaning type) rfl
    (hgains.grows.live _ _ hobject) hgains.live).1

/-- The test of two types says whether the class of the first is one of the second. -/
theorem ensures_isAssignable (hcovers : taxonomy.Covers registry meaning)
    {sub sup : ProxyType} (hsub : registry.Enlists sub) (hsup : registry.Enlists sup)
    (hequipped : Equipped registry meaning thread first) :
    Ensures Exchange.Conforms thread (sub.isAssignable sup env).run first
      fun exchanges result _ ↦
        Answered (taxonomy.IsA (meaning sub) (meaning sup)) exchanges result := by
  unfold ProxyType.isAssignable
  refine ensures_find_scope hcovers hsub hequipped fun lower middle hmiddle hlower ↦ ?_
  refine ensures_find_scope hcovers hsup hmiddle fun upper last hlast hupper ↦ ?_
  unfold Env.isAssignableFrom Env.own Fallible.nonNull
  rw [pure_bind, pure_bind, Fallible.ensures_lift]
  refine ensures_ask fun reply heap _ hlaw ↦ .inl ⟨reply, rfl, ?_⟩
  exact (hlaw hlast.pending (meaning sub) (meaning sup) (hupper.grows.live _ _ hlower.live)
    hupper.live).1

end Taxonomy

end JavaInterop
