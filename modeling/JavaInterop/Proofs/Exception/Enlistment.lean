import JavaInterop.Exception.NameSource
import JavaInterop.Proofs.Exception.Scan

/-!
# What a registry remembers of its enlistments

A registry is compared with the list of all factories that were ever given to it, those that it
refused among them.  It holds the first factory of each name and nothing else, since an enlistment
finds a name taken exactly if an earlier factory has it.  Different classes may share a name, as the
translation to dotted names forgets where the slashes were; then the second one is refused as well.

As a registry only grows, a look-up that succeeded keeps its answer.  A search through the classes
of an object may find a nearer class later on, unless it stopped at the first of them.
-/

namespace JavaInterop

/-- Translation to dotted form leaves no slash. -/
theorem slash_notMem_dotted (internalName : String) : '/' ∉ (dotted internalName).toList := by
  unfold dotted
  rw [String.toList_map, List.mem_map]
  rintro ⟨c, -, hc⟩
  split at hc
  · exact absurd hc (by decide)
  · next hne => exact hne hc

namespace Registry

/-- A factory is found under its name, since no other one has it. -/
theorem lookup_eq_some_iff {registry : Registry} {name : String} {factory : Factory} :
    registry.lookup name = some factory ↔
      factory ∈ registry.factories ∧ factory.name = name := by
  have hfound : ∀ known, registry.lookup name = some known →
      known ∈ registry.factories ∧ known.name = name := by
    intro known hlookup
    have hlookup : registry.factories.find? (fun known ↦ known.name == name) = some known := hlookup
    have hname := List.find?_some hlookup
    exact ⟨List.mem_of_find?_eq_some hlookup, beq_iff_eq.1 hname⟩
  constructor
  · exact hfound factory
  · rintro ⟨hmem, hname⟩
    cases hlookup : registry.lookup name with
    | none => exact absurd (hname ▸ List.mem_map_of_mem hmem) (lookup_eq_none_iff.1 hlookup)
    | some other =>
      obtain ⟨hother, hsame⟩ := hfound other hlookup
      rw [List.inj_on_of_nodup_map registry.distinct hother hmem (hsame.trans hname.symm)]

/-! ## Enlisting one factory after the other -/

/-- A registry with the factories that were given to it, in order and whether it took them or not.
It started with nothing or with the exception classes. -/
inductive Enlisted : List Factory → Registry → Prop
  | empty : Enlisted [] Registry.empty
  | builtins : Enlisted (ProxyType.exceptions.map .proxy) Registry.builtins
  | enlist {given : List Factory} {registry : Registry} (factory : Factory)
      (henlisted : Enlisted given registry) :
      Enlisted (given ++ [factory]) (registry.enlist factory).1

variable {given further : List Factory} {registry : Registry} {name : String} {factory : Factory}

/-- A run of enlistments adds to the list of what was given. -/
theorem Enlisted.enlistAll (henlisted : Enlisted given registry) (further : List Factory) :
    Enlisted (given ++ further) (registry.enlistAll further) := by
  induction further generalizing given registry with
  | nil => rwa [List.append_nil]
  | cons factory further ih =>
    rw [List.append_cons]
    exact ih (henlisted.enlist factory)

theorem enlist_of_free (hfree : registry.lookup factory.name = none) :
    (registry.enlist factory).2 = true ∧
      (registry.enlist factory).1.factories = registry.factories ++ [factory] := by
  unfold Registry.enlist
  rw [dif_pos hfree]
  exact ⟨rfl, rfl⟩

theorem enlist_of_taken (htaken : registry.lookup factory.name ≠ none) :
    registry.enlist factory = (registry, false) :=
  dif_neg htaken

theorem enlist_eq_true_iff :
    (registry.enlist factory).2 = true ↔ registry.lookup factory.name = none := by
  constructor
  · intro htrue
    by_contra htaken
    rw [enlist_of_taken htaken] at htrue
    exact Bool.false_ne_true htrue
  · exact fun hfree ↦ (enlist_of_free hfree).1

/-- What is found after an enlistment: what was found before, else the new factory under its own
name. -/
theorem lookup_enlist (registry : Registry) (factory : Factory) (name : String) :
    (registry.enlist factory).1.lookup name =
      (registry.lookup name).or ([factory].find? fun factory ↦ factory.name == name) := by
  by_cases hfree : registry.lookup factory.name = none
  · unfold lookup
    rw [(enlist_of_free hfree).2, List.find?_append]
  · rw [enlist_of_taken hfree]
    cases hlookup : registry.lookup name with
    | some known => rfl
    | none =>
      have hname : factory.name ≠ name := by
        rintro rfl
        exact hfree hlookup
      simp [hname]

/-- A registry finds what a search through everything that was given to it finds first. -/
def Tells (registry : Registry) (given : List Factory) : Prop :=
  ∀ name, registry.lookup name = given.find? fun factory ↦ factory.name == name

theorem Tells.enlist (htells : registry.Tells given) (factory : Factory) :
    (registry.enlist factory).1.Tells (given ++ [factory]) := by
  intro name
  rw [lookup_enlist, htells name, List.find?_append]

theorem Tells.enlistAll (htells : registry.Tells given) (further : List Factory) :
    (registry.enlistAll further).Tells (given ++ further) := by
  induction further generalizing given registry with
  | nil => rwa [List.append_nil]
  | cons factory further ih =>
    rw [List.append_cons]
    exact ih (htells.enlist factory)

theorem Enlisted.tells (henlisted : Enlisted given registry) : registry.Tells given := by
  induction henlisted with
  | empty => exact fun name ↦ rfl
  | builtins =>
    have htells : Registry.empty.Tells [] := fun name ↦ rfl
    exact htells.enlistAll (ProxyType.exceptions.map .proxy)
  | enlist factory _ ih => exact ih.enlist factory

theorem Tells.lookup_eq_none_iff (htells : registry.Tells given) :
    registry.lookup name = none ↔ ∀ factory ∈ given, factory.name ≠ name := by
  rw [htells name, List.find?_eq_none]
  simp

/-- A factory is found exactly if it is the first one of its name. -/
theorem Tells.lookup_eq_iff (htells : registry.Tells given) :
    registry.lookup name = some factory ↔ ∃ earlier later,
      given = earlier ++ factory :: later ∧ factory.name = name ∧
        ∀ other ∈ earlier, other.name ≠ name := by
  rw [htells name, List.find?_eq_some_iff_append]
  constructor
  · rintro ⟨hname, earlier, later, hgiven, hearlier⟩
    exact ⟨earlier, later, hgiven, by simpa using hname, by simpa using hearlier⟩
  · rintro ⟨earlier, later, hgiven, hname, hearlier⟩
    exact ⟨by simpa using hname, earlier, later, hgiven, by simpa using hearlier⟩

/-- There are as many factories as there are different names among those that were given. -/
theorem Tells.size_eq (htells : registry.Tells given) :
    registry.size = (given.map Factory.name).toFinset.card := by
  have hnames : (given.map Factory.name).toFinset =
      (registry.factories.map Factory.name).toFinset := by
    ext name
    rw [List.mem_toFinset, List.mem_toFinset, ← not_iff_not,
      ← Registry.lookup_eq_none_iff, htells.lookup_eq_none_iff, List.mem_map]
    simp
  calc registry.size = (registry.factories.map Factory.name).length :=
      (List.length_map Factory.name).symm
    _ = (registry.factories.map Factory.name).toFinset.card :=
      (List.toFinset_card_of_nodup registry.distinct).symm
    _ = (given.map Factory.name).toFinset.card := by rw [hnames]

/-! ## What further enlistments change -/

/-- What was found stays. -/
theorem lookup_enlistAll (registry : Registry) (further : List Factory)
    (hlookup : registry.lookup name = some factory) :
    (registry.enlistAll further).lookup name = some factory := by
  induction further generalizing registry with
  | nil => exact hlookup
  | cons added further ih =>
    apply ih
    rw [lookup_enlist, hlookup]
    rfl

end Registry

section

variable {σ : Type} {registry later : Registry} {factory : Factory}

/-- A search that found the factory of the first class needs no other name, and finds the same in
every registry that has this factory. -/
theorem run_resolve_of_first {source : Ancestry Id σ} {start last : σ}
    (hrun : (resolve registry source).run.run start = (.ok (.matched factory factory.name), last))
    (hkeeps : registry.lookup factory.name = some factory →
      later.lookup factory.name = some factory) :
    (resolve later source).run.run start = (.ok (.matched factory factory.name), last) := by
  obtain ⟨-, hscan, -⟩ := resolve_iff_scan registry source start
  obtain ⟨requests, taken, hscan, rfl⟩ := (hscan _ _).1 hrun
  generalize hresult : Except.ok (Resolution.matched factory factory.name) = result at hscan
  cases hscan with
  | @found position className name known hposition hfirst hmisses hanswer hname hlookup =>
    cases hresult
    have hsame : factory.name = name := (Registry.lookup_eq_some_iff.1 hlookup).2
    -- An earlier class would be one without a factory, but it is the class of this factory.
    obtain rfl : position = 0 := by
      by_contra hpos
      obtain ⟨missed, hmissed, -, hmiss⟩ := hmisses 0 (Nat.pos_of_ne_zero hpos)
      obtain rfl : factory.name = missed :=
        Option.some.inj (Except.ok.inj (hfirst.symm.trans hmissed))
      rw [hsame, hlookup] at hmiss
      cases hmiss
    subst hsame
    have hlater := hkeeps hlookup
    exact Registry.Scan.run_resolve
      (.found hposition hfirst (fun _ hbefore ↦ absurd hbefore (Nat.not_lt_zero _)) hanswer hname
        hlater)
  | _ => cases hresult

end

section

variable [Host] {ω σ : Type} {registry later : Registry} {thread : NativeThread}
  {first last : Moment ω} {exchanges : List (Exchange ω)} {factory : Factory}
  {className reported name : String} {source : Ancestry Program σ} {state rest : σ}

open Program (Run)

/-- What a walk finds is kept under its name, and the class that the walk began with is reported.
-/
theorem matched_of_run_walk {remaining : Nat}
    (hrun : Run thread ((walk registry source className remaining name).run.run state) first
      exchanges (.ok (.matched factory reported), rest) last) :
    reported = className ∧ registry.lookup factory.name = some factory := by
  induction remaining using Nat.strong_induction_on generalizing name state first exchanges with
  | _ remaining ih =>
    by_cases hname : name = rootClass
    · rw [walk_of_root hname] at hrun
      cases hrun
    cases hlookup : registry.lookup name with
    | some known =>
      rw [walk_of_lookup hname hlookup] at hrun
      cases hrun
      exact ⟨rfl, (Registry.lookup_eq_some_iff.1 hlookup).2 ▸ hlookup⟩
    | none =>
      cases remaining with
      | zero =>
        rw [walk_zero hname hlookup] at hrun
        cases hrun
      | succ remaining =>
        rw [walk_succ hname hlookup, Fallible.run_stateful_bind] at hrun
        obtain ⟨begun, ⟨answer, next⟩, middle, exchanges, -, hrest, rfl⟩ := Run.of_bind hrun
        rcases answer with error | _ | above
        · cases hrest
        · cases hrest
        · exact ih remaining remaining.lt_succ_self hrest

/-- Along the classes of a running machine, too, a match at the first class is found in every
registry that has this factory. -/
theorem run_resolve_matched_first
    (hrun : Run thread ((resolve registry source).run.run state) first exchanges
      (.ok (.matched factory factory.name), rest) last)
    (hkeeps : registry.lookup factory.name = some factory →
      later.lookup factory.name = some factory) :
    Run thread ((resolve later source).run.run state) first exchanges
      (.ok (.matched factory factory.name), rest) last := by
  unfold resolve at hrun ⊢
  rw [Fallible.run_stateful_bind] at hrun ⊢
  obtain ⟨begun, ⟨answer, next⟩, middle, exchanges, hsource, hrest, rfl⟩ := Run.of_bind hrun
  apply Run.bind hsource
  rcases answer with error | _ | className
  · cases hrest
  · cases hrest
  · obtain ⟨rfl, hlookup⟩ := matched_of_run_walk hrest
    have hname : factory.name ≠ rootClass := by
      intro hroot
      simp only [walk_of_root hroot] at hrest
      cases hrest
    simp only [walk_of_lookup hname hlookup] at hrest
    simp only [walk_of_lookup hname (hkeeps hlookup)]
    exact hrest

end

namespace Registry

/-! ## First come, first kept -/

/-- What a registry answers, read off what was given to it. -/
structure Reflects (registry : Registry) (given : List Factory) : Prop where
  /-- A factory is taken exactly if none with its name was given before. -/
  takes : ∀ factory, (registry.enlist factory).2 = true ↔
    ∀ earlier ∈ given, earlier.name ≠ factory.name
  /-- A factory that is not taken changes nothing. -/
  refuses : ∀ factory, (registry.enlist factory).2 = false →
    (registry.enlist factory).1 = registry
  /-- The first factory of a name is found. -/
  finds : ∀ name factory, registry.lookup name = some factory ↔ ∃ earlier later,
    given = earlier ++ factory :: later ∧ factory.name = name ∧ ∀ other ∈ earlier, other.name ≠ name
  misses : ∀ name, registry.lookup name = none ↔ ∀ factory ∈ given, factory.name ≠ name
  /-- Names in internal form are never found. -/
  internal : ∀ name, '/' ∈ name.toList → registry.lookup name = none
  size : registry.size = (given.map Factory.name).toFinset.card

/-- What was found in a registry is found in a later one as well, and so is a factory of the very
class of an object, whether the class names come from a list or from a running machine. -/
structure Settles (registry later : Registry) : Prop where
  lookups : ∀ name factory, registry.lookup name = some factory →
    later.lookup name = some factory
  searches : ∀ {σ : Type} (source : Ancestry Id σ) (start last : σ) (factory : Factory),
    (resolve registry source).run.run start = (.ok (.matched factory factory.name), last) →
      (resolve later source).run.run start = (.ok (.matched factory factory.name), last)
  walks : ∀ [Host] {ω σ : Type} (source : Ancestry Program σ) (start rest : σ) (factory : Factory)
    (thread : NativeThread) (first last : Moment ω) (exchanges : List (Exchange ω)),
    ((resolve registry source).run.run start).Run thread first exchanges
      (.ok (.matched factory factory.name), rest) last →
    ((resolve later source).run.run start).Run thread first exchanges
      (.ok (.matched factory factory.name), rest) last

variable {given : List Factory} {registry : Registry}

theorem Tells.reflects (htells : registry.Tells given) : registry.Reflects given where
  takes factory := enlist_eq_true_iff.trans htells.lookup_eq_none_iff
  refuses factory hfalse := by
    have htaken : registry.lookup factory.name ≠ none := by
      intro hfree
      rw [enlist_eq_true_iff.2 hfree] at hfalse
      cases hfalse
    rw [enlist_of_taken htaken]
  finds name factory := htells.lookup_eq_iff
  misses name := htells.lookup_eq_none_iff
  internal name hslash := by
    refine htells.lookup_eq_none_iff.2 ?_
    rintro factory - rfl
    exact slash_notMem_dotted _ hslash
  size := htells.size_eq

theorem settles_enlistAll (registry : Registry) (further : List Factory) :
    registry.Settles (registry.enlistAll further) where
  lookups _ _ := registry.lookup_enlistAll further
  searches _ _ _ _ hrun := run_resolve_of_first hrun (registry.lookup_enlistAll further)
  walks _ _ _ _ _ _ _ _ hrun :=
    run_resolve_matched_first hrun (registry.lookup_enlistAll further)

/-- However a registry was filled, it reflects what was given to it, and what it settled stays
settled whatever else is enlisted. -/
theorem first_factory_kept (henlisted : Enlisted given registry) :
    registry.Reflects given ∧ ∀ further,
      Enlisted (given ++ further) (registry.enlistAll further) ∧
        registry.Settles (registry.enlistAll further) := by
  refine ⟨henlisted.tells.reflects, fun further ↦ ?_⟩
  exact ⟨henlisted.enlistAll further, registry.settles_enlistAll further⟩

/-- Two classes with one dotted name, given to a registry that has the exception classes. -/
theorem first_factory_kept_shared_name :
    let given := ProxyType.exceptions.map .proxy ++
      [.proxy ⟨"Slashed", "a/b"⟩, .refusing ⟨"a.b", "La.b;", .numbered 0⟩ "late"]
    let registry := builtins.enlistAll
      [.proxy ⟨"Slashed", "a/b"⟩, .refusing ⟨"a.b", "La.b;", .numbered 0⟩ "late"]
    Enlisted given registry ∧ registry.size = 9 ∧
      registry.lookup "a.b" = some (.proxy ⟨"Slashed", "a/b"⟩) ∧
      registry.lookup "a/b" = none ∧ registry.Reflects given ∧
      ∀ further, registry.Settles (registry.enlistAll further) := by
  intro given registry
  have henlisted : Enlisted given registry := Enlisted.builtins.enlistAll _
  obtain ⟨hreflects, hfurther⟩ := first_factory_kept henlisted
  refine ⟨henlisted, ?_, ?_, hreflects.internal "a/b" (by decide), hreflects, ?_⟩
  · decide +kernel
  · decide +kernel
  · exact fun further ↦ (hfurther further).2

/-- A match at a superclass may give way to a nearer one. -/
example :
    let before := empty.enlistAll [.proxy ⟨"Above", "a/Above"⟩]
    let after := before.enlistAll [.proxy ⟨"Below", "a/Below"⟩]
    let source : NameSource := ⟨#["a.Below", "a.Above"], false, none⟩
    (source.resolve before).1 = .ok (.matched (.proxy ⟨"Above", "a/Above"⟩) "a.Below") ∧
      (source.resolve after).1 = .ok (.matched (.proxy ⟨"Below", "a/Below"⟩) "a.Below") := by
  decide +kernel

end Registry

end JavaInterop
