import JavaInterop.Proofs.Callback.Dealing
import Mathlib.Data.List.Pairwise

/-!
# Dealings that interleave

Any number of threads deal with any number of builders.  A dealing runs without a break up to its
next call into a machine; while the call is under way others may begin a dealing of their own, go on
with one, or do whatever else leaves the tables alone.  Machines may answer a call in any way.

Only one thing is asked of those who deal with builders, namely that a builder is in one hand: it is
dealt with after it was made, by one dealing at a time, and not after it was dropped.

`Errand` keeps of a dealing what it has done so far, `CallbackHistory` says how errands come about,
and `Coherent` is what every history keeps: a table holds the callbacks that were registered with
its builder, in order, as long as the builder has not been dropped.
-/

namespace JavaInterop

variable [Host] {α : Type}

namespace Program

/-- Runs a program up to its next call, or to its end if there is none. -/
def advance (running : NativeThread) : Program α → Bridge → Bridge × Program α
  | .done result, bridge => (bridge, .done result)
  | .call request next, bridge => (bridge, .call request next)
  | .read next, bridge => (next bridge).advance running bridge
  | .write changed next, _ => next.advance running changed
  | .thread next, bridge => (next running).advance running bridge
  | .notify _ next, bridge => next.advance running bridge
  | .remark _ next, bridge => next.advance running bridge

end Program

/-! ## Errands -/

/-- A dealing on its way: the calls that were answered, the number of its effect if it has changed
the tables, and what is left of its program. -/
structure Errand where
  thread : NativeThread
  dealing : Dealing
  calls : List Call
  effect : Option Nat
  rest : Program dealing.Result

/-- What is left of the program attains the end of the dealing, whatever others do meanwhile. -/
def Dealing.Awaits (dealing : Dealing) (rest : Program dealing.Result) (calls : List Call)
    (effect : Option Nat) (bridge : Bridge) : Prop :=
  ∀ after, dealing.Spared bridge after →
    rest.Attains dealing (fun calls effect _ result ↦ dealing.Ends calls effect result) calls effect
      after

/-- A change of the tables: the dealing that it stems from, and the number of its effect. -/
structure Posting where
  dealing : Dealing
  number : Nat

namespace Posting

/-- The table that has changed. -/
def table (entry : Posting) : Nat :=
  match entry.dealing with
  | .make _ _ => entry.number
  | .register builder _ _ _ | .drop builder => builder.table

/-- The lifecycle of the table, if that is new. -/
def made? (entry : Posting) : Option LifecycleId :=
  match entry.dealing with
  | .make env _ => some env.lifecycle
  | _ => none

/-- The callback that was put into the table. -/
def registered? (entry : Posting) : Option Host.Callback :=
  match entry.dealing with
  | .register _ _ _ callback => some callback
  | _ => none

/-- The table was dropped. -/
def Drops (entry : Posting) : Prop := ∃ builder, entry.dealing = .drop builder

end Posting

/-- The callbacks that were put into the table with the given number, in order. -/
def registered (log : List Posting) (number : Nat) : List Host.Callback :=
  log.filterMap fun entry ↦ if entry.table = number then entry.registered? else none

namespace Errand

/-- A dealing that has just begun. -/
def begun (thread : NativeThread) (dealing : Dealing) : Errand :=
  ⟨thread, dealing, [], none, dealing.program⟩

/-- The dealing has ended. -/
def IsOver (errand : Errand) : Prop := ∃ result, errand.rest = .done result

/-- The errand has made this builder with this environment. -/
def Makes (errand : Errand) (env : Env) (builder : Builder) : Prop :=
  ∃ thread interface calls effect,
    errand = ⟨thread, .make env interface, calls, effect, .done (.ok builder)⟩

/-- The change of the tables that the errand has made. -/
def posting? (errand : Errand) : Option Posting :=
  errand.effect.map fun number ↦ ⟨errand.dealing, number⟩

end Errand

/-- A dealing may begin if its builder was made and is in no other hand. -/
def Permits (errands : List Errand) (dealing : Dealing) : Prop :=
  ∀ builder, dealing.builder? = some builder →
    (∃ errand ∈ errands, ∃ env, errand.Makes env builder) ∧
      ∀ errand ∈ errands, errand.dealing.builder? = some builder →
        errand.IsOver ∧ errand.dealing ≠ .drop builder

/-- How the effect of a dealing is recorded: whenever the tables have changed there is a new entry
in the log. -/
inductive Dealing.Records (dealing : Dealing) (before after : Bridge) :
    Option Nat → List Posting → Option Nat → List Posting → Prop
  | still {effect : Option Nat} {log : List Posting} (hsame : before.SameTables after) :
      dealing.Records before after effect log effect log
  | changed {effect : Option Nat} {log : List Posting} (hchanged : ¬ before.SameTables after) :
      dealing.Records before after effect log (some (dealing.number before))
        (log ++ [⟨dealing, dealing.number before⟩])

/-- The errands that there may be, in the order in which they began, the changes of the tables that
they have made, in the order in which they were made, and the bridge then. -/
inductive CallbackHistory : List Errand → List Posting → Bridge → Prop
  | start (bridge : Bridge) (hempty : ∀ number, bridge.tables.find? number = none) :
      CallbackHistory [] [] bridge
  | meanwhile {errands : List Errand} {log : List Posting} {before after : Bridge}
      (hhistory : CallbackHistory errands log before) (hsame : before.SameTables after) :
      CallbackHistory errands log after
  | begin {errands : List Errand} {log : List Posting} {bridge : Bridge}
      (hhistory : CallbackHistory errands log bridge) (thread : NativeThread) (dealing : Dealing)
      (hpermits : Permits errands dealing) :
      CallbackHistory (errands ++ [.begun thread dealing]) log bridge
  | answer {earlier later : List Errand} {log : List Posting} {bridge : Bridge}
      {thread : NativeThread} {dealing : Dealing} {calls : List Call} {effect : Option Nat}
      {request : Call} {next : request.Reply → Program dealing.Result}
      (hhistory : CallbackHistory
        (earlier ++ ⟨thread, dealing, calls, effect, .call request next⟩ :: later) log bridge)
      (reply : request.Reply) :
      CallbackHistory
        (earlier ++ ⟨thread, dealing, calls ++ [request], effect, next reply⟩ :: later) log
        bridge
  | proceed {earlier later : List Errand} {log log' : List Posting} {bridge : Bridge}
      {thread : NativeThread} {dealing : Dealing} {calls : List Call} {effect effect' : Option Nat}
      {rest : Program dealing.Result}
      (hhistory : CallbackHistory (earlier ++ ⟨thread, dealing, calls, effect, rest⟩ :: later) log
        bridge)
      (hrecords : dealing.Records bridge (rest.advance thread bridge).1 effect log effect' log') :
      CallbackHistory
        (earlier ++ ⟨thread, dealing, calls, effect', (rest.advance thread bridge).2⟩ ::
        later) log' (rest.advance thread bridge).1

/-! ## The tables are what was done to them -/

/-- The tables are as the log says. -/
structure Tallied (log : List Posting) (bridge : Bridge) : Prop where
  distinct : log.Pairwise fun earlier later ↦
    earlier.made?.isSome → later.made?.isSome → earlier.table ≠ later.table
  below : ∀ entry ∈ log, entry.table < bridge.nextTable
  tables : ∀ number table, bridge.tables.find? number = some table ↔
    (∃ entry ∈ log, entry.table = number ∧ entry.made? = some table.lifecycle) ∧
      (∀ entry ∈ log, entry.table = number → ¬ entry.Drops) ∧
      table.callbacks = (registered log number).toArray
  indices : ∀ earlier entry later callback, log = earlier ++ entry :: later →
    entry.registered? = some callback → entry.number = (registered earlier entry.table).length

namespace Tallied

variable {log : List Posting} {bridge after : Bridge} {dealing : Dealing}

theorem nil (hempty : ∀ number, bridge.tables.find? number = none) : Tallied [] bridge where
  distinct := .nil
  below := by simp
  tables number table := by simp [hempty]
  indices := by simp

theorem of_same (htallied : Tallied log bridge) (hsame : bridge.SameTables after) :
    Tallied log after where
  distinct := htallied.distinct
  below entry hmem := by
    rw [hsame.nextTable]
    exact htallied.below entry hmem
  tables number table := by
    rw [hsame.tables]
    exact htallied.tables number table
  indices := htallied.indices

/-- A callback comes after those that the table had before. -/
theorem registered_snoc_some {entry : Posting} {callback : Host.Callback} (number : Nat)
    (htable : entry.table = number) (hregistered : entry.registered? = some callback) :
    registered (log ++ [entry]) number = registered log number ++ [callback] := by
  unfold registered
  rw [List.filterMap_append]
  congr 1
  exact List.filterMap_cons_some ((if_pos htable).trans hregistered)

theorem registered_snoc_none {entry : Posting} {number : Nat}
    (hnone : entry.table = number → entry.registered? = none) :
    registered (log ++ [entry]) number = registered log number := by
  unfold registered
  rw [List.filterMap_append, List.append_right_eq_self]
  refine List.filterMap_cons_none ?_
  by_cases htable : entry.table = number
  · exact (if_pos htable).trans (hnone htable)
  · exact if_neg htable

/-- What is true of the splits of a log and of its newest entry is true of the splits of both. -/
theorem indices_append {entry : Posting} (htallied : Tallied log bridge)
    (hentry : ∀ callback, entry.registered? = some callback →
      entry.number = (registered log entry.table).length) :
    ∀ earlier found later callback, log ++ [entry] = earlier ++ found :: later →
      found.registered? = some callback →
      found.number = (registered earlier found.table).length := by
  intro earlier found later callback hsplit hregistered
  rcases List.append_eq_append_iff.1 hsplit with
    ⟨middle, hearlier, hentries⟩ | ⟨middle, hlog, hlater⟩
  · cases middle with
    | nil =>
      cases hentries
      rw [List.append_nil] at hearlier
      subst hearlier
      exact hentry callback hregistered
    | cons head middle => simp at hentries
  · cases middle with
    | nil =>
      cases hlater
      rw [List.append_nil] at hlog
      subst hlog
      exact hentry callback hregistered
    | cons head middle =>
      cases hlater
      exact htallied.indices earlier found middle callback hlog hregistered

/-- Dropped tables and tables that were never made are not there. -/
theorem table_lt (htallied : Tallied log bridge) {number : Nat} {table : CallbackTable}
    (hfound : bridge.tables.find? number = some table) : number < bridge.nextTable := by
  obtain ⟨⟨entry, hmem, rfl, -⟩, -⟩ := (htallied.tables number table).1 hfound
  exact htallied.below entry hmem

/-- One more entry in the log, which concerns one table only. -/
theorem snoc {entry : Posting} (htallied : Tallied log bridge) (number : Nat)
    (htable : entry.table = number) (hnew : entry.made?.isSome → bridge.nextTable ≤ number)
    (hbelow : number < after.nextTable) (hnext : bridge.nextTable ≤ after.nextTable)
    (hothers : ∀ other, other ≠ number → after.tables.find? other = bridge.tables.find? other)
    (hself : ∀ table, after.tables.find? number = some table ↔
      (∃ found ∈ log ++ [entry], found.table = number ∧ found.made? = some table.lifecycle) ∧
      (∀ found ∈ log ++ [entry], found.table = number → ¬ found.Drops) ∧
      table.callbacks = (registered (log ++ [entry]) number).toArray)
    (hindex : ∀ callback, entry.registered? = some callback →
      entry.number = (registered log number).length) :
    Tallied (log ++ [entry]) after := by
  subst htable
  refine ⟨?_, ?_, ?_, htallied.indices_append hindex⟩
  · refine List.pairwise_append.2 ⟨htallied.distinct, List.pairwise_singleton _ _, ?_⟩
    intro found hmem last hlast _ hmade
    rw [List.mem_singleton.1 hlast] at hmade ⊢
    exact Nat.ne_of_lt (Nat.lt_of_lt_of_le (htallied.below found hmem) (hnew hmade))
  · intro found hmem
    rcases List.mem_append.1 hmem with hmem | hmem
    · exact Nat.lt_of_lt_of_le (htallied.below found hmem) hnext
    · rw [List.mem_singleton.1 hmem]
      exact hbelow
  · intro number table
    by_cases hnumber : number = entry.table
    · rw [hnumber]
      exact hself table
    · rw [hothers number hnumber, htallied.tables,
        registered_snoc_none fun htable ↦ absurd htable.symm hnumber]
      have hentry : entry.table ≠ number := fun htable ↦ hnumber htable.symm
      simp [or_imp, forall_and, or_and_right, exists_or, hentry]

theorem registers {builder : Builder} {env : Env} {name : String} {callback : Host.Callback}
    (htallied : Tallied log bridge)
    (heffects : (Dealing.register builder env name callback).Effects bridge after) :
    Tallied (log ++ [⟨.register builder env name callback, bridge.tableSize builder.table⟩])
      after := by
  obtain ⟨table, hfound, htables, hnext⟩ := heffects
  obtain ⟨⟨maker, hmaker, hmade⟩, hdrops, hcallbacks⟩ := (htallied.tables _ _).1 hfound
  refine htallied.snoc builder.table rfl ?_ ?_ (Nat.le_of_eq hnext.symm) ?_ ?_ ?_
  · rintro ⟨⟩
  · rw [hnext]
    exact htallied.table_lt hfound
  · intro number hnumber
    rw [htables, Store.find?_insert_of_ne _ _ hnumber]
  · intro other
    rw [htables, Store.find?_insert_self, registered_snoc_some builder.table rfl rfl]
    constructor
    · rintro ⟨⟩
      refine ⟨⟨maker, List.mem_append_left _ hmaker, hmade⟩, ?_, by simp [hcallbacks]⟩
      rintro found hmem htable ⟨dropped, hdrop⟩
      rcases List.mem_append.1 hmem with hmem | hmem
      · exact hdrops found hmem htable ⟨dropped, hdrop⟩
      · rw [List.mem_singleton.1 hmem] at hdrop
        cases hdrop
    · rintro ⟨⟨found, hmem, htable, hlifecycle⟩, -, hcallbacks'⟩
      have hfound' : bridge.tables.find? builder.table =
          some ⟨other.lifecycle, (registered log builder.table).toArray⟩ := by
        refine (htallied.tables _ _).2 ⟨⟨found, ?_, htable, hlifecycle⟩, hdrops, rfl⟩
        rcases List.mem_append.1 hmem with hmem | hmem
        · exact hmem
        · rw [List.mem_singleton.1 hmem] at hlifecycle
          cases hlifecycle
      cases hfound.symm.trans hfound'
      obtain ⟨lifecycle, callbacks⟩ := other
      simp_all
  · intro other hregistered
    change bridge.tableSize builder.table = _
    rw [Bridge.tableSize, hfound, Option.map_some, Option.getD_some, hcallbacks, List.size_toArray]

theorem drops {builder : Builder} (htallied : Tallied log bridge)
    (heffects : (Dealing.drop builder).Effects bridge after) :
    Tallied (log ++ [⟨.drop builder, builder.table⟩]) after := by
  obtain ⟨⟨table, hfound⟩, htables, hnext⟩ := heffects
  refine htallied.snoc builder.table rfl ?_ ?_ (Nat.le_of_eq hnext.symm) ?_ ?_ ?_
  · rintro ⟨⟩
  · rw [hnext]
    exact htallied.table_lt hfound
  · intro number hnumber
    rw [htables, Store.find?_erase_of_ne _ hnumber]
  · intro other
    rw [htables, Store.find?_erase_self]
    constructor
    · rintro ⟨⟩
    · rintro ⟨-, hdrops, -⟩
      exact absurd ⟨builder, rfl⟩ (hdrops _ (List.mem_append_right _ List.mem_cons_self) rfl)
  · intro callback hregistered
    cases hregistered

end Tallied

/-! ## Every builder is in one hand -/

/-- Builders are dealt with one at a time, and whoever deals with one comes to an end. -/
structure InHand (errands : List Errand) (log : List Posting) (bridge : Bridge) : Prop where
  awaits : ∀ errand ∈ errands,
    errand.dealing.Awaits errand.rest errand.calls errand.effect bridge
  owned : ∀ errand ∈ errands, ∀ builder, errand.dealing.builder? = some builder →
    ∃ maker ∈ errands, ∃ env, maker.Makes env builder
  exclusive : errands.Pairwise fun earlier later ↦ ∀ builder,
    earlier.dealing.builder? = some builder → later.dealing.builder? = some builder →
      earlier.IsOver ∧ earlier.dealing ≠ .drop builder
  recorded : log.Perm (errands.filterMap Errand.posting?)

/-- If both errands have made a table, the tables have different numbers. -/
def Errand.MakeApart (first second : Errand) : Prop :=
  ∀ entry, first.posting? = some entry → ∀ entry', second.posting? = some entry' →
    entry.made?.isSome → entry'.made?.isSome → entry.table ≠ entry'.table

instance : Std.Symm Errand.MakeApart where
  symm _ _ hapart entry hentry entry' hentry' hmade hmade' :=
    (hapart entry' hentry' entry hentry hmade' hmade).symm

/-- What every history keeps. -/
structure Coherent (errands : List Errand) (log : List Posting) (bridge : Bridge) : Prop
    extends InHand errands log bridge, Tallied log bridge

namespace InHand

variable {errands : List Errand} {log : List Posting} {bridge after : Bridge}

/-- How a dealing has ended. -/
theorem ends (hhand : InHand errands log bridge) {errand : Errand} (hmem : errand ∈ errands)
    {result : errand.dealing.Result} (hover : errand.rest = .done result) :
    errand.dealing.Ends errand.calls errand.effect result := by
  have hattains := hhand.awaits errand hmem bridge (.refl bridge)
  rw [hover] at hattains
  exact hattains

/-- A builder that was made has its table from the errand that made it. -/
theorem posting?_of_makes (hhand : InHand errands log bridge) {errand : Errand}
    (hmem : errand ∈ errands) {env : Env} {builder : Builder} (hmakes : errand.Makes env builder) :
    ∃ entry, errand.posting? = some entry ∧ entry.table = builder.table ∧
      entry.made? = some env.lifecycle := by
  obtain ⟨thread, interface, calls, effect, rfl⟩ := hmakes
  have hends : effect = some builder.table := hhand.ends hmem rfl
  subst hends
  exact ⟨⟨.make env interface, builder.table⟩, rfl, rfl, rfl⟩

/-- What the log says was done by an errand. -/
theorem exists_errand (hhand : InHand errands log bridge) {entry : Posting} (hmem : entry ∈ log) :
    ∃ errand ∈ errands, errand.dealing = entry.dealing := by
  obtain ⟨errand, herrand, hentry⟩ := List.mem_filterMap.1 (hhand.recorded.mem_iff.1 hmem)
  obtain ⟨number, -, rfl⟩ := Option.map_eq_some_iff.1 hentry
  exact ⟨errand, herrand, rfl⟩

theorem mem_log (hhand : InHand errands log bridge) {errand : Errand} {entry : Posting}
    (hmem : errand ∈ errands) (hentry : errand.posting? = some entry) : entry ∈ log :=
  hhand.recorded.mem_iff.2 (List.mem_filterMap.2 ⟨errand, hmem, hentry⟩)

end InHand

/-- The builder was made with this environment and has not been dropped. -/
def Lives (errands : List Errand) (log : List Posting) (env : Env) (builder : Builder) : Prop :=
  (∃ maker ∈ errands, maker.Makes env builder) ∧
    ∀ entry ∈ log, entry.table = builder.table → ¬ entry.Drops

namespace Coherent

variable {errands : List Errand} {log : List Posting} {bridge after : Bridge}

/-- No number is given to two tables. -/
theorem distinct_made (hcoherent : Coherent errands log bridge) :
    errands.Pairwise Errand.MakeApart := by
  refine List.pairwise_filterMap.1 ((hcoherent.recorded.pairwise_iff ?_).1 hcoherent.distinct)
  intro earlier later hdistinct hlater hearlier
  exact (hdistinct hearlier hlater).symm

/-- Two builders do not share a table. -/
theorem builder_eq (hcoherent : Coherent errands log bridge) {first second : Errand}
    (hfirst : first ∈ errands) (hsecond : second ∈ errands) {env env' : Env}
    {builder builder' : Builder} (hmakes : first.Makes env builder)
    (hmakes' : second.Makes env' builder') (htable : builder.table = builder'.table) :
    builder = builder' := by
  by_cases hsame : first = second
  · subst hsame
    obtain ⟨thread, interface, calls, effect, rfl⟩ := hmakes
    obtain ⟨thread', interface', calls', effect', heq⟩ := hmakes'
    cases heq
    rfl
  · obtain ⟨entry, hentry, hnumber, hmade⟩ := hcoherent.posting?_of_makes hfirst hmakes
    obtain ⟨entry', hentry', hnumber', hmade'⟩ := hcoherent.posting?_of_makes hsecond hmakes'
    have hapart := hcoherent.distinct_made.forall hfirst hsecond hsame
    refine absurd ?_ (hapart entry hentry entry' hentry' (by simp [hmade]) (by simp [hmade']))
    rw [hnumber, hnumber', htable]

/-- A builder that lives has the table that its callbacks were put into. -/
theorem find?_of_lives (hcoherent : Coherent errands log bridge) {env : Env} {builder : Builder}
    (hlives : Lives errands log env builder) :
    bridge.tables.find? builder.table =
      some ⟨env.lifecycle, (registered log builder.table).toArray⟩ := by
  obtain ⟨⟨maker, hmem, hmakes⟩, hdrops⟩ := hlives
  obtain ⟨entry, hentry, htable, hmade⟩ := hcoherent.posting?_of_makes hmem hmakes
  have hlogged := hcoherent.mem_log hmem hentry
  exact (hcoherent.tables _ _).2 ⟨⟨entry, hlogged, htable, hmade⟩, hdrops, rfl⟩

/-- A builder that may be dealt with lives. -/
theorem lives_of_permits (hcoherent : Coherent errands log bridge) {dealing : Dealing}
    {builder : Builder} (hpermits : Permits errands dealing)
    (hbuilder : dealing.builder? = some builder) : ∃ env, Lives errands log env builder := by
  obtain ⟨⟨maker, hmaker, env, hmakes⟩, hhand⟩ := hpermits builder hbuilder
  refine ⟨env, ⟨maker, hmaker, hmakes⟩, ?_⟩
  rintro entry hmem htable ⟨builder', hdrop⟩
  obtain ⟨errand, herrand, hdealing⟩ := hcoherent.exists_errand hmem
  have hbuilder' : errand.dealing.builder? = some builder' := by
    rw [hdealing, hdrop]
    rfl
  have htable' : builder'.table = builder.table := by
    rw [← htable]
    unfold Posting.table
    rw [hdrop]
  obtain ⟨maker', hmaker', env', hmakes'⟩ := hcoherent.owned errand herrand builder' hbuilder'
  cases hcoherent.builder_eq hmaker' hmaker hmakes' hmakes htable'
  exact (hhand errand herrand hbuilder').2 (hdealing.trans hdrop)

/-- A dealing that may begin will come to an end. -/
theorem awaits_begun (hcoherent : Coherent errands log bridge) {dealing : Dealing}
    (hpermits : Permits errands dealing) : dealing.Awaits dealing.program [] none bridge := by
  intro after hspared
  cases dealing with
  | make env interface => exact Dealing.succeeds_make env interface after
  | register builder env name callback =>
    obtain ⟨maker, hlives⟩ := hcoherent.lives_of_permits hpermits rfl
    have hfound := (hspared builder rfl).trans (hcoherent.find?_of_lives hlives)
    exact Dealing.succeeds_register builder env name callback hfound
  | drop builder =>
    obtain ⟨maker, hlives⟩ := hcoherent.lives_of_permits hpermits rfl
    have hfound := (hspared builder rfl).trans (hcoherent.find?_of_lives hlives)
    exact Dealing.succeeds_drop builder hfound

theorem begin (hcoherent : Coherent errands log bridge) (thread : NativeThread) {dealing : Dealing}
    (hpermits : Permits errands dealing) :
    Coherent (errands ++ [.begun thread dealing]) log bridge where
  toTallied := hcoherent.toTallied
  awaits errand hmem := by
    rcases List.mem_append.1 hmem with hmem | hmem
    · exact hcoherent.awaits errand hmem
    · rw [List.mem_singleton.1 hmem]
      exact hcoherent.awaits_begun hpermits
  owned errand hmem builder hbuilder := by
    have hmaker : ∃ maker ∈ errands, ∃ env, maker.Makes env builder := by
      rcases List.mem_append.1 hmem with hmem | hmem
      · exact hcoherent.owned errand hmem builder hbuilder
      · rw [List.mem_singleton.1 hmem] at hbuilder
        exact (hpermits builder hbuilder).1
    obtain ⟨maker, hmaker, hmakes⟩ := hmaker
    exact ⟨maker, List.mem_append_left _ hmaker, hmakes⟩
  exclusive := by
    refine List.pairwise_append.2 ⟨hcoherent.exclusive, List.pairwise_singleton _ _, ?_⟩
    intro errand hmem last hlast builder hbuilder hbuilder'
    rw [List.mem_singleton.1 hlast] at hbuilder'
    exact (hpermits builder hbuilder').2 errand hmem hbuilder
  recorded := by
    have hnothing : [Errand.begun thread dealing].filterMap Errand.posting? = [] :=
      List.filterMap_cons_none rfl
    rw [List.filterMap_append, hnothing, List.append_nil]
    exact hcoherent.recorded

end Coherent

omit [Host] in
/-- Membership in a list of which one element is singled out. -/
theorem mem_append_cons {γ : Type} {earlier later : List γ} {single found : γ} :
    found ∈ earlier ++ single :: later ↔ found = single ∨ found ∈ earlier ++ later := by
  simp only [List.mem_append, List.mem_cons]
  exact or_left_comm

/-- What a dealing does concerns its own table, or a new one. -/
theorem Dealing.Effects.find?_eq {dealing : Dealing} {bridge after : Bridge}
    (heffects : dealing.Effects bridge after)
    {number : Nat} (hgiven : number < bridge.nextTable)
    (hother : ∀ builder, dealing.builder? = some builder → number ≠ builder.table) :
    after.tables.find? number = bridge.tables.find? number := by
  cases dealing with
  | make env interface =>
    rw [heffects.1, Store.find?_insert_of_ne _ _ (Nat.ne_of_lt hgiven)]
  | register builder env name callback =>
    obtain ⟨table, -, htables, -⟩ := heffects
    rw [htables, Store.find?_insert_of_ne _ _ (hother builder rfl)]
  | drop builder =>
    obtain ⟨-, htables, -⟩ := heffects
    rw [htables, Store.find?_erase_of_ne _ (hother builder rfl)]

namespace Coherent

/-- Nobody else is dealing with the builder of a dealing that has its effect. -/
theorem spared {earlier later : List Errand} {log : List Posting} {bridge after : Bridge}
    {errand : Errand}
    (hcoherent : Coherent (earlier ++ errand :: later) log bridge) (hover : ¬ errand.IsOver)
    (heffects : errand.dealing.Effects bridge after) :
    ∀ other ∈ earlier ++ later, other.IsOver ∨ other.dealing.Spared bridge after := by
  intro other hother
  have hmem : other ∈ earlier ++ errand :: later := mem_append_cons.2 (.inr hother)
  obtain ⟨-, hlater, hcross⟩ := List.pairwise_append.1 hcoherent.exclusive
  by_cases hdone : other.IsOver
  · exact .inl hdone
  · refine .inr fun builder hbuilder ↦ heffects.find?_eq ?_ ?_
    · obtain ⟨maker, hmaker, env, hmakes⟩ := hcoherent.owned other hmem builder hbuilder
      obtain ⟨entry, hentry, htable, -⟩ := hcoherent.posting?_of_makes hmaker hmakes
      rw [← htable]
      exact hcoherent.below entry (hcoherent.mem_log hmaker hentry)
    · intro builder' hbuilder' htable
      obtain ⟨maker, hmaker, env, hmakes⟩ := hcoherent.owned other hmem builder hbuilder
      obtain ⟨maker', hmaker', env', hmakes'⟩ := hcoherent.owned errand
        (List.mem_append_right _ List.mem_cons_self) builder' hbuilder'
      cases hcoherent.builder_eq hmaker hmaker' hmakes hmakes' htable
      rcases List.mem_append.1 hother with hother | hother
      · exact hdone (hcross other hother errand List.mem_cons_self builder hbuilder hbuilder').1
      · exact hover ((List.pairwise_cons.1 hlater).1 other hother builder hbuilder' hbuilder).1

end Coherent

/-- An errand goes on; what it may not do is get in the way of others. -/
theorem InHand.resume {earlier later : List Errand} {log log' : List Posting}
    {bridge after : Bridge}
    {thread : NativeThread} {dealing : Dealing} {calls calls' : List Call}
    {effect effect' : Option Nat} {rest rest' : Program dealing.Result}
    (hhand : InHand (earlier ++ ⟨thread, dealing, calls, effect, rest⟩ :: later) log bridge)
    (hover : ¬ ∃ result, rest = .done result)
    (hspared : ∀ other ∈ earlier ++ later, other.IsOver ∨ other.dealing.Spared bridge after)
    (hawaits : dealing.Awaits rest' calls' effect' after)
    (hrecorded : log'.Perm ((earlier ++ ⟨thread, dealing, calls', effect', rest'⟩ ::
      later).filterMap Errand.posting?)) :
    InHand (earlier ++ ⟨thread, dealing, calls', effect', rest'⟩ :: later) log' after := by
  obtain ⟨hearlier, hlater, hcross⟩ := List.pairwise_append.1 hhand.exclusive
  obtain ⟨hfirst, hlater⟩ := List.pairwise_cons.1 hlater
  refine ⟨?_, ?_, ?_, hrecorded⟩
  · intro other hmem
    rcases mem_append_cons.1 hmem with rfl | hother
    · exact hawaits
    · have hold := hhand.awaits other (mem_append_cons.2 (.inr hother))
      rcases hspared other hother with ⟨result, hdone⟩ | hspared
      · intro later _
        rw [hdone]
        exact hhand.ends (mem_append_cons.2 (.inr hother)) hdone
      · exact fun later hlater ↦ hold later (hspared.trans hlater)
  · intro other hmem builder hbuilder
    have hmaker : ∃ maker ∈ earlier ++ ⟨thread, dealing, calls, effect, rest⟩ :: later, ∃ env,
        maker.Makes env builder := by
      rcases mem_append_cons.1 hmem with rfl | hother
      · exact hhand.owned ⟨thread, dealing, calls, effect, rest⟩ (mem_append_cons.2 (.inl rfl))
          builder hbuilder
      · exact hhand.owned other (mem_append_cons.2 (.inr hother)) builder hbuilder
    obtain ⟨maker, hmem, env, hmakes⟩ := hmaker
    rcases mem_append_cons.1 hmem with rfl | hother
    · obtain ⟨_, _, _, _, heq⟩ := hmakes
      cases heq
      exact absurd ⟨_, rfl⟩ hover
    · exact ⟨maker, mem_append_cons.2 (.inr hother), env, hmakes⟩
  · refine List.pairwise_append.2 ⟨hearlier, List.pairwise_cons.2 ⟨?_, hlater⟩, ?_⟩
    · intro other hother builder hbuilder hbuilder'
      exact absurd (hfirst other hother builder hbuilder hbuilder').1 hover
    · intro other hother last hlast
      rcases List.mem_cons.1 hlast with rfl | hlast
      · exact hcross other hother ⟨thread, dealing, calls, effect, rest⟩ List.mem_cons_self
      · exact hcross other hother last (List.mem_cons_of_mem _ hlast)

end JavaInterop
