import JavaInterop.Proofs.Lifecycle.Generations

/-!
# Executions

Threads of a process create machines and forget them, attach themselves and detach, and pass global
references around until someone gives them up.  An execution is any sequence of such actions by any
threads; whether a call succeeds is up to the machines, and so is which threads are attached between
two actions.  The log keeps who did what and all the calls.

Each action does one of three things to the references: it leaves them alone, a new one is issued,
or one is given up.  Only whoever gives a reference back deletes anything.
-/

namespace JavaInterop

/-! ## Holdings -/

/-- A global reference that was issued by a machine, and what its owner still has of it. -/
structure Issue where
  issued : GlobalReference
  vm : VmId
  held : Option GlobalReference

/-- A piece of work with an environment that has begun. -/
structure Scope where
  thread : Nat
  lifecycle : LifecycleId
  config : AttachConfig
  env : Env
  attachedHere : Bool

/-- What the threads have: environments, work that has begun, and global references. -/
structure Holdings where
  envs : List Env := []
  scopes : List Scope := []
  issues : List Issue := []

namespace Holdings

/-- What the owner of a reference has of it. -/
def held? (holdings : Holdings) (index : Nat) : Option (Issue × GlobalReference) := do
  let issue ← holdings.issues[index]?
  let reference ← issue.held
  return (issue, reference)

/-- A new reference has an owner. -/
def issue (holdings : Holdings) (env : Env) (reference : GlobalReference) : Holdings :=
  { holdings with
    issues := holdings.issues ++ [⟨reference, env.pointer.vm, some reference⟩] }

/-- The owner of a reference has something else of it now. -/
def keep (holdings : Holdings) (index : Nat) (issue : Issue) (held : Option GlobalReference) :
    Holdings :=
  { holdings with issues := holdings.issues.set index { issue with held := held } }

end Holdings

/-- How many references were issued with a handle. -/
def Holdings.issueCount (holdings : Holdings) (handle : Handle) : Nat :=
  holdings.issues.countP fun issue ↦ issue.issued.raw = some handle

/-- How many owners have a handle. -/
def Holdings.ownerCount (holdings : Holdings) (handle : Handle) : Nat :=
  holdings.issues.countP fun issue ↦ issue.held.bind GlobalReference.raw = some handle

theorem held?_eq_some {holdings : Holdings} {index : Nat} {issue : Issue}
    {reference : GlobalReference} :
    holdings.held? index = some (issue, reference) ↔
      holdings.issues[index]? = some issue ∧ issue.held = some reference := by
  unfold Holdings.held?
  cases hissue : holdings.issues[index]? with
  | none => simp
  | some found =>
    cases hheld : found.held with
    | none =>
      refine iff_of_false (by simp [hheld]) ?_
      rintro ⟨⟨rfl⟩, hsome⟩
      cases hheld.symm.trans hsome
    | some other =>
      simp only [Option.bind_eq_bind, Option.bind_some, hheld]
      constructor
      · rintro ⟨rfl⟩
        exact ⟨rfl, hheld⟩
      · rintro ⟨⟨rfl⟩, hsome⟩
        cases hheld.symm.trans hsome
        rfl

/-- A new reference comes after all others. -/
theorem eq_or_issue_of_getElem? {holdings : Holdings} {env : Env} {reference : GlobalReference}
    {index : Nat} {issue : Issue}
    (hissue : (holdings.issue env reference).issues[index]? = some issue) :
    holdings.issues[index]? = some issue ∨
      index = holdings.issues.length ∧ issue = ⟨reference, env.pointer.vm, some reference⟩ := by
  rcases Nat.lt_or_ge index holdings.issues.length with hlt | hge
  · rw [Holdings.issue, List.getElem?_append_left hlt] at hissue
    exact .inl hissue
  · rw [Holdings.issue, List.getElem?_append_right hge] at hissue
    obtain ⟨hzero, hsame⟩ := Option.ite_none_right_eq_some.1 (List.getElem?_singleton ▸ hissue)
    exact .inr ⟨Nat.le_antisymm (Nat.le_of_sub_eq_zero hzero) hge, (Option.some.inj hsame).symm⟩

/-- Nothing changes for the other references. -/
theorem eq_or_keep_of_getElem? {holdings : Holdings} {index other : Nat} {issue kept : Issue}
    {left : Option GlobalReference} (hindex : index < holdings.issues.length)
    (hkept : (holdings.keep index issue left).issues[other]? = some kept) :
    other = index ∧ kept = { issue with held := left } ∨
      other ≠ index ∧ holdings.issues[other]? = some kept := by
  rw [Holdings.keep, List.getElem?_set] at hkept
  by_cases hother : index = other
  · subst hother
    simp only [↓reduceIte, hindex, Option.some.injEq] at hkept
    exact .inl ⟨rfl, hkept.symm⟩
  · rw [if_neg hother] at hkept
    exact .inr ⟨Ne.symm hother, hkept⟩

/-- Every reference was issued before one was given up. -/
theorem exists_issue_of_keep {holdings : Holdings} {index : Nat} {issue kept : Issue}
    {left : Option GlobalReference} (hissue : holdings.issues[index]? = some issue)
    (hkept : kept ∈ (holdings.keep index issue left).issues) :
    ∃ known ∈ holdings.issues, kept.issued = known.issued ∧ kept.vm = known.vm := by
  rcases List.mem_or_eq_of_mem_set hkept with hmem | rfl
  · exact ⟨kept, hmem, rfl, rfl⟩
  · exact ⟨issue, List.mem_of_getElem? hissue, rfl, rfl⟩

theorem issueCount_issue (holdings : Holdings) (env : Env) {reference : GlobalReference}
    (handle : Handle) :
    (holdings.issue env reference).issueCount handle =
      holdings.issueCount handle + if reference.raw = some handle then 1 else 0 := by
  simp [Holdings.issueCount, Holdings.issue, List.countP_append, List.countP_cons]

theorem ownerCount_issue (holdings : Holdings) (env : Env) {reference : GlobalReference}
    (handle : Handle) :
    (holdings.issue env reference).ownerCount handle =
      holdings.ownerCount handle + if reference.raw = some handle then 1 else 0 := by
  simp [Holdings.ownerCount, Holdings.issue, List.countP_append, List.countP_cons]

/-- Giving up a reference does not change what was issued. -/
theorem issueCount_keep {holdings : Holdings} {index : Nat} {issue : Issue}
    (hissue : holdings.issues[index]? = some issue) (left : Option GlobalReference)
    (handle : Handle) :
    (holdings.keep index issue left).issueCount handle = holdings.issueCount handle := by
  obtain ⟨hindex, hget⟩ := List.getElem?_eq_some_iff.1 hissue
  unfold Holdings.issueCount Holdings.keep
  rw [List.countP_set hindex, hget]
  by_cases hraw : issue.issued.raw = some handle
  · have hmem : 1 ≤ holdings.issues.countP fun issue ↦ issue.issued.raw = some handle :=
      List.one_le_countP_iff.2 ⟨issue, List.mem_of_getElem? hissue, by simp [hraw]⟩
    simp only [hraw, decide_true, ↓reduceIte]
    exact Nat.sub_add_cancel hmem
  · simp [hraw]

/-- The handle of a reference that is given up has one owner less. -/
theorem ownerCount_keep {holdings : Holdings} {index : Nat} {issue : Issue}
    {reference : GlobalReference} (hheld : holdings.held? index = some (issue, reference))
    {left : Option GlobalReference} (hleft : left.bind GlobalReference.raw = none)
    (handle : Handle) :
    (holdings.keep index issue left).ownerCount handle +
      (if reference.raw = some handle then 1 else 0) = holdings.ownerCount handle := by
  obtain ⟨hissue, hheld⟩ := held?_eq_some.1 hheld
  obtain ⟨hindex, hget⟩ := List.getElem?_eq_some_iff.1 hissue
  unfold Holdings.ownerCount Holdings.keep
  rw [List.countP_set hindex, hget]
  by_cases hraw : reference.raw = some handle
  · have hmem : 1 ≤ holdings.issues.countP fun issue ↦
        issue.held.bind GlobalReference.raw = some handle :=
      List.one_le_countP_iff.2 ⟨issue, List.mem_of_getElem? hissue, by simp [hheld, hraw]⟩
    simp only [hheld, hleft, Option.bind_some, hraw, decide_true, ↓reduceIte, reduceCtorEq,
      decide_false, Bool.false_eq_true, Nat.add_zero]
    exact Nat.sub_add_cancel hmem
  · simp [hheld, hleft, hraw]

variable [Host]

/-! ## Executions -/

/-- What a thread may do.  Work with an environment begins and ends, and other actions stand in
between. -/
inductive Action where
  | create (id : LifecycleId) (version : Version) (options : Startup.OptionList)
  | adopt (id : LifecycleId) (vm : Option VmId) (version : Version)
  | teardown (id : LifecycleId)
  | reset (id : LifecycleId)
  | cleanup (id : LifecycleId)
  | attach (id : LifecycleId) (config : AttachConfig)
  | detach (id : LifecycleId)
  | enter (id : LifecycleId) (config : AttachConfig)
  | leave
  | exit (heldOutside : LifecycleId → Bool)
  | newGlobal (env : Env) (object : Option Handle)
  | copy (index : Nat) (env : Env)
  | release (index : Nat)
  | drop (index : Nat)
  | intoRaw (index : Nat)

namespace Action

/-- The reference that its owner gives back. -/
def returned? : Action → Option Nat
  | release index | drop index => some index
  | _ => none

/-- The reference that its owner gives up, to the machine or to whoever gets the handle. -/
def givenUp? : Action → Option Nat
  | release index | drop index | intoRaw index => some index
  | _ => none

/-- An environment was obtained before it is used, and a reference is only given up by whoever has
it. -/
def Permitted (holdings : Holdings) : Action → Prop
  | newGlobal env _ => env ∈ holdings.envs
  | copy index env => env ∈ holdings.envs ∧ (holdings.held? index).isSome
  | release index | drop index | intoRaw index => (holdings.held? index).isSome
  | _ => True

/-- Something that the holdings do not depend on. -/
def aside {α : Type} (holdings : Holdings) (program : Program α) : Program Holdings := do
  let _ ← program
  return holdings

/-- What comes of a new reference. -/
def ofIssue (holdings : Holdings) (env : Env) (made : Fallible GlobalReference) :
    Program Holdings := do
  match ← made.run with
  | .ok reference => return holdings.issue env reference
  | .error _ => return holdings

/-- The program of an action, which gives what the threads have afterwards. -/
def program (holdings : Holdings) : Action → Program Holdings
  | create id version options => aside holdings (id.create version options).run
  | adopt id vm version => aside holdings (id.adopt vm version).run
  | teardown id => aside holdings id.teardown.run
  | reset id => aside holdings id.reset
  | cleanup id => aside holdings id.cleanup
  | attach id config => do
    match ← (id.attach config).run with
    | .ok env => return { holdings with envs := env :: holdings.envs }
    | .error _ => return holdings
  | detach id => aside holdings id.detach
  | enter id config => do
    let running ← Program.current
    match ← (id.enter config).run with
    | .ok (env, attachedHere) => return { holdings with
        envs := env :: holdings.envs
        scopes := ⟨running.id, id, config, env, attachedHere⟩ :: holdings.scopes }
    | .error _ => return holdings
  | leave => do
    let running ← Program.current
    match holdings.scopes.find? (·.thread == running.id) with
    | some scope =>
      scope.lifecycle.leave scope.config scope.env scope.attachedHere
      return { holdings with scopes := holdings.scopes.eraseP (·.thread == running.id) }
    | none => return holdings
  | exit heldOutside => aside holdings (exitThread heldOutside)
  | newGlobal env object => ofIssue holdings env (env.newGlobal object)
  | copy index env =>
    match holdings.held? index with
    | some (_, reference) => ofIssue holdings env (reference.copy env)
    | none => return holdings
  | release index =>
    match holdings.held? index with
    | some (issue, reference) => do
      let rest ← reference.release
      return holdings.keep index issue (some rest)
    | none => return holdings
  | drop index =>
    match holdings.held? index with
    | some (issue, reference) => do
      reference.drop
      return holdings.keep index issue none
    | none => return holdings
  | intoRaw index =>
    match holdings.held? index with
    | some (issue, _) => return holdings.keep index issue none
    | none => return holdings

end Action

/-- An action that was carried out. -/
structure Entry where
  thread : NativeThread
  action : Action
  holdings : Holdings
  first : Moment Attachments
  exchanges : List (Exchange Attachments)
  last : Moment Attachments

/-- The log of what has been done since the process began, the bridge and what the threads have. -/
inductive Execution : List Entry → Bridge → Holdings → Prop
  | start : Execution [] { } { }
  | step {log : List Entry} {bridge : Bridge} {holdings holdings' : Holdings}
      {thread : NativeThread} {action : Action} {outside : Attachments}
      {exchanges : List (Exchange Attachments)} {last : Moment Attachments}
      (hbefore : Execution log bridge holdings) (hpermitted : action.Permitted holdings)
      (hrun : (action.program holdings).Run thread ⟨bridge, outside⟩ exchanges holdings' last)
      (hlaw : ∀ exchange ∈ exchanges, exchange.KeepsAttachments) :
      Execution (log ++ [⟨thread, action, holdings, ⟨bridge, outside⟩, exchanges, last⟩])
        last.bridge holdings'

/-! ## One action -/

/-- What an action does to the holdings: no reference changes, a new one is issued, or one is given
up, of which a released one may remain. -/
inductive Changes (bridge : Bridge) (action : Action) (holdings : Holdings) : Holdings → Prop
  | same {holdings' : Holdings} (hgivenUp : action.givenUp? = none)
      (hissues : holdings'.issues = holdings.issues)
      (henvs : ∀ env ∈ holdings'.envs, env ∈ holdings.envs ∨ bridge.Trusts env) :
      Changes bridge action holdings holdings'
  | issued {env : Env} {reference : GlobalReference} {handle : Handle}
      (hgivenUp : action.givenUp? = none) (henv : env ∈ holdings.envs)
      (hlifecycle : reference.lifecycle = env.lifecycle)
      (hgeneration : reference.generation = env.generation)
      (hraw : reference.raw = some handle) (hvm : handle.vm = env.pointer.vm) :
      Changes bridge action holdings (holdings.issue env reference)
  | givenUp {index : Nat} {issue : Issue} {reference : GlobalReference}
      {left : Option GlobalReference} (hgivenUp : action.givenUp? = some index)
      (hheld : holdings.held? index = some (issue, reference))
      (hleft : left = none ∨ left = some { reference with raw := none }) :
      Changes bridge action holdings (holdings.keep index issue left)

/-- An environment was obtained. -/
theorem Changes.obtained {bridge : Bridge} {action : Action} {holdings holdings' : Holdings}
    {env : Env} (hgivenUp : action.givenUp? = none) (htrusts : bridge.Trusts env)
    (hissues : holdings'.issues = holdings.issues) (henvs : holdings'.envs = env :: holdings.envs) :
    Changes bridge action holdings holdings' := by
  refine .same hgivenUp hissues fun other hmem ↦ ?_
  rw [henvs] at hmem
  rcases List.mem_cons.1 hmem with rfl | hmem
  · exact .inr htrusts
  · exact .inl hmem

open Program (Ensures)

section

variable {thread : NativeThread} {first : Moment Attachments} {holdings : Holdings}

/-- What is said about every action. -/
def Carries (action : Action) (holdings : Holdings) (first : Moment Attachments)
    (exchanges : List (Exchange Attachments)) (holdings' : Holdings)
    (last : Moment Attachments) : Prop :=
  ((action.returned? = none → deletions exchanges = []) ∧ last.bridge.Unloaded ∧
    first.bridge.Advances last.bridge) ∧ Changes first.bridge action holdings holdings'

theorem ensures_carries {action : Action} {program : Program Holdings} (clean : Bool)
    (hclean : action.returned? = none → clean = true) (htame : Tame clean program)
    (hunloaded : first.bridge.Unloaded)
    (hchanges : Ensures Exchange.KeepsAttachments thread program first fun _ holdings' _ ↦
      Changes first.bridge action holdings holdings') :
    Ensures Exchange.KeepsAttachments thread program first (Carries action holdings first) := by
  refine ((htame thread first hunloaded).and hchanges).weaken ?_
  rintro exchanges holdings' last ⟨⟨hdeletions, hunloaded', hadvances⟩, hchanges'⟩
  exact ⟨⟨fun hreturned ↦ hdeletions (hclean hreturned), hunloaded', hadvances⟩, hchanges'⟩

/-- An action that does not touch the holdings. -/
theorem ensures_aside {α : Type} {action : Action} {program : Program α}
    (hgivenUp : action.givenUp? = none) (htame : Tame true program)
    (hunloaded : first.bridge.Unloaded) :
    Ensures Exchange.KeepsAttachments thread (Action.aside holdings program) first
      (Carries action holdings first) := by
  refine ensures_carries true (fun _ ↦ rfl) (htame.bind fun _ ↦ Tame.done) hunloaded ?_
  · have halways : Always (Action.aside holdings program) fun holdings' ↦ holdings' = holdings :=
      Always.bind fun _ ↦ Always.done rfl
    refine (halways _ _ thread first).weaken ?_
    rintro _ _ _ rfl
    exact .same hgivenUp rfl fun _ ↦ .inl

theorem ensures_ofIssue {action : Action} {env : Env} {object : Option Handle}
    (hgivenUp : action.givenUp? = none) (henv : env ∈ holdings.envs)
    (hunloaded : first.bridge.Unloaded) :
    Ensures Exchange.KeepsAttachments thread
      (Action.ofIssue holdings env (env.newGlobal object)) first
      (Carries action holdings first) := by
  refine ensures_carries true (fun _ ↦ rfl) ?_ hunloaded ?_
  · refine (Tame.newGlobal env object).bind ?_
    rintro (error | reference)
    · exact Tame.done
    · exact Tame.done
  · unfold Action.ofIssue
    rw [Program.ensures_bind]
    refine (ensures_newGlobal env object).weaken ?_
    rintro exchanges (error | reference) last hissued
    · dsimp only
      rw [Program.ensures_pure]
      exact .same hgivenUp rfl fun _ ↦ .inl
    · obtain ⟨hlifecycle, hgeneration, handle, hraw, hvm⟩ := hissued reference rfl
      dsimp only
      rw [Program.ensures_pure]
      exact .issued hgivenUp henv hlifecycle hgeneration hraw hvm

/-- What remains of a released reference names nothing. -/
theorem always_release (reference : GlobalReference) :
    Always reference.release fun left ↦ left = { reference with raw := none } := by
  unfold GlobalReference.release
  cases reference.raw with
  | none => exact Always.done rfl
  | some handle => exact Always.bind fun _ ↦ Always.done rfl

/-- Every action keeps to its own references. -/
theorem ensures_program (action : Action) (hunloaded : first.bridge.Unloaded)
    (hnumbered : first.bridge.Numbered) (hpermitted : action.Permitted holdings) :
    Ensures Exchange.KeepsAttachments thread (action.program holdings) first
      (Carries action holdings first) := by
  cases action with
  | create id version options => exact ensures_aside rfl (Tame.create id version options) hunloaded
  | adopt id vm version => exact ensures_aside rfl (Tame.adopt id vm version) hunloaded
  | teardown id => exact ensures_aside rfl (Tame.teardown id) hunloaded
  | reset id => exact ensures_aside rfl (Tame.reset id) hunloaded
  | cleanup id => exact ensures_aside rfl (Tame.cleanup id) hunloaded
  | detach id => exact ensures_aside rfl (Tame.detach id) hunloaded
  | exit heldOutside => exact ensures_aside rfl (Tame.exitThread heldOutside) hunloaded
  | attach id config =>
    refine ensures_carries true (fun _ ↦ rfl) ?_ hunloaded ?_
    · refine (Tame.attach id config).bind ?_
      rintro (error | env)
      · exact Tame.done
      · exact Tame.done
    · unfold Action.program
      rw [Program.ensures_bind, LifecycleId.ensures_attach_iff]
      refine (ensures_enter id _ hnumbered).weaken ?_
      rintro exchanges (error | ⟨env, attachedHere⟩) last htrusts
      · exact Program.ensures_pure.2 (.same rfl rfl fun _ ↦ .inl)
      · exact Program.ensures_pure.2 (.obtained rfl (htrusts _ _ rfl) rfl rfl)
  | enter id config =>
    refine ensures_carries true (fun _ ↦ rfl) ?_ hunloaded ?_
    · refine Tame.current.bind fun running ↦ (Tame.enter id config).bind ?_
      rintro (error | env)
      · exact Tame.done
      · exact Tame.done
    · unfold Action.program
      rw [Program.ensures_bind, Program.ensures_current, Program.ensures_bind]
      refine (ensures_enter id config hnumbered).weaken ?_
      rintro exchanges (error | ⟨env, attachedHere⟩) last htrusts
      · dsimp only
        rw [Program.ensures_pure]
        exact .same rfl rfl fun _ ↦ .inl
      · dsimp only
        rw [Program.ensures_pure]
        exact .obtained rfl (htrusts _ _ rfl) rfl rfl
  | leave =>
    refine ensures_carries true (fun _ ↦ rfl) ?_ hunloaded ?_
    · refine Tame.current.bind fun running ↦ ?_
      split
      · exact (Tame.leave _ _ _ _).bind fun _ ↦ Tame.done
      · exact Tame.done
    · unfold Action.program
      rw [Program.ensures_bind, Program.ensures_current]
      split
      · rw [Program.ensures_bind]
        intro exchanges _ middle _ _
        rw [Program.ensures_pure]
        exact .same rfl rfl fun _ ↦ .inl
      · rw [Program.ensures_pure]
        exact .same rfl rfl fun _ ↦ .inl
  | newGlobal env object => exact ensures_ofIssue rfl hpermitted hunloaded
  | copy index env =>
    obtain ⟨⟨issue, reference⟩, hheld⟩ := Option.isSome_iff_exists.1 hpermitted.2
    simp only [Action.program, hheld]
    exact ensures_ofIssue rfl hpermitted.1 hunloaded
  | release index =>
    obtain ⟨⟨issue, reference⟩, hheld⟩ := Option.isSome_iff_exists.1 hpermitted
    simp only [Action.program, hheld]
    refine ensures_carries false (fun hreturned ↦ nomatch hreturned) ?_ hunloaded ?_
    · exact (Tame.release reference).bind fun _ ↦ Tame.done
    · rw [Program.ensures_bind]
      refine (always_release reference _ _ thread first).weaken ?_
      rintro exchanges _ last rfl
      rw [Program.ensures_pure]
      exact .givenUp rfl hheld (.inr rfl)
  | drop index =>
    obtain ⟨⟨issue, reference⟩, hheld⟩ := Option.isSome_iff_exists.1 hpermitted
    simp only [Action.program, hheld]
    refine ensures_carries false (fun hreturned ↦ nomatch hreturned) ?_ hunloaded ?_
    · exact ((Tame.release reference).bind fun _ ↦ Tame.done).bind fun _ ↦ Tame.done
    · rw [Program.ensures_bind]
      intro exchanges _ last _ _
      rw [Program.ensures_pure]
      exact .givenUp rfl hheld (.inl rfl)
  | intoRaw index =>
    obtain ⟨⟨issue, reference⟩, hheld⟩ := Option.isSome_iff_exists.1 hpermitted
    simp only [Action.program, hheld]
    refine ensures_carries true (fun _ ↦ rfl) Tame.done hunloaded ?_
    rw [Program.ensures_pure]
    exact .givenUp rfl hheld (.inl rfl)

/-- What giving a reference back does: nothing if there is none any more. -/
def Returned (reference : GlobalReference) (thread : NativeThread)
    (first last : Moment Attachments) (exchanges : List (Exchange Attachments)) : Prop :=
  match reference.raw with
  | none => exchanges = [] ∧ last = first
  | some handle => Gives reference.lifecycle reference.generation handle thread first last exchanges

theorem ensures_release (reference : GlobalReference) :
    Ensures Exchange.KeepsAttachments thread reference.release first fun exchanges _ last ↦
      Returned reference thread first last exchanges := by
  rw [GlobalReference.ensures_release_iff]
  unfold Returned
  cases reference.raw with
  | none => exact ⟨rfl, rfl⟩
  | some handle => exact ensures_deleteGlobal _ _ handle

/-- Whoever releases a reference or drops it gives back what is left of it. -/
theorem ensures_returned {action : Action} {index : Nat} {issue : Issue}
    {reference : GlobalReference} (hreturned : action.returned? = some index)
    (hheld : holdings.held? index = some (issue, reference)) :
    Ensures Exchange.KeepsAttachments thread (action.program holdings) first
      fun exchanges _ last ↦ Returned reference thread first last exchanges := by
  cases action with
  | release =>
    cases hreturned
    simp only [Action.program, hheld]
    rw [Program.ensures_bind]
    refine (ensures_release reference).weaken ?_
    intro exchanges _ last hback
    rw [Program.ensures_pure, List.append_nil]
    exact hback
  | drop =>
    cases hreturned
    simp only [Action.program, hheld]
    have hdrop : reference.drop = (fun _ ↦ ()) <$> reference.release := rfl
    rw [Program.ensures_bind, hdrop, Program.ensures_map]
    refine (ensures_release reference).weaken ?_
    intro exchanges _ last hback
    rw [Program.ensures_pure, List.append_nil]
    exact hback
  | _ => cases hreturned

end

end JavaInterop
