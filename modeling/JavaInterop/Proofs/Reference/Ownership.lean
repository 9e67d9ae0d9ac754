import JavaInterop.Proofs.Environment.Operation
import JavaInterop.Proofs.Reference.Execution

/-!
# Owners of global references

Each global reference has one owner at a time, who may release it, drop it, or take its handle and
be responsible for it alone.  Whoever has not given up a reference has it as it was issued, and of a
reference that was given up no handle remains; this holds after every execution.

So a reference is deleted when its owner first gives it back, if its machine is still registered and
the thread has an environment or gets one, and never again.
-/

namespace JavaInterop

variable [Host]

/-! ## Counting deletions -/

/-- How often a handle was deleted in some calls. -/
def deletionCount (handle : Handle) (exchanges : List (Exchange Attachments)) : Nat :=
  exchanges.countP fun exchange ↦ exchange.request.deleted? = some handle

theorem deletionCount_append (handle : Handle) (begun rest : List (Exchange Attachments)) :
    deletionCount handle (begun ++ rest) =
      deletionCount handle begun + deletionCount handle rest :=
  List.countP_append ..

/-- Only deletions count. -/
theorem deletionCount_deletions (handle : Handle) (exchanges : List (Exchange Attachments)) :
    deletionCount handle (deletions exchanges) = deletionCount handle exchanges := by
  unfold deletionCount deletions
  rw [List.countP_filter]
  refine List.countP_congr fun exchange _ ↦ ?_
  cases exchange.request.deleted? with
  | none => simp
  | some deleted => simp

/-- A reference is given back at most once, under its own handle. -/
theorem Returned.count_le {reference : GlobalReference} {thread : NativeThread}
    {first last : Moment Attachments} {exchanges : List (Exchange Attachments)}
    (hreturned : Returned reference thread first last exchanges) (handle : Handle) :
    deletionCount handle exchanges ≤ if reference.raw = some handle then 1 else 0 := by
  unfold Returned at hreturned
  rw [← deletionCount_deletions]
  cases hraw : reference.raw with
  | none =>
    rw [hraw] at hreturned
    obtain ⟨rfl, -⟩ := hreturned
    exact Nat.zero_le _
  | some own =>
    rw [hraw] at hreturned
    split
    · exact Nat.le_trans List.countP_le_length hreturned.once
    · rename_i hother
      refine Nat.le_of_eq (List.countP_eq_zero.2 fun exchange hmem ↦ ?_)
      obtain ⟨registration, -, pointer, hrequest, -⟩ := hreturned.valid exchange hmem
      simpa [hrequest, Call.deleted?] using hother

/-! ## All that was done -/

/-- What holds after any execution.  Whoever has not given up a reference has it as it was issued,
and of a reference that was given up no handle remains.  Each deletion of a handle uses up a
reference that was issued with it. -/
structure Sound (log : List Entry) (bridge : Bridge) (holdings : Holdings) : Prop where
  unloaded : bridge.Unloaded
  numbered : bridge.Numbered
  trusts : ∀ env ∈ holdings.envs, bridge.Trusts env
  knows : ∀ issue ∈ holdings.issues,
    bridge.Knows issue.issued.lifecycle issue.issued.generation issue.vm ∧
      ∃ handle, issue.issued.raw = some handle ∧ handle.vm = issue.vm
  past : ∀ entry ∈ log, ∀ index, entry.action.givenUp? = some index →
    index < holdings.issues.length
  kept : ∀ index issue, holdings.issues[index]? = some issue →
    (∀ entry ∈ log, entry.action.givenUp? ≠ some index) → issue.held = some issue.issued
  spent : ∀ index issue, holdings.issues[index]? = some issue →
    (∃ entry ∈ log, entry.action.givenUp? = some index) →
      ∀ reference, issue.held = some reference → reference.raw = none
  counted : ∀ handle, deletionCount handle (log.flatMap Entry.exchanges) +
    holdings.ownerCount handle ≤ holdings.issueCount handle

theorem sound_start : Sound [] { } { } where
  unloaded := fun _ ↦ rfl
  numbered := by
    rintro id registration ⟨⟩
  trusts := by simp
  knows := by simp
  past := by simp
  kept := by simp
  spent := by simp
  counted := fun _ ↦ Nat.le_refl 0

theorem deletionCount_of_clean {exchanges : List (Exchange Attachments)}
    (hclean : deletions exchanges = []) (handle : Handle) : deletionCount handle exchanges = 0 := by
  rw [← deletionCount_deletions, hclean]
  rfl

omit [Host] in
theorem returned?_of_givenUp? {action : Action} (hgivenUp : action.givenUp? = none) :
    action.returned? = none := by
  cases action with
  | release | drop => cases hgivenUp
  | _ => rfl

omit [Host] in
/-- Only the owner of a reference may give it back. -/
theorem Action.Permitted.held {action : Action} {holdings : Holdings} {index : Nat}
    (hpermitted : action.Permitted holdings) (hreturned : action.returned? = some index) :
    (holdings.held? index).isSome := by
  cases action with
  | release | drop =>
    cases hreturned
    exact hpermitted
  | _ => cases hreturned

omit [Host] in
/-- Whatever is given back is given up. -/
theorem returned?_subset {action : Action} {index : Nat}
    (hreturned : action.returned? = some index) : action.givenUp? = some index := by
  cases action with
  | release | drop => exact hreturned
  | _ => cases hreturned

/-- One more entry in the log. -/
theorem flatMap_snoc (log : List Entry) (entry : Entry) :
    (log ++ [entry]).flatMap Entry.exchanges = log.flatMap Entry.exchanges ++ entry.exchanges := by
  simp

namespace Sound

variable {log : List Entry} {holdings holdings' : Holdings} {entry : Entry}

/-- An action by which no reference is given up leaves the owners alone. -/
theorem same (hsound : Sound log entry.first.bridge holdings)
    (hunloaded : entry.last.bridge.Unloaded)
    (hadvances : entry.first.bridge.Advances entry.last.bridge)
    (hclean : deletions entry.exchanges = []) (hgivenUp : entry.action.givenUp? = none)
    (hissues : holdings'.issues = holdings.issues)
    (henvs : ∀ env ∈ holdings'.envs, env ∈ holdings.envs ∨ entry.first.bridge.Trusts env) :
    Sound (log ++ [entry]) entry.last.bridge holdings' := by
  have hother : ∀ index, entry.action.givenUp? ≠ some index := by
    intro index hindex
    cases hgivenUp.symm.trans hindex
  refine ⟨hunloaded, hadvances.numbered hsound.numbered, ?_, ?_, ?_, ?_, ?_, ?_⟩
  · intro env hmem
    rcases henvs env hmem with hold | htrusts
    · exact hadvances.knows (hsound.trusts env hold)
    · exact hadvances.knows htrusts
  · intro issue hmem
    rw [hissues] at hmem
    exact ⟨hadvances.knows (hsound.knows issue hmem).1, (hsound.knows issue hmem).2⟩
  · intro old hmem index hindex
    rw [hissues]
    rcases List.mem_append.1 hmem with hmem | hmem
    · exact hsound.past old hmem index hindex
    · cases List.mem_singleton.1 hmem
      exact absurd hindex (hother index)
  · intro index issue hissue hnever
    rw [hissues] at hissue
    exact hsound.kept index issue hissue fun old hmem ↦ hnever old (List.mem_append_left _ hmem)
  · rintro index issue hissue ⟨old, hmem, hindex⟩
    rw [hissues] at hissue
    rcases List.mem_append.1 hmem with hmem | hmem
    · exact hsound.spent index issue hissue ⟨old, hmem, hindex⟩
    · cases List.mem_singleton.1 hmem
      exact absurd hindex (hother index)
  · intro handle
    rw [flatMap_snoc, deletionCount_append, deletionCount_of_clean hclean]
    unfold Holdings.ownerCount Holdings.issueCount
    rw [hissues]
    exact hsound.counted handle

/-- A reference that was just issued is known to be one of its machine. -/
theorem issued (hsound : Sound log entry.first.bridge holdings)
    (hunloaded : entry.last.bridge.Unloaded)
    (hadvances : entry.first.bridge.Advances entry.last.bridge)
    (hclean : deletions entry.exchanges = []) (hgivenUp : entry.action.givenUp? = none)
    {env : Env} {reference : GlobalReference} {handle : Handle} (henv : env ∈ holdings.envs)
    (hlifecycle : reference.lifecycle = env.lifecycle)
    (hgeneration : reference.generation = env.generation)
    (hraw : reference.raw = some handle) (hvm : handle.vm = env.pointer.vm) :
    Sound (log ++ [entry]) entry.last.bridge (holdings.issue env reference) := by
  have hsame : Sound (log ++ [entry]) entry.last.bridge holdings :=
    hsound.same hunloaded hadvances hclean hgivenUp rfl fun _ ↦ .inl
  have hlength : (holdings.issue env reference).issues.length = holdings.issues.length + 1 := by
    simp [Holdings.issue]
  refine ⟨hunloaded, hsame.numbered, hsame.trusts, ?_, ?_, ?_, ?_, ?_⟩
  · intro issue hmem
    rcases List.mem_append.1 hmem with hmem | hmem
    · exact hsame.knows issue hmem
    · cases List.mem_singleton.1 hmem
      have htrusts := hsame.trusts env henv
      rw [hlifecycle, hgeneration]
      exact ⟨htrusts, handle, hraw, hvm⟩
  · intro old hmem index hindex
    rw [hlength]
    exact Nat.lt_succ_of_lt (hsame.past old hmem index hindex)
  · intro index issue hissue hnever
    rcases eq_or_issue_of_getElem? hissue with hold | ⟨-, rfl⟩
    · exact hsame.kept index issue hold hnever
    · rfl
  · rintro index issue hissue ⟨old, hmem, hindex⟩
    rcases eq_or_issue_of_getElem? hissue with hold | ⟨rfl, -⟩
    · exact hsame.spent index issue hold ⟨old, hmem, hindex⟩
    · -- Whatever was given up so far has a smaller index than the new reference.
      exact absurd (hsame.past old hmem _ hindex) (Nat.lt_irrefl _)
  · intro other
    rw [ownerCount_issue, issueCount_issue, ← Nat.add_assoc]
    exact Nat.add_le_add_right (hsame.counted other) _

/-- Of a reference that was given up its owner keeps no handle. -/
theorem givenUp (hsound : Sound log entry.first.bridge holdings)
    (hunloaded : entry.last.bridge.Unloaded)
    (hadvances : entry.first.bridge.Advances entry.last.bridge) {index : Nat} {issue : Issue}
    {reference : GlobalReference} {left : Option GlobalReference}
    (hgivenUp : entry.action.givenUp? = some index)
    (hheld : holdings.held? index = some (issue, reference))
    (hleft : left = none ∨ left = some { reference with raw := none })
    (hcount : ∀ handle, deletionCount handle entry.exchanges ≤
      if reference.raw = some handle then 1 else 0) :
    Sound (log ++ [entry]) entry.last.bridge (holdings.keep index issue left) := by
  obtain ⟨hissue, hheldBy⟩ := held?_eq_some.1 hheld
  have hindex : index < holdings.issues.length := (List.getElem?_eq_some_iff.1 hissue).1
  have hraw : left.bind GlobalReference.raw = none := by
    rcases hleft with rfl | rfl
    · rfl
    · rfl
  refine ⟨hunloaded, hadvances.numbered hsound.numbered, ?_, ?_, ?_, ?_, ?_, ?_⟩
  · intro env hmem
    exact hadvances.knows (hsound.trusts env hmem)
  · intro kept hmem
    obtain ⟨known, hmem, hissued, hvm⟩ := exists_issue_of_keep hissue hmem
    rw [hissued, hvm]
    exact ⟨hadvances.knows (hsound.knows known hmem).1, (hsound.knows known hmem).2⟩
  · intro old hmem other hother
    rw [Holdings.keep, List.length_set]
    rcases List.mem_append.1 hmem with hmem | hmem
    · exact hsound.past old hmem other hother
    · cases List.mem_singleton.1 hmem
      cases hgivenUp.symm.trans hother
      exact hindex
  · intro other kept hother hnever
    rcases eq_or_keep_of_getElem? hindex hother with ⟨rfl, -⟩ | ⟨-, hold⟩
    · exact absurd hgivenUp (hnever entry (List.mem_append_right _ List.mem_cons_self))
    · exact hsound.kept other kept hold fun old hmem ↦ hnever old (List.mem_append_left _ hmem)
  · rintro other kept hother ⟨old, hmem, hold⟩ rest hrest
    rcases eq_or_keep_of_getElem? hindex hother with ⟨rfl, rfl⟩ | ⟨hne, hother⟩
    · rw [← hraw, show left = some rest from hrest, Option.bind_some]
    · rcases List.mem_append.1 hmem with hmem | hmem
      · exact hsound.spent other kept hother ⟨old, hmem, hold⟩ rest hrest
      · cases List.mem_singleton.1 hmem
        cases hgivenUp.symm.trans hold
        exact absurd rfl hne
  · intro handle
    have howners := ownerCount_keep hheld hraw handle
    calc
      deletionCount handle ((log ++ [entry]).flatMap Entry.exchanges) +
          (holdings.keep index issue left).ownerCount handle =
        deletionCount handle (log.flatMap Entry.exchanges) + deletionCount handle entry.exchanges +
          (holdings.keep index issue left).ownerCount handle := by
        rw [flatMap_snoc, deletionCount_append]
      _ ≤ deletionCount handle (log.flatMap Entry.exchanges) + holdings.ownerCount handle := by
        have hentry := hcount handle
        omega
      _ ≤ holdings.issueCount handle := hsound.counted handle
      _ = (holdings.keep index issue left).issueCount handle :=
        (issueCount_keep hissue left handle).symm

end Sound

/-- What an action does to the holdings keeps the log sound. -/
theorem Sound.changes {log : List Entry} {holdings holdings' : Holdings} {entry : Entry}
    (hsound : Sound log entry.first.bridge holdings)
    (hcarries : Carries entry.action holdings entry.first entry.exchanges holdings' entry.last)
    (hreturned : ∀ index issue reference, entry.action.returned? = some index →
      holdings.held? index = some (issue, reference) →
      Returned reference entry.thread entry.first entry.last entry.exchanges) :
    Sound (log ++ [entry]) entry.last.bridge holdings' := by
  obtain ⟨⟨hclean, hunloaded, hadvances⟩, hchanges⟩ := hcarries
  cases hchanges with
  | same hgivenUp hissues henvs =>
    exact hsound.same hunloaded hadvances (hclean (returned?_of_givenUp? hgivenUp)) hgivenUp hissues
      henvs
  | issued hgivenUp henv hlifecycle hgeneration hraw hvm =>
    exact hsound.issued hunloaded hadvances (hclean (returned?_of_givenUp? hgivenUp)) hgivenUp henv
      hlifecycle hgeneration hraw hvm
  | givenUp hgivenUp hheld hleft =>
    refine hsound.givenUp hunloaded hadvances hgivenUp hheld hleft fun handle ↦ ?_
    cases hback : entry.action.returned? with
    | none =>
      rw [deletionCount_of_clean (hclean hback)]
      exact Nat.zero_le _
    | some index =>
      cases (returned?_subset hback).symm.trans hgivenUp
      exact (hreturned _ _ _ hback hheld).count_le handle

/-- Every execution is sound. -/
theorem Execution.sound {log : List Entry} {bridge : Bridge} {holdings : Holdings}
    (hexecution : Execution log bridge holdings) : Sound log bridge holdings := by
  induction hexecution with
  | start => exact sound_start
  | @step log bridge holdings holdings' thread action outside exchanges last _ hpermitted hrun hlaw
      hsound =>
    let entry : Entry := ⟨thread, action, holdings, ⟨bridge, outside⟩, exchanges, last⟩
    refine @Sound.changes _ log holdings holdings' entry hsound ?_ ?_
    · exact ensures_program action hsound.unloaded hsound.numbered hpermitted _ _ _ hrun hlaw
    · intro index issue reference hreturned hheld
      exact ensures_returned hreturned hheld _ _ _ hrun hlaw

/-- What was done in one step of an execution. -/
theorem Execution.split {earlier later : List Entry} {entry : Entry} {bridge : Bridge}
    {holdings : Holdings} (hexecution : Execution (earlier ++ entry :: later) bridge holdings) :
    Execution earlier entry.first.bridge entry.holdings ∧
      entry.action.Permitted entry.holdings ∧
      (∃ holdings', (entry.action.program entry.holdings).Run entry.thread entry.first
        entry.exchanges holdings' entry.last) ∧
      ∀ exchange ∈ entry.exchanges, exchange.KeepsAttachments := by
  generalize hlog : earlier ++ entry :: later = log at hexecution
  induction hexecution generalizing later with
  | start => simp at hlog
  | @step log bridge holdings holdings' thread action outside exchanges last hbefore hpermitted hrun
      hlaw ih =>
    rcases List.eq_nil_or_concat later with rfl | ⟨front, final, rfl⟩
    · obtain ⟨rfl, hentry⟩ := List.append_inj' hlog rfl
      cases hentry
      exact ⟨hbefore, hpermitted, ⟨holdings', hrun⟩, hlaw⟩
    · rw [List.concat_eq_append, ← List.cons_append, ← List.append_assoc] at hlog
      exact ih (List.append_inj' hlog rfl).1

/-! ## Every reference is deleted once -/

/-- What the log shows of an owner who gives a reference back.  The deletion goes to the machine
that issued the reference, while it is registered under the same generation and through an
environment of the caller.  It happens if no one has given the reference up before and there is such
a machine and such an environment.  A thread that was not attached asks to be, unless the reference
was given up or its machine is gone, and is not attached afterwards, unless the machine refuses to
let go of it. -/
structure Entry.GivesBack (entry : Entry) (earlier : List Entry) (index : Nat) (issue : Issue)
    (handle : Handle) : Prop where
  valid : ∀ exchange ∈ deletions entry.exchanges, ∃ pointer,
    exchange.request = .env pointer (.deleteGlobalRef handle) ∧
      (exchange.before.bridge.registered? issue.issued.lifecycle issue.issued.generation).isSome ∧
      pointer.vm = issue.vm ∧
      exchange.before.outside issue.vm exchange.caller.id = some pointer.number
  once : (deletions entry.exchanges).length ≤ 1
  exactly : deletions entry.exchanges ≠ [] ↔
    (∀ old ∈ earlier, old.action.givenUp? ≠ some index) ∧
      (entry.first.bridge.registered? issue.issued.lifecycle issue.issued.generation).isSome ∧
      ((entry.first.outside issue.vm entry.thread.id).isSome ∨
        ∃ exchange ∈ entry.exchanges, exchange.Attaches issue.vm)
  asks : (∀ old ∈ earlier, old.action.givenUp? ≠ some index) →
    (entry.first.bridge.registered? issue.issued.lifecycle issue.issued.generation).isSome →
    entry.first.outside issue.vm entry.thread.id = none →
      ∃ exchange ∈ entry.exchanges, exchange.Seeks issue.vm
  detached : entry.first.outside issue.vm entry.thread.id = none →
    (∀ exchange ∈ entry.exchanges, ¬ exchange.FailsToDetach) →
    entry.last.outside issue.vm entry.thread.id = none ∧
      ∀ id, (entry.last.bridge.lifecycle id).attached = (entry.first.bridge.lifecycle id).attached

namespace Execution

variable {log earlier later : List Entry} {entry : Entry} {bridge : Bridge} {holdings : Holdings}

end Execution

/-! ## A reference that another thread releases -/

namespace Sample

/-- A machine that attaches and detaches whoever asks for it. -/
def attaching (caller : Nat) : Program.Machine Attachments
  | .getEnv vm _, before =>
    match before.outside vm caller with
    | some number => (.ok ⟨vm, number⟩, before)
    | none => (.error .threadDetached, before)
  | .attach vm _, before =>
    (.ok ⟨vm, caller⟩, ⟨before.bridge, before.outside.put vm caller (some caller)⟩)
  | .detach vm, before => (.ok (), ⟨before.bridge, before.outside.put vm caller none⟩)
  | .env pointer (.newGlobalRef _), before => (some ⟨pointer.vm, 7⟩, before)
  | request, before => (nothing request, before)

/-- How far an execution has come. -/
structure Stage where
  log : List Entry
  now : Moment Attachments
  holdings : Holdings

/-- One more action of a thread. -/
def Stage.act (stage : Stage) (thread : NativeThread) (action : Action) : Stage :=
  let played := (action.program stage.holdings).play (attaching thread.id) thread stage.now
  ⟨stage.log ++ [⟨thread, action, stage.holdings, stage.now, played.1, played.2.2⟩], played.2.2,
    played.2.1⟩

/-- Before anything was done. -/
def fresh : Stage := ⟨[], ⟨{ }, fun _ _ ↦ none⟩, { }⟩

/-- A thread that was never attached. -/
def stranger : NativeThread := { id := 1, name := none }

/-- The environment of a thread that adopts the machine and attaches itself. -/
def lender : Env := Env.of .shared ⟨vm, .v1_8, thread.id, false, 1⟩ ⟨vm, thread.id⟩

def attached : Stage :=
  (fresh.act thread (.adopt .shared (some vm) .v1_8)).act thread (.attach .shared { })

/-- The thread creates a global reference. -/
def lent : Stage := attached.act thread (.newGlobal lender (some ⟨vm, 3⟩))

/-- Another thread releases the reference before it is dropped. -/
def returned : Stage := (lent.act stranger (.release 0)).act thread (.drop 0)

end Sample

end JavaInterop
