import JavaInterop.Proofs.Environment.Operation
import JavaInterop.Proofs.Local.History
import Mathlib.Data.List.Induction

/-!
# Owners of local references

An owner who drops a local reference deletes it, if the machine is still registered under the
generation of the environment that the reference was made with.  Nobody else deletes it, and nobody
does so twice.  As long as the thread stays with the machine the reference is deleted during the
very stay in which it was made, through the environment that the thread has for that stay, and once
the machine has been forgotten nothing is deleted any more.

A thread that has been detached meanwhile is not noticed: its references are deleted all the same.
-/

namespace JavaInterop

variable [Host]

namespace Page

/-- An environment was obtained. -/
def Obtains (page : Page) (env : Env) : Prop :=
  page.after.envs = (page.thread.id, env) :: page.before.envs

/-- A reference was made. -/
def Makes (page : Page) (index : Nat) (reference : LocalReference) : Prop :=
  page.before.locals.length = index ∧
    page.after.locals = page.before.locals ++ [⟨page.thread.id, reference, true⟩]

/-- What is known of each page. -/
structure Proper (page : Page) : Prop where
  permitted : page.doing.Permitted page.thread page.before
  run : (page.doing.program page.before).Run page.thread page.first page.exchanges page.after
    page.last
  keeps : ∀ exchange ∈ page.exchanges, exchange.KeepsStays
  unloaded : page.first.bridge.Unloaded
  numbered : page.first.bridge.Numbered

namespace Proper

variable {page : Page}

theorem alters (hproper : page.Proper) :
    Alters page.doing page.thread page.last page.before page.after :=
  ensures_alters hproper.permitted hproper.unloaded hproper.numbered _ _ _ hproper.run hproper.keeps

theorem follows (hproper : page.Proper) :
    page.last.bridge.Unloaded ∧ page.first.bridge.Advances page.last.bridge := by
  have htame : Tame true (page.doing.program page.before) := .doing page.before page.doing
  have hseen := htame page.thread (page.first.onto Stays.attachments) hproper.unloaded
  exact (hseen.onto (fun _ ↦ Exchange.KeepsStays.attachments) _ _ _ hproper.run hproper.keeps).2

/-- Whoever has obtained an environment has a stay with it. -/
theorem grants (hproper : page.Proper) {env : Env} (hobtains : page.Obtains env) :
    page.last.Grants page.thread.id env := by
  have hobtains : page.after.envs = (page.thread.id, env) :: page.before.envs := hobtains
  cases hproper.alters with
  | obtained _ henvs _ hgrants =>
    cases (List.cons.inj (henvs.symm.trans hobtains)).1
    exact hgrants
  | same _ henvs | made _ henvs | givenUp _ henvs =>
    exact absurd (hobtains.symm.trans henvs) (List.cons_ne_self _ _)

/-- A machine that was to be forgotten is not registered any more. -/
theorem forgets (hproper : page.Proper) {id : LifecycleId} (hforgets : page.doing.Forgets id) :
    (page.last.bridge.lifecycle id).registration = none :=
  ensures_forgets hforgets _ _ _ hproper.run hproper.keeps

end Proper

end Page

/-! ## All that was done -/

/-- What holds after any history.  Environments were obtained and references made at some time, and
what was given up is not owned any more. -/
structure Kept (pages : List Page) (now : Moment Stays) (belongings : Belongings) : Prop where
  unloaded : now.bridge.Unloaded
  numbered : now.bridge.Numbered
  obtained : ∀ thread env, (thread, env) ∈ belongings.envs →
    ∃ page ∈ pages, page.thread.id = thread ∧ page.Obtains env
  made : ∀ index held, belongings.locals[index]? = some held →
    ∃ page ∈ pages, page.thread.id = held.thread ∧ page.Makes index held.reference ∧
      (held.thread, held.reference.env) ∈ page.before.envs
  spent : ∀ page ∈ pages, ∀ index, page.doing.givenUp? = some index →
    ∃ held, belongings.locals[index]? = some held ∧ held.owned = false

theorem kept_start (stays : Stays) : Kept [] ⟨{ }, stays⟩ { } where
  unloaded := fun _ ↦ rfl
  numbered := by
    rintro id registration ⟨⟩
  obtained := by simp
  made := by simp
  spent := by simp

namespace Kept

variable {pages : List Page} {page : Page}

/-- What was obtained earlier is not lost, and what was obtained now is on the last page. -/
theorem obtained_step (hkept : Kept pages page.first page.before) (hproper : page.Proper)
    (thread : Nat) (env : Env) (hmem : (thread, env) ∈ page.after.envs) :
    ∃ old ∈ pages ++ [page], old.thread.id = thread ∧ old.Obtains env := by
  have hearlier : (thread, env) ∈ page.before.envs →
      ∃ old ∈ pages ++ [page], old.thread.id = thread ∧ old.Obtains env := by
    intro hmem
    obtain ⟨old, hold, hobtains⟩ := hkept.obtained thread env hmem
    exact ⟨old, List.mem_append_left _ hold, hobtains⟩
  cases hproper.alters with
  | obtained _ henvs =>
    rw [henvs] at hmem
    rcases List.mem_cons.1 hmem with hnew | hmem
    · cases hnew
      exact ⟨page, List.mem_append_right _ List.mem_cons_self, rfl, henvs⟩
    · exact hearlier hmem
  | same _ henvs | made _ henvs | givenUp _ henvs =>
    rw [henvs] at hmem
    exact hearlier hmem

/-- What was made earlier is not lost, and what was made now is on the last page. -/
theorem made_step (hkept : Kept pages page.first page.before) (hproper : page.Proper)
    (index : Nat) (held : HeldLocal) (hheld : page.after.locals[index]? = some held) :
    ∃ old ∈ pages ++ [page], old.thread.id = held.thread ∧ old.Makes index held.reference ∧
      (held.thread, held.reference.env) ∈ old.before.envs := by
  have hearlier : ∀ known, page.before.locals[index]? = some known →
      ∃ old ∈ pages ++ [page], old.thread.id = known.thread ∧ old.Makes index known.reference ∧
        (known.thread, known.reference.env) ∈ old.before.envs := by
    intro known hknown
    obtain ⟨old, hold, hmakes⟩ := hkept.made index known hknown
    exact ⟨old, List.mem_append_left _ hold, hmakes⟩
  cases hproper.alters with
  | same _ _ hlocals | obtained _ _ hlocals => exact hearlier held (hlocals ▸ hheld)
  | made _ _ hlocals hobtained =>
    rw [hlocals] at hheld
    rcases Nat.lt_or_ge index page.before.locals.length with hlt | hge
    · rw [List.getElem?_append_left hlt] at hheld
      exact hearlier held hheld
    · rw [List.getElem?_append_right hge] at hheld
      obtain ⟨hzero, hnew⟩ := Option.ite_none_right_eq_some.1 (List.getElem?_singleton ▸ hheld)
      cases hnew
      have hindex : page.before.locals.length = index :=
        Nat.le_antisymm hge (Nat.le_of_sub_eq_zero hzero)
      exact ⟨page, List.mem_append_right _ List.mem_cons_self, rfl, ⟨hindex, hlocals⟩, hobtained⟩
  | @givenUp given known _ _ hlocals howned =>
    rw [hlocals, List.getElem?_set] at hheld
    split at hheld
    · rename_i hindex
      subst hindex
      obtain ⟨-, hsame⟩ := Option.ite_none_right_eq_some.1 hheld
      cases hsame
      exact hearlier known (Belongings.owned?_eq_some.1 howned).1
    · exact hearlier held hheld

/-- Nobody gets back what was given up. -/
theorem spent_of_spent (hproper : page.Proper) {index : Nat} {held : HeldLocal}
    (hheld : page.before.locals[index]? = some held) (hspent : held.owned = false) :
    ∃ held, page.after.locals[index]? = some held ∧ held.owned = false := by
  obtain ⟨hlt, -⟩ := List.getElem?_eq_some_iff.1 hheld
  cases hproper.alters with
  | same _ _ hlocals | obtained _ _ hlocals => exact ⟨held, hlocals ▸ hheld, hspent⟩
  | made _ _ hlocals => exact ⟨held, by rw [hlocals, List.getElem?_append_left hlt, hheld], hspent⟩
  | @givenUp given known _ _ hlocals =>
    rw [hlocals]
    by_cases hindex : given = index
    · subst hindex
      exact ⟨{ known with owned := false }, List.getElem?_set_self hlt, rfl⟩
    · exact ⟨held, by rw [List.getElem?_set_ne hindex, hheld], hspent⟩

/-- What is given up is not owned any more. -/
theorem spent_step (hkept : Kept pages page.first page.before) (hproper : page.Proper)
    (old : Page) (hold : old ∈ pages ++ [page]) (index : Nat)
    (hgivenUp : old.doing.givenUp? = some index) :
    ∃ held, page.after.locals[index]? = some held ∧ held.owned = false := by
  rcases List.mem_append.1 hold with hold | hold
  · obtain ⟨held, hheld, hspent⟩ := hkept.spent old hold index hgivenUp
    exact spent_of_spent hproper hheld hspent
  · cases List.mem_singleton.1 hold
    cases hproper.alters with
    | same hnothing | obtained hnothing | made hnothing => cases hnothing.symm.trans hgivenUp
    | @givenUp given known hgiven _ hlocals howned =>
      cases hgiven.symm.trans hgivenUp
      obtain ⟨hlt, -⟩ := List.getElem?_eq_some_iff.1 (Belongings.owned?_eq_some.1 howned).1
      refine ⟨{ known with owned := false }, ?_, rfl⟩
      rw [hlocals, List.getElem?_set_self hlt]

/-- One more page. -/
theorem step (hkept : Kept pages page.first page.before) (hproper : page.Proper) :
    Kept (pages ++ [page]) page.last page.after where
  unloaded := hproper.follows.1
  numbered := hproper.follows.2.numbered hkept.numbered
  obtained := hkept.obtained_step hproper
  made := hkept.made_step hproper
  spent := hkept.spent_step hproper

end Kept

namespace LocalHistory

variable {pages earlier later : List Page} {page : Page} {now : Moment Stays}
  {belongings : Belongings}

/-- Every history keeps these. -/
theorem kept (hhistory : LocalHistory pages now belongings) : Kept pages now belongings := by
  induction hhistory with
  | start stays => exact kept_start stays
  | @step pages now last belongings after thread doing exchanges _ hpermitted hrun hkeeps ih =>
    let page : Page := ⟨thread, doing, belongings, after, now, exchanges, last⟩
    have hkept : Kept pages page.first page.before := ih
    exact hkept.step ⟨hpermitted, hrun, hkeeps, ih.unloaded, ih.numbered⟩

/-- The last page of a history. -/
theorem undo (hhistory : LocalHistory (pages ++ [page]) now belongings) :
    LocalHistory pages page.first page.before ∧ page.Proper ∧ page.last = now := by
  generalize hpages : pages ++ [page] = all at hhistory
  cases hhistory with
  | start => simp at hpages
  | step hbefore hpermitted hrun hkeeps =>
    obtain ⟨rfl, hpage⟩ := List.append_inj' hpages rfl
    cases hpage
    exact ⟨hbefore, ⟨hpermitted, hrun, hkeeps, hbefore.kept.unloaded, hbefore.kept.numbered⟩, rfl⟩

/-- What was done on one page of a history. -/
theorem split (hhistory : LocalHistory (earlier ++ page :: later) now belongings) :
    LocalHistory earlier page.first page.before ∧ page.Proper := by
  induction later using List.reverseRecOn generalizing now belongings with
  | nil => exact ⟨hhistory.undo.1, hhistory.undo.2.1⟩
  | append_singleton front final ih =>
    rw [← List.cons_append, ← List.append_assoc] at hhistory
    exact ih hhistory.undo.1

/-- What is true after one page and lasts over each later one is true all the time. -/
theorem lasts (hhistory : LocalHistory (earlier ++ page :: later) now belongings)
    (holds : Moment Stays → Prop) (hpage : holds page.last)
    (hlater : ∀ old ∈ later, old.Proper → holds old.first → holds old.last) :
    holds now ∧ ∀ old ∈ later, holds old.first ∧ holds old.last := by
  induction later using List.reverseRecOn generalizing now belongings with
  | nil => exact ⟨hhistory.undo.2.2 ▸ hpage, by simp⟩
  | append_singleton front final ih =>
    rw [← List.cons_append, ← List.append_assoc] at hhistory
    obtain ⟨hbefore, hproper, hnow⟩ := hhistory.undo
    obtain ⟨hfirst, hbetween⟩ :=
      ih hbefore fun old hold ↦ hlater old (List.mem_append_left _ hold)
    have hlast := hlater final (List.mem_append_right _ List.mem_cons_self) hproper hfirst
    refine ⟨hnow ▸ hlast, fun old hold ↦ ?_⟩
    rcases List.mem_append.1 hold with hold | hold
    · exact hbetween old hold
    · cases List.mem_singleton.1 hold
      exact ⟨hfirst, hlast⟩

end LocalHistory

/-! ## The end of a machine -/

namespace LocalHistory

variable {pages earlier later : List Page} {page : Page} {now : Moment Stays}
  {belongings : Belongings}

/-- Once its machine has been forgotten the generation of an environment is over. -/
theorem past (hhistory : LocalHistory (earlier ++ page :: later) now belongings) {env : Env}
    (hobtains : page.Obtains env) (hforgets : ∃ old ∈ later, old.doing.Forgets env.lifecycle) :
    now.bridge.Past env.lifecycle env.generation := by
  obtain ⟨old, hold, hforgets⟩ := hforgets
  -- The generation was given away when the environment was obtained.
  have hgiven := (hhistory.lasts
    (fun moment ↦ env.generation < moment.bridge.nextGeneration)
    (hhistory.split.2.grants hobtains).given fun other _ hproper hgiven ↦
      Nat.lt_of_lt_of_le hgiven hproper.follows.2.generation).2 old hold
  obtain ⟨front, rest, rfl⟩ := List.append_of_mem hold
  have hregrouped : LocalHistory ((earlier ++ page :: front) ++ old :: rest) now belongings := by
    rw [List.append_assoc, List.cons_append]
    exact hhistory
  have hvacant := hregrouped.split.2.forgets hforgets
  exact (hregrouped.lasts
    (fun moment ↦ moment.bridge.Past env.lifecycle env.generation)
    (Bridge.past_of_vacant hgiven.2 hvacant) fun other _ hproper hpast ↦
      hproper.follows.2.past hpast).1

end LocalHistory

/-! ## Every reference is deleted once -/

omit [Host] in
theorem Doing.eq_drop_of_dropped? {doing : Doing} {index : Nat}
    (hdropped : doing.dropped? = some index) : doing = .drop index := by
  cases doing with
  | drop =>
    cases hdropped
    rfl
  | _ => cases hdropped

/-- A reference to a machine that is gone is not deleted any more. -/
theorem LocalReference.deletion_of_past (reference : LocalReference) {bridge : Bridge}
    (hpast : bridge.Past reference.env.lifecycle reference.env.generation) :
    reference.deletion bridge = [] := by
  unfold deletion
  rw [hpast.gone]
  cases reference.raw with
  | none => rfl
  | some handle => rfl

theorem LocalReference.length_deletion_le (reference : LocalReference) (bridge : Bridge) :
    (reference.deletion bridge).length ≤ 1 := by
  unfold deletion
  split
  · split
    · exact Nat.le_refl 1
    · exact Nat.zero_le 1
  · exact Nat.zero_le 1

namespace Page

/-- The deletions of local references on a page. -/
def localDeletions (page : Page) : List (Exchange Stays) :=
  page.exchanges.filter fun exchange ↦ exchange.request.deletedLocal?.isSome

/-- The deletions of one reference by its owner. -/
def localDeletionsOf (index : Nat) (page : Page) : List (Exchange Stays) :=
  if page.doing.dropped? = some index then page.localDeletions else []

/-- The thread stays with a machine as long as these pages last. -/
def Remains (pages : List Page) (vm : VmId) (thread : Nat) : Prop :=
  ∀ page ∈ pages, ∀ exchange ∈ page.exchanges, ¬ exchange.Parts vm thread

/-- What the history shows of an owner who drops a local reference.  The reference was made with an
environment of the same thread, and nobody has given it up before.  The deletion is the only call,
and it is made if the machine is still registered under the generation of the environment.  So there
is none once the machine has been forgotten.  If the thread has remained attached since it obtained
the environment, the reference was made and is deleted during one stay, whose environment it is. -/
structure Drops (page : Page) (earlier : List Page) (index : Nat) (held : HeldLocal) : Prop where
  owner : held.owned = true ∧ held.thread = page.thread.id
  never : ∀ old ∈ earlier, old.doing.givenUp? ≠ some index
  calls : page.exchanges.map Exchange.request = held.reference.deletion page.first.bridge
  now : ∀ exchange ∈ page.exchanges, exchange.caller = page.thread ∧ exchange.before = page.first
  origin : ∃ before obtained between made after,
    earlier = before ++ obtained :: (between ++ made :: after) ∧
      obtained.thread.id = held.thread ∧ obtained.Obtains held.reference.env ∧
      made.thread.id = held.thread ∧ made.Makes index held.reference
  ended : ∀ before obtained after, earlier = before ++ obtained :: after →
    obtained.Obtains held.reference.env →
    (∃ old ∈ after, old.doing.Forgets held.reference.env.lifecycle) → page.exchanges = []
  stay : ∀ before obtained after, earlier = before ++ obtained :: after →
    obtained.thread.id = held.thread → obtained.Obtains held.reference.env →
    Remains after held.reference.env.pointer.vm held.thread →
    ∃ stay : Stay, stay.number = held.reference.env.pointer.number ∧
      (∀ old ∈ after,
        old.first.outside.stay held.reference.env.pointer.vm held.thread = some stay ∧
        old.last.outside.stay held.reference.env.pointer.vm held.thread = some stay) ∧
      page.first.outside.stay held.reference.env.pointer.vm held.thread = some stay

end Page

namespace LocalHistory

variable {pages earlier later : List Page} {page : Page} {now : Moment Stays}
  {belongings : Belongings}

/-- A reference was made with an environment that its thread had obtained before. -/
theorem provenance (hhistory : LocalHistory pages now belongings) {index : Nat} {held : HeldLocal}
    (hheld : belongings.locals[index]? = some held) :
    ∃ before obtained between made after,
      pages = before ++ obtained :: (between ++ made :: after) ∧
        obtained.thread.id = held.thread ∧ obtained.Obtains held.reference.env ∧
        made.thread.id = held.thread ∧ made.Makes index held.reference := by
  obtain ⟨made, hmade, hthread, hmakes, henv⟩ := hhistory.kept.made index held hheld
  obtain ⟨front, after, rfl⟩ := List.append_of_mem hmade
  obtain ⟨obtained, hobtained, hsame, hobtains⟩ := hhistory.split.1.kept.obtained _ _ henv
  obtain ⟨before, between, rfl⟩ := List.append_of_mem hobtained
  refine ⟨before, obtained, between, made, after, ?_, hsame, hobtains, hthread, hmakes⟩
  rw [List.append_assoc, List.cons_append]

/-- A thread that remains attached has the stay of its environment all the time. -/
theorem remains (hhistory : LocalHistory (earlier ++ page :: later) now belongings) {env : Env}
    (hobtains : page.Obtains env)
    (hremains : Page.Remains later env.pointer.vm page.thread.id) :
    ∃ stay : Stay, stay.number = env.pointer.number ∧
      (∀ old ∈ later,
        old.first.outside.stay env.pointer.vm page.thread.id = some stay ∧
        old.last.outside.stay env.pointer.vm page.thread.id = some stay) ∧
      now.outside.stay env.pointer.vm page.thread.id = some stay := by
  obtain ⟨stay, hstay, hnumber⟩ := (hhistory.split.2.grants hobtains).stays
  obtain ⟨hlast, hbetween⟩ := hhistory.lasts
    (fun moment ↦ moment.outside.stay env.pointer.vm page.thread.id = some stay) hstay
    fun old hold hproper hstay ↦ hproper.run.lasts hproper.keeps (hremains old hold) hstay
  exact ⟨stay, hnumber, hbetween, hlast⟩

/-- Whoever drops a reference owns it. -/
theorem drops (hhistory : LocalHistory (earlier ++ page :: later) now belongings) {index : Nat}
    (hdropped : page.doing.dropped? = some index) :
    ∃ held, page.before.locals[index]? = some held ∧ page.Drops earlier index held := by
  obtain ⟨hbefore, hproper⟩ := hhistory.split
  have hpermitted := hproper.permitted
  have hrun := hproper.run
  rw [Doing.eq_drop_of_dropped? hdropped] at hpermitted hrun
  obtain ⟨held, howned⟩ := Option.isSome_iff_exists.1 hpermitted
  obtain ⟨hheld, howner⟩ := Belongings.owned?_eq_some.1 howned
  obtain ⟨hcalls, hnow⟩ := ensures_drop howned _ _ _ hrun hproper.keeps
  refine ⟨held, hheld, howner, ?_, hcalls, ?_, hbefore.provenance hheld, ?_, ?_⟩
  · intro old hold hgivenUp
    obtain ⟨other, hother, hspent⟩ := hbefore.kept.spent old hold index hgivenUp
    cases hheld.symm.trans hother
    cases howner.1.symm.trans hspent
  · exact fun exchange hmem ↦ ⟨hrun.caller hmem, hnow exchange hmem⟩
  · rintro before obtained after rfl hobtains hforgets
    have hnone := held.reference.deletion_of_past (hbefore.past hobtains hforgets)
    exact List.map_eq_nil_iff.1 (hcalls.trans hnone)
  · rintro before obtained after rfl hthread hobtains hremains
    rw [← hthread] at hremains ⊢
    exact hbefore.remains hobtains hremains

/-- Nothing is deleted unless a reference is dropped. -/
theorem localDeletions_eq_nil (hhistory : LocalHistory (earlier ++ page :: later) now belongings)
    (hdropped : page.doing.dropped? = none) : page.localDeletions = [] := by
  refine List.filter_eq_nil_iff.2 fun exchange hmem ↦ ?_
  have hnone : exchange.request.deletedLocal? = none :=
    hhistory.split.2.run.calls (Doing.calls hdropped) hmem
  simp [hnone]

/-- No reference is deleted twice. -/
theorem localDeletionsOf_le_one (hhistory : LocalHistory pages now belongings) (index : Nat) :
    (pages.flatMap (Page.localDeletionsOf index)).length ≤ 1 := by
  induction hhistory with
  | start => exact Nat.zero_le 1
  | @step pages now last belongings after thread doing exchanges hbefore hpermitted hrun hkeeps
      ih =>
    have hafter := LocalHistory.step hbefore hpermitted hrun hkeeps
    generalize hpage : (⟨thread, doing, belongings, after, now, exchanges, last⟩ : Page) = page
      at hafter ⊢
    rw [List.flatMap_append, List.flatMap_singleton, List.length_append]
    by_cases hdropped : page.doing.dropped? = some index
    · -- Whoever drops the reference now shows that it was not given up on an earlier page.
      obtain ⟨held, -, hdrops⟩ := hafter.drops hdropped
      have hearlier : pages.flatMap (Page.localDeletionsOf index) = [] := by
        refine List.flatMap_eq_nil_iff.2 fun old hold ↦ if_neg fun hother ↦ ?_
        exact hdrops.never old hold (congrArg Doing.givenUp? (Doing.eq_drop_of_dropped? hother))
      rw [hearlier, List.length_nil, Nat.zero_add, Page.localDeletionsOf, if_pos hdropped]
      calc
        page.localDeletions.length ≤ page.exchanges.length := List.length_filter_le _ _
        _ = (held.reference.deletion page.first.bridge).length := by
          rw [← hdrops.calls, List.length_map]
        _ ≤ 1 := held.reference.length_deletion_le _
    · rw [Page.localDeletionsOf, if_neg hdropped]
      exact ih

/-- However the threads create and forget machines, attach, detach, exit, make local references and
give them up, each reference is deleted at most once and only by its owner, who drops it.  It is
deleted if its machine is still registered.  Then its thread has the very stay in which it was made,
if it has remained attached. -/
theorem deletes_locals (hhistory : LocalHistory pages now belongings) :
    (∀ index, (pages.flatMap (Page.localDeletionsOf index)).length ≤ 1) ∧
    ∀ earlier page later, pages = earlier ++ page :: later →
      (page.doing.dropped? = none → page.localDeletions = []) ∧
      ∀ index, page.doing.dropped? = some index →
        ∃ held, page.before.locals[index]? = some held ∧ page.Drops earlier index held := by
  refine ⟨hhistory.localDeletionsOf_le_one, ?_⟩
  rintro earlier page later rfl
  exact ⟨hhistory.localDeletions_eq_nil, fun index ↦ hhistory.drops⟩

end LocalHistory

/-! ## References that outlive the attachment of their thread -/

namespace Sample

/-- A machine that attaches and detaches whoever asks for it.  No two stays have the same number. -/
def housing (caller : Nat) : Program.Machine Stays
  | .getEnv vm _, before =>
    match before.outside.stay vm caller with
    | some stay => (.ok ⟨vm, stay.number⟩, before)
    | none => (.error .threadDetached, before)
  | .attach vm _, before =>
    match before.outside.stay vm caller with
    | some stay => (.ok ⟨vm, stay.number⟩, before)
    | none =>
      (.ok ⟨vm, before.outside.drawn⟩,
        ⟨before.bridge, before.outside.begin vm caller before.outside.drawn⟩)
  | .detach vm, before => (.ok (), ⟨before.bridge, before.outside.finish vm caller⟩)
  | .env pointer (.newLocalRef _), before => (some ⟨pointer.vm, 7⟩, before)
  | request, before => (nothing request, before)

theorem keepsStays_housing (thread : NativeThread) (request : Call) (before : Moment Stays) :
    Exchange.KeepsStays ⟨thread, request, (housing thread.id request before).1, before,
      (housing thread.id request before).2⟩ := by
  cases request with
  | getEnv vm version =>
    cases hstay : before.outside.stay vm thread.id with
    | none => constructor <;> simp [housing, StayLaw, hstay]
    | some stay => constructor <;> simp [housing, StayLaw, hstay]
  | attach vm request =>
    cases hstay : before.outside.stay vm thread.id with
    | none => constructor <;> simp [housing, StayLaw, hstay]
    | some stay => constructor <;> simp [housing, StayLaw, hstay]
  | detach vm => exact ⟨rfl, fun _ ↦ rfl, by rintro _ ⟨⟩⟩
  | create arguments => exact ⟨rfl, .inl rfl⟩
  | list room => exact ⟨rfl, rfl⟩
  | destroy vm => exact ⟨rfl, rfl, fun _ _ ↦ .inl rfl⟩
  | env pointer function =>
    cases function with
    | newLocalRef object => exact ⟨rfl, rfl, by rintro handle ⟨rfl⟩; rfl⟩
    | _ => exact ⟨rfl, rfl, by rintro handle ⟨⟩⟩

/-- How far a history has come. -/
structure Volume where
  pages : List Page
  now : Moment Stays
  belongings : Belongings

/-- One more doing of the thread. -/
def Volume.write (volume : Volume) (doing : Doing) : Volume :=
  let played := (doing.program volume.belongings).play (housing thread.id) thread volume.now
  ⟨volume.pages ++ [⟨thread, doing, volume.belongings, played.2.1, volume.now, played.1,
    played.2.2⟩], played.2.2, played.2.1⟩

theorem Volume.history_write {volume : Volume} (doing : Doing)
    (hvolume : LocalHistory volume.pages volume.now volume.belongings)
    (hpermitted : doing.Permitted thread volume.belongings) :
    LocalHistory (volume.write doing).pages (volume.write doing).now
      (volume.write doing).belongings :=
  .step hvolume hpermitted (Program.run_play _ _)
    (Program.lawful_play _ (keepsStays_housing thread))

/-- Before anything was done. -/
def unwritten : Volume := ⟨[], ⟨{ }, { }⟩, { }⟩

/-- The environment of the thread during its first stay. -/
def tenant : Env := Env.of .shared ⟨vm, .v1_8, thread.id, false, 1⟩ ⟨vm, 0⟩

/-- The thread adopts the machine, attaches itself and makes a local reference. -/
def housed : Volume :=
  ((unwritten.write (.take .shared (.adopt vm .v1_8))).write (.attach .shared { })).write
    (.newLocal tenant (some ⟨vm, 3⟩))

omit [Host] in
theorem history_housed :
    let _ := host
    LocalHistory housed.pages housed.now housed.belongings := by
  intro _
  have hattached : (thread.id, tenant) ∈ ((unwritten.write (.take .shared (.adopt vm .v1_8))).write
      (.attach .shared { })).belongings.envs := by
    decide +kernel
  have hstart : LocalHistory unwritten.pages unwritten.now unwritten.belongings := .start _
  have hadopted := Volume.history_write (.take .shared (.adopt vm .v1_8)) hstart trivial
  have hlodged := Volume.history_write (.attach .shared { }) hadopted trivial
  exact Volume.history_write (.newLocal tenant (some ⟨vm, 3⟩)) hlodged hattached

/-- The reference is dropped and another one is made. -/
def relet : Volume := (housed.write (.drop 0)).write (.newLocal tenant (some ⟨vm, 3⟩))

/-- The machine is forgotten before that one is dropped. -/
def moved : Volume := (relet.write (.take .shared .reset)).write (.drop 1)

omit [Host] in
theorem history_relet :
    let _ := host
    LocalHistory relet.pages relet.now relet.belongings := by
  intro _
  have hfirst : (housed.belongings.owned? thread 0).isSome := by decide +kernel
  have henv : (thread.id, tenant) ∈ (housed.write (.drop 0)).belongings.envs := by decide +kernel
  exact Volume.history_write (.newLocal tenant (some ⟨vm, 3⟩))
    (Volume.history_write (.drop 0) history_housed hfirst) henv

omit [Host] in
theorem history_moved :
    let _ := host
    LocalHistory moved.pages moved.now moved.belongings := by
  intro _
  have howned : ((relet.write (.take .shared .reset)).belongings.owned? thread 1).isSome := by
    decide +kernel
  exact Volume.history_write (.drop 1)
    (Volume.history_write (.take .shared .reset) history_relet trivial) howned

/-- The thread is detached before the reference is dropped. -/
def evicted : Volume := housed.write (.detach .shared)

/-- The thread is attached again before the reference is dropped. -/
def readmitted : Volume := evicted.write (.attach .shared { })

end Sample

omit [Host] in
/-- A reference that is dropped while its machine is registered is deleted once. -/
theorem LocalHistory.deletes_locals_moved :
    let _ := Sample.host
    ∃ (pages : List Page) (now : Moment Stays) (belongings : Belongings),
      LocalHistory pages now belongings ∧
        (pages.flatMap (Page.localDeletionsOf 0)).length = 1 ∧
        (pages.flatMap (Page.localDeletionsOf 1)).length = 0 := by
  intro _
  have hdeleted : 1 ≤ (Sample.moved.pages.flatMap (Page.localDeletionsOf 0)).length := by
    decide +kernel
  have hkept : (Sample.moved.pages.flatMap (Page.localDeletionsOf 1)).length = 0 := by
    decide +kernel
  have honce := Sample.history_moved.deletes_locals.1 0
  exact ⟨_, _, _, Sample.history_moved, Nat.le_antisymm honce hdeleted, hkept⟩

omit [Host] in
/-- A reference is deleted although its thread is not attached any more, and although the thread has
meanwhile begun another stay with another environment. -/
theorem LocalHistory.deletes_after_detach :
    let _ := Sample.host
    (∃ (pages : List Page) (now : Moment Stays) (belongings : Belongings),
      LocalHistory pages now belongings ∧ ∃ page ∈ pages, ∃ exchange ∈ page.localDeletions,
        exchange.request = .env Sample.tenant.pointer (.deleteLocalRef ⟨Sample.vm, 7⟩) ∧
          exchange.before.outside.stay Sample.vm Sample.thread.id = none) ∧
    ∃ (pages : List Page) (now : Moment Stays) (belongings : Belongings),
      LocalHistory pages now belongings ∧ ∃ page ∈ pages, ∃ exchange ∈ page.localDeletions,
        exchange.request = .env Sample.tenant.pointer (.deleteLocalRef ⟨Sample.vm, 7⟩) ∧
          exchange.before.outside.stay Sample.vm Sample.thread.id = some ⟨1, 1⟩ ∧
          Sample.tenant.pointer.number = 0 := by
  intro _
  have hevicted : (Sample.evicted.belongings.owned? Sample.thread 0).isSome := by decide +kernel
  have hreadmitted : (Sample.readmitted.belongings.owned? Sample.thread 0).isSome := by
    decide +kernel
  have hdetached : LocalHistory Sample.evicted.pages Sample.evicted.now Sample.evicted.belongings :=
    Sample.Volume.history_write (.detach .shared) Sample.history_housed trivial
  have hattached :
      LocalHistory Sample.readmitted.pages Sample.readmitted.now Sample.readmitted.belongings :=
    Sample.Volume.history_write (.attach .shared { }) hdetached trivial
  constructor
  · refine ⟨_, _, _, Sample.Volume.history_write (.drop 0) hdetached hevicted, ?_⟩
    decide +kernel
  · refine ⟨_, _, _, Sample.Volume.history_write (.drop 0) hattached hreadmitted, ?_⟩
    decide +kernel

end JavaInterop
