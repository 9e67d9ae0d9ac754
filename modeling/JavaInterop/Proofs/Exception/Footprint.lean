import JavaInterop.Proofs.Interface.Ledger
import JavaInterop.Proofs.Program.Throughout
import Mathlib.Algebra.Order.Group.Multiset

/-!
# The footprint of a catch

While a thrown object is inspected, native code holds local references and now and then a string
buffer.  The table of local references is small, so it counts how many are held at once.  This is
said here by a *footprint*: one place for each thing that the inspection can hold, so that a full
footprint is a bound.  Each call moves the footprint on, and the walk up the classes only ever moves
the reference to the superclass down to the place of the current class.

Nothing is assumed about the answers of the machine.  References are given back as long as the
registration of the environment is there; afterwards they are left where they are, and count as
strays.
-/

namespace JavaInterop

/-! ## What is held -/

namespace Resource

/-- Local references fill a table of their own, and a buffer is not a reference. -/
inductive Kind where
  | localReference
  | globalReference
  | characters
deriving DecidableEq

def kind : Resource → Kind
  | localReference _ => .localReference
  | globalReference _ => .globalReference
  | characters _ => .characters

/-- How many things of a kind there are. -/
def tally (kind : Kind) (held : Multiset Resource) : Nat :=
  held.countP fun resource ↦ resource.kind = kind

variable {kind other : Kind} {held more : Multiset Resource}

theorem tally_add : tally kind (held + more) = tally kind held + tally kind more :=
  Multiset.countP_add _ _ _

theorem tally_of_ne (hheld : ∀ resource ∈ held, resource.kind = other) (hne : other ≠ kind) :
    tally kind held = 0 := by
  apply Multiset.countP_eq_zero.2
  intro resource hmem
  rw [hheld resource hmem]
  exact hne

end Resource

open Resource (tally)

/-- The buffer of a string, if there is one. -/
def bufferShare (string : Option Handle) : Multiset Resource :=
  string.elim 0 fun string ↦ {.characters string}

/-- What is held after a call, if so much was held before. -/
def settle (held : Multiset Resource) : Talk → Multiset Resource
  | ⟨.env _ function, reply⟩ => function.brought reply + function.returned.elim held held.erase
  | _ => held

/-- What was handed out in some calls and not given back in later ones. -/
def holding (past : List Talk) : Multiset Resource := past.foldl settle 0

theorem holding_snoc (past : List Talk) (talk : Talk) :
    holding (past ++ [talk]) = settle (holding past) talk := by
  unfold holding
  rw [List.foldl_append]
  rfl

/-- How many things of a kind are held. -/
def heldCount (kind : Resource.Kind) (past : List Talk) : Nat := tally kind (holding past)

/-- The call concerns neither local references nor buffers. -/
def Call.SparesLocals : Call → Prop
  | .env _ function =>
    (∀ reply, ∀ resource ∈ function.brought reply, resource.kind = .globalReference) ∧
      ∀ resource ∈ function.returned, resource.kind = .globalReference
  | _ => True

theorem Call.IsClerical.sparesLocals {request : Call} (hclerical : request.IsClerical) :
    request.SparesLocals := by
  cases request with
  | env pointer function =>
    cases function with
    | getVersion =>
      exact ⟨fun _ resource hmem ↦ absurd hmem (Multiset.notMem_zero resource), nofun⟩
    | deleteGlobalRef reference =>
      refine ⟨fun _ resource hmem ↦ absurd hmem (Multiset.notMem_zero resource), ?_⟩
      rintro _ ⟨rfl⟩
      rfl
    | _ => exact hclerical.elim
  | _ => trivial

theorem Call.sparesLocals_newGlobalRef (pointer : EnvPointer) (object : Handle) :
    (Call.env pointer (.newGlobalRef object)).SparesLocals := by
  refine ⟨fun reply resource hmem ↦ ?_, nofun⟩
  cases reply with
  | none => cases hmem
  | some handle =>
    rw [Multiset.mem_singleton.1 hmem]
    rfl

theorem kind_of_mem_localShare {handle : Option Handle} {resource : Resource}
    (hmem : resource ∈ localShare handle) : resource.kind = .localReference := by
  cases handle with
  | none => cases hmem
  | some handle =>
    rw [Multiset.mem_singleton.1 hmem]
    rfl

theorem kind_of_mem_bufferShare {string : Option Handle} {resource : Resource}
    (hmem : resource ∈ bufferShare string) : resource.kind = .characters := by
  cases string with
  | none => cases hmem
  | some string =>
    rw [Multiset.mem_singleton.1 hmem]
    rfl

theorem card_localShare_le (handle : Option Handle) : (localShare handle).card ≤ 1 := by
  cases handle with
  | none => exact Nat.zero_le 1
  | some handle => exact le_of_eq (Multiset.card_singleton _)

theorem card_bufferShare_le (string : Option Handle) : (bufferShare string).card ≤ 1 := by
  cases string with
  | none => exact Nat.zero_le 1
  | some string => exact le_of_eq (Multiset.card_singleton _)

/-! ## Footprints -/

/-- What an inspection holds: the thrown object, the class that it has come to, and what it needs to
read a name or to go on to the superclass. -/
structure Footprint where
  throwable : Option Handle := none
  current : Option Handle := none
  helper : Option Handle := none
  name : Option Handle := none
  above : Option Handle := none
  buffer : Option Handle := none

namespace Footprint

/-- The local references that are held. -/
def locals (footprint : Footprint) : Multiset Resource :=
  localShare footprint.throwable + localShare footprint.current + localShare footprint.helper +
    localShare footprint.name + localShare footprint.above

/-- All that is held. -/
def share (footprint : Footprint) : Multiset Resource :=
  footprint.locals + bufferShare footprint.buffer

/-- Each place holds what its function has answered, and the superclass is not held together with a
helper class or a name. -/
structure Sound (footprint : Footprint) (pointer : EnvPointer) (past : List Talk) : Prop where
  throwable : ∀ handle, footprint.throwable = some handle →
    ⟨.env pointer .exceptionOccurred, some handle⟩ ∈ past
  current : ∀ handle, footprint.current = some handle →
    (∃ object, ⟨.env pointer (.getObjectClass object), some handle⟩ ∈ past) ∨
      ∃ below, ⟨.env pointer (.getSuperclass below), some handle⟩ ∈ past
  helper : ∀ handle, footprint.helper = some handle →
    ∃ className, ⟨.env pointer (.findClass className), some handle⟩ ∈ past
  name : ∀ handle, footprint.name = some handle →
    ∃ object method, ⟨.env pointer (.callObject object method []), some handle⟩ ∈ past
  above : ∀ handle, footprint.above = some handle →
    ∃ below, ⟨.env pointer (.getSuperclass below), some handle⟩ ∈ past
  apart : footprint.above = none ∨ footprint.helper = none ∧ footprint.name = none

variable {footprint next : Footprint} {pointer : EnvPointer} {past : List Talk} {talk : Talk}

theorem Sound.snoc (hsound : footprint.Sound pointer past) (talk : Talk) :
    footprint.Sound pointer (past ++ [talk]) where
  throwable handle hhandle := List.mem_append_left _ (hsound.throwable handle hhandle)
  current handle hhandle := by
    apply (hsound.current handle hhandle).imp
    · rintro ⟨object, hmem⟩
      exact ⟨object, List.mem_append_left _ hmem⟩
    · rintro ⟨below, hmem⟩
      exact ⟨below, List.mem_append_left _ hmem⟩
  helper handle hhandle := by
    obtain ⟨className, hmem⟩ := hsound.helper handle hhandle
    exact ⟨className, List.mem_append_left _ hmem⟩
  name handle hhandle := by
    obtain ⟨object, method, hmem⟩ := hsound.name handle hhandle
    exact ⟨object, method, List.mem_append_left _ hmem⟩
  above handle hhandle := by
    obtain ⟨below, hmem⟩ := hsound.above handle hhandle
    exact ⟨below, List.mem_append_left _ hmem⟩
  apart := hsound.apart

end Footprint

/-- What is held is a footprint, apart from global references and, if the environment has been cut
off, from local ones that were left behind. -/
structure Footprint.Fits (footprint : Footprint) (pointer : EnvPointer) (kept : Prop)
    (past : List Talk) : Prop where
  sound : footprint.Sound pointer past
  books : ∃ strays globals : Multiset Resource,
    holding past = footprint.share + strays + globals ∧ (kept → strays = 0) ∧
      (∀ resource ∈ strays, resource.kind = .localReference) ∧
        ∀ resource ∈ globals, resource.kind = .globalReference

namespace Footprint

variable {footprint next : Footprint} {pointer : EnvPointer} {kept still : Prop} {past : List Talk}
  {function : EnvFunction} {reply : function.Reply} {resource : Resource} {handle : Handle}

theorem Fits.mono (hfits : footprint.Fits pointer kept past) (hless : still → kept) :
    footprint.Fits pointer still past := by
  obtain ⟨hsound, strays, globals, hholding, hstrays, hlocal, hglobal⟩ := hfits
  exact ⟨hsound, strays, globals, hholding, hstrays ∘ hless, hlocal, hglobal⟩

/-- Nothing is held before the first call. -/
theorem fits_nil : Fits { } pointer kept [] where
  sound := ⟨nofun, nofun, nofun, nofun, nofun, .inl rfl⟩
  books := ⟨0, 0, rfl, fun _ ↦ rfl, fun _ hmem ↦ absurd hmem (Multiset.notMem_zero _),
    fun _ hmem ↦ absurd hmem (Multiset.notMem_zero _)⟩

/-! ## The peak -/

theorem kind_of_mem_locals {footprint : Footprint} {resource : Resource}
    (hmem : resource ∈ footprint.locals) : resource.kind = .localReference := by
  unfold locals at hmem
  simp only [Multiset.mem_add, or_assoc] at hmem
  rcases hmem with hmem | hmem | hmem | hmem | hmem
  all_goals exact kind_of_mem_localShare hmem

theorem Sound.card_locals_le (hsound : footprint.Sound pointer past) :
    footprint.locals.card ≤ 4 := by
  have hthrowable := card_localShare_le footprint.throwable
  have hcurrent := card_localShare_le footprint.current
  have hhelper := card_localShare_le footprint.helper
  have hname := card_localShare_le footprint.name
  have habove := card_localShare_le footprint.above
  unfold locals
  simp only [Multiset.card_add]
  rcases hsound.apart with hapart | ⟨hnohelper, hnoname⟩
  · simp only [hapart, localShare_none, Multiset.card_zero]
    omega
  · simp only [hnohelper, hnoname, localShare_none, Multiset.card_zero]
    omega

/-- As long as nothing was left behind, the local references that are held are those of the
footprint. -/
theorem Fits.filter_holding (hfits : footprint.Fits pointer kept past) (hkept : kept) :
    (holding past).filter (fun resource ↦ resource.kind = .localReference) = footprint.locals := by
  obtain ⟨strays, globals, hholding, hstrays, -, hglobal⟩ := hfits.books
  have hbuffer : (bufferShare footprint.buffer).filter
      (fun resource ↦ resource.kind = .localReference) = 0 :=
    Multiset.filter_eq_nil.2 fun resource hmem ↦ by simp [kind_of_mem_bufferShare hmem]
  have hglobals : globals.filter (fun resource ↦ resource.kind = .localReference) = 0 :=
    Multiset.filter_eq_nil.2 fun resource hmem ↦ by simp [hglobal resource hmem]
  rw [hholding, hstrays hkept, add_zero, share, Multiset.filter_add, Multiset.filter_add, hbuffer,
    hglobals, add_zero, add_zero]
  exact Multiset.filter_eq_self.2 fun _ ↦ kind_of_mem_locals

theorem Fits.locals_le (hfits : footprint.Fits pointer kept past) (hkept : kept) :
    heldCount .localReference past ≤ 4 := by
  calc heldCount .localReference past
      = ((holding past).filter fun resource ↦ resource.kind = .localReference).card :=
        Multiset.countP_eq_card_filter _ _
    _ = footprint.locals.card := by rw [hfits.filter_holding hkept]
    _ ≤ 4 := hfits.sound.card_locals_le

theorem Fits.buffers_le (hfits : footprint.Fits pointer kept past) :
    heldCount .characters past ≤ 1 := by
  obtain ⟨strays, globals, hholding, -, hlocal, hglobal⟩ := hfits.books
  have hlocals : tally .characters footprint.locals = 0 :=
    Resource.tally_of_ne (fun _ ↦ kind_of_mem_locals) (by decide)
  have hstrays : tally .characters strays = 0 := Resource.tally_of_ne hlocal (by decide)
  have hglobals : tally .characters globals = 0 := Resource.tally_of_ne hglobal (by decide)
  calc heldCount .characters past
      = tally .characters (bufferShare footprint.buffer) := by
        unfold heldCount
        rw [hholding, share, Resource.tally_add, Resource.tally_add, Resource.tally_add, hlocals,
          hstrays, hglobals, zero_add, add_zero, add_zero]
    _ ≤ (bufferShare footprint.buffer).card := Multiset.countP_le_card _ _
    _ ≤ 1 := card_bufferShare_le footprint.buffer

/-! ## Moving on -/

/-- A call with an answer turns one footprint into another. -/
structure Moves (footprint : Footprint) (pointer : EnvPointer) (function : EnvFunction)
    (reply : function.Reply) (next : Footprint) : Prop where
  returned : ∀ resource ∈ function.returned, resource ∈ footprint.share
  share : settle footprint.share ⟨.env pointer function, reply⟩ = next.share
  sound : ∀ past, footprint.Sound pointer past →
    next.Sound pointer (past ++ [⟨.env pointer function, reply⟩])

/-- What is held besides is not touched by giving back something that is part of the footprint. -/
theorem settle_add {talk : Talk} {held others : Multiset Resource}
    (hreturned : ∀ pointer function, talk.1 = .env pointer function →
      ∀ resource ∈ function.returned, resource ∈ held) :
    settle (held + others) talk = settle held talk + others := by
  obtain ⟨request, reply⟩ := talk
  cases request with
  | env pointer function =>
    have hreturned' := hreturned pointer function rfl
    simp only [settle]
    cases hback : function.returned with
    | none => exact (add_assoc _ _ _).symm
    | some resource =>
      rw [hback] at hreturned'
      simp only [Option.elim_some]
      rw [Multiset.erase_add_left_pos _ (hreturned' resource rfl), add_assoc]
  | _ => rfl

theorem Fits.move (hfits : footprint.Fits pointer kept past)
    (hmoves : footprint.Moves pointer function reply next) :
    next.Fits pointer kept (past ++ [⟨.env pointer function, reply⟩]) := by
  obtain ⟨hsound, strays, globals, hholding, hstrays, hlocal, hglobal⟩ := hfits
  refine ⟨hmoves.sound past hsound, strays, globals, ?_, hstrays, hlocal, hglobal⟩
  rw [holding_snoc, hholding, add_assoc, settle_add, hmoves.share, add_assoc]
  rintro _ _ ⟨rfl⟩
  exact hmoves.returned

/-- A call that has nothing to do with references leaves the footprint as it is. -/
theorem Moves.idle (hbrought : function.brought reply = 0) (hreturned : function.returned = none) :
    footprint.Moves pointer function reply footprint where
  returned := by simp [hreturned]
  share := by simp [settle, hbrought, hreturned]
  sound past hsound := hsound.snoc _

/-- An answer is put into an empty place. -/
theorem Moves.take (hreturned : function.returned = none)
    (hshare : function.brought reply + footprint.share = next.share)
    (hsound : ∀ past, footprint.Sound pointer past →
      next.Sound pointer (past ++ [⟨.env pointer function, reply⟩])) :
    footprint.Moves pointer function reply next where
  returned := by simp [hreturned]
  share := by simpa [settle, hreturned] using hshare
  sound := hsound

/-- A place is emptied, whatever becomes of what was there. -/
structure Empties (footprint : Footprint) (resource : Resource) (next : Footprint) : Prop where
  share : footprint.share = {resource} + next.share
  sound : ∀ pointer past, footprint.Sound pointer past → next.Sound pointer past

theorem Empties.moves (hempties : footprint.Empties resource next)
    (hbrought : function.brought reply = 0) (hreturned : function.returned = some resource) :
    footprint.Moves pointer function reply next where
  returned := by
    rw [hreturned, hempties.share]
    rintro _ ⟨rfl⟩
    exact Multiset.mem_add.2 (.inl (Multiset.mem_singleton_self _))
  share := by
    simp only [settle, hbrought, hreturned, hempties.share, Option.elim_some, zero_add,
      Multiset.singleton_add, Multiset.erase_cons_head]
  sound past hsound := (hempties.sound pointer past hsound).snoc _

/-- What is left where it is becomes a stray. -/
theorem Fits.leave (hfits : footprint.Fits pointer kept past)
    (hempties : footprint.Empties resource next) (hlocal : resource.kind = .localReference)
    (hlost : ¬ kept) :
    next.Fits pointer kept past := by
  obtain ⟨hsound, strays, globals, hholding, -, hstrays, hglobal⟩ := hfits
  refine ⟨hempties.sound pointer past hsound, resource ::ₘ strays, globals, ?_,
    fun hkept ↦ absurd hkept hlost, Multiset.forall_mem_cons.2 ⟨hlocal, hstrays⟩, hglobal⟩
  rw [hholding, hempties.share, ← Multiset.singleton_add]
  ac_rfl

/-- A call that does not concern local references leaves the footprint as it is. -/
theorem Fits.spare (hfits : footprint.Fits pointer kept past) {request : Call}
    (hspares : request.SparesLocals) (reply : request.Reply) :
    footprint.Fits pointer kept (past ++ [⟨request, reply⟩]) := by
  obtain ⟨hsound, strays, globals, hholding, hstrays, hlocal, hglobal⟩ := hfits
  cases request with
  | env issuer function =>
    obtain ⟨hbrought, hreturned⟩ := hspares
    have hother : ∀ resource ∈ footprint.share + strays, resource.kind ≠ .globalReference := by
      intro resource hmem
      unfold share at hmem
      simp only [Multiset.mem_add, or_assoc] at hmem
      rcases hmem with hmem | hmem | hmem
      · simp [kind_of_mem_locals hmem]
      · simp [kind_of_mem_bufferShare hmem]
      · simp [hlocal resource hmem]
    refine ⟨hsound.snoc _, strays, function.brought reply +
      function.returned.elim globals globals.erase, ?_, hstrays, hlocal, ?_⟩
    · rw [holding_snoc, hholding, settle]
      cases hback : function.returned with
      | none =>
        simp only [Option.elim_none]
        ac_rfl
      | some resource =>
        have houtside : resource ∉ footprint.share + strays := fun hmem ↦
          hother resource hmem (hreturned resource hback)
        simp only [Option.elim_some]
        rw [Multiset.erase_add_right_neg _ houtside]
        ac_rfl
    · intro resource hmem
      rcases Multiset.mem_add.1 hmem with hmem | hmem
      · exact hbrought reply resource hmem
      · cases hback : function.returned with
        | none =>
          rw [hback] at hmem
          exact hglobal resource hmem
        | some back =>
          rw [hback] at hmem
          exact hglobal resource (Multiset.mem_of_mem_erase hmem)
  | _ =>
    exact ⟨hsound.snoc _, strays, globals, (holding_snoc _ _).trans hholding, hstrays, hlocal,
      hglobal⟩

/-! ## The places one by one -/

theorem moves_throwable (hfree : footprint.throwable = none) (reply : Option Handle) :
    footprint.Moves pointer .exceptionOccurred reply { footprint with throwable := reply } := by
  apply Moves.take rfl
  · simp only [EnvFunction.brought, share, locals, hfree, localShare_none]
    ac_rfl
  · intro past hsound
    refine { hsound.snoc _ with throwable := ?_ }
    rintro handle ⟨rfl⟩
    exact List.mem_append_right _ (List.mem_singleton_self _)

theorem moves_current (hfree : footprint.current = none) (object : Handle)
    (reply : Option Handle) :
    footprint.Moves pointer (.getObjectClass object) reply { footprint with current := reply } := by
  apply Moves.take rfl
  · simp only [EnvFunction.brought, share, locals, hfree, localShare_none]
    ac_rfl
  · intro past hsound
    refine { hsound.snoc _ with current := ?_ }
    rintro handle ⟨rfl⟩
    exact .inl ⟨object, List.mem_append_right _ (List.mem_singleton_self _)⟩

theorem moves_helper (hfree : footprint.helper = none) (habove : footprint.above = none)
    (className : Text.CString) (reply : Option Handle) :
    footprint.Moves pointer (.findClass className) reply { footprint with helper := reply } := by
  apply Moves.take rfl
  · simp only [EnvFunction.brought, share, locals, hfree, localShare_none]
    ac_rfl
  · intro past hsound
    refine { hsound.snoc _ with helper := ?_, apart := .inl habove }
    rintro handle ⟨rfl⟩
    exact ⟨className, List.mem_append_right _ (List.mem_singleton_self _)⟩

theorem moves_name (hfree : footprint.name = none) (habove : footprint.above = none)
    (object : Handle) (method : MethodId) (reply : Option Handle) :
    footprint.Moves pointer (.callObject object method []) reply
      { footprint with name := reply } := by
  apply Moves.take rfl
  · simp only [EnvFunction.brought, share, locals, hfree, localShare_none]
    ac_rfl
  · intro past hsound
    refine { hsound.snoc _ with name := ?_, apart := .inl habove }
    rintro handle ⟨rfl⟩
    exact ⟨object, method, List.mem_append_right _ (List.mem_singleton_self _)⟩

theorem moves_above (hfree : footprint.above = none)
    (halone : footprint.helper = none ∧ footprint.name = none) (below : Handle)
    (reply : Option Handle) :
    footprint.Moves pointer (.getSuperclass below) reply { footprint with above := reply } := by
  apply Moves.take rfl
  · simp only [EnvFunction.brought, share, locals, hfree, localShare_none]
    ac_rfl
  · intro past hsound
    refine { hsound.snoc _ with above := ?_, apart := .inr halone }
    rintro handle ⟨rfl⟩
    exact ⟨below, List.mem_append_right _ (List.mem_singleton_self _)⟩

theorem moves_buffer (hfree : footprint.buffer = none) (string : Handle)
    (reply : Option Text.CString) :
    footprint.Moves pointer (.getStringChars string) reply
      { footprint with buffer := reply.map fun _ ↦ string } := by
  apply Moves.take rfl
  · cases reply with
    | none => simp [EnvFunction.brought, share, locals, hfree]
    | some chars =>
      simp only [EnvFunction.brought, share, locals, hfree, bufferShare, Option.elim_some,
        Option.elim_none, Option.map_some]
      ac_rfl
  · exact fun past hsound ↦ { hsound.snoc _ with }

theorem empties_throwable (hfull : footprint.throwable = some handle) :
    footprint.Empties (.localReference handle) { footprint with throwable := none } where
  share := by
    simp only [share, locals, hfull, localShare_some, localShare_none]
    ac_rfl
  sound pointer past hsound := { hsound with throwable := nofun }

/-- Giving up the current class makes the superclass the current one. -/
theorem empties_current (hfull : footprint.current = some handle) :
    footprint.Empties (.localReference handle)
      { footprint with current := footprint.above, above := none } where
  share := by
    simp only [share, locals, hfull, localShare_some, localShare_none]
    ac_rfl
  sound pointer past hsound :=
    { hsound with
      current := fun handle hhandle ↦ .inr (hsound.above handle hhandle)
      above := nofun
      apart := .inl rfl }

theorem empties_helper (hfull : footprint.helper = some handle) (habove : footprint.above = none) :
    footprint.Empties (.localReference handle) { footprint with helper := none } where
  share := by
    simp only [share, locals, hfull, localShare_some, localShare_none]
    ac_rfl
  sound pointer past hsound := { hsound with helper := nofun, apart := .inl habove }

theorem empties_name (hfull : footprint.name = some handle) (habove : footprint.above = none) :
    footprint.Empties (.localReference handle) { footprint with name := none } where
  share := by
    simp only [share, locals, hfull, localShare_some, localShare_none]
    ac_rfl
  sound pointer past hsound := { hsound with name := nofun, apart := .inl habove }

theorem empties_buffer (hfull : footprint.buffer = some handle) :
    footprint.Empties (.characters handle) { footprint with buffer := none } where
  share := by
    simp only [share, locals, hfull, bufferShare, Option.elim_some, Option.elim_none]
    ac_rfl
  sound pointer past hsound := { hsound with }

end Footprint

end JavaInterop
