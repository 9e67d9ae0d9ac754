import JavaInterop.Proofs.Lifecycle.Rules

/-!
# Turns of a lifecycle

A lifecycle has at most one machine at a time, and five operations decide which one: creating,
adopting, tearing down, resetting and cleaning up.  Here each of them is a turn, and an episode is a
turn that was taken, with all its calls.  `Turn.isPlain` says what every episode comes to, whatever
the library and the machines answer, as long as nobody else changes the registration of the
lifecycle during a call.
-/

namespace JavaInterop

variable [Host] {ω : Type}

/-! ## Turns -/

/-- What can be done about the machine of a lifecycle. -/
inductive Turn where
  | create (version : Version) (options : Startup.OptionList)
  | adopt (vm : VmId) (version : Version)
  | teardown
  | reset
  | cleanup

namespace Turn

/-- What is run for a turn.  Resetting and cleaning up cannot fail. -/
def program (id : LifecycleId) : Turn → Fallible Unit
  | create version options => id.create version options
  | adopt vm version => id.adopt (some vm) version
  | teardown => id.teardown
  | reset => id.reset
  | cleanup => id.cleanup

/-- The turn is meant to end with nothing registered. -/
def ends : Turn → Bool
  | create .. | adopt .. => false
  | teardown | reset | cleanup => true

/-- The turn starts a machine. -/
def creates : Turn → Bool
  | create .. => true
  | adopt .. | teardown | reset | cleanup => false

/-- The turn shuts an owned machine down. -/
def destroys : Turn → Bool
  | teardown | cleanup => true
  | create .. | adopt .. | reset => false

/-- The turn asks for a machine that can be registered. -/
def seeks : Turn → Bool
  | create .. => true
  | adopt _ version => version.isValid
  | teardown | reset | cleanup => false

end Turn

/-! ## What calls tell -/

namespace Exchange

/-- The machine that a library delivered. -/
def delivered? : Exchange ω → Option VmId
  | ⟨_, .create _, .ok vm, _, _⟩ => vm
  | _ => none

/-- The version that a machine reported. -/
def reported? : Exchange ω → Option Version
  | ⟨_, .env _ .getVersion, word, _, _⟩ => some (.ofInt word)
  | _ => none

/-- The machine that was asked to shut down. -/
def destroyed? : Exchange ω → Option VmId
  | ⟨_, .destroy vm, _, _, _⟩ => some vm
  | _ => none

/-- Why a machine could not be shut down. -/
def refusal? : Exchange ω → Option Status
  | ⟨_, .destroy _, .error status, _, _⟩ => some status
  | _ => none

/-- The call has to do with the running thread only. -/
structure Minor (exchange : Exchange ω) : Prop where
  delivered : exchange.delivered? = none
  reported : exchange.reported? = none
  destroyed : exchange.destroyed? = none

/-- During the call nobody else changes the registration of a lifecycle. -/
def Undisturbed (id : LifecycleId) (exchange : Exchange ω) : Prop :=
  (exchange.after.bridge.lifecycle id).registration =
    (exchange.before.bridge.lifecycle id).registration

end Exchange

/-! ## Incumbents -/

/-- A machine that is registered in a lifecycle. -/
structure Incumbent where
  vm : VmId
  version : Version
  owned : Bool
deriving DecidableEq

/-- What a registration says about its machine. -/
def Registration.incumbent (registration : Registration) : Incumbent :=
  ⟨registration.vm, registration.version, registration.owned⟩

/-- The machine that is registered in a lifecycle at a moment. -/
def Moment.incumbent (moment : Moment ω) (id : LifecycleId) : Option Incumbent :=
  (moment.bridge.lifecycle id).registration.map Registration.incumbent

/-! ## Episodes -/

/-- A turn that was taken: the calls it made, how it ended, and the moments before and after it. -/
structure Episode [Host] (ω : Type) where
  turn : Turn
  thread : NativeThread
  first : Moment ω
  exchanges : List (Exchange ω)
  result : Except Error Unit
  last : Moment ω

namespace Episode

/-- The machine that the library delivered. -/
def delivered (episode : Episode ω) : Option VmId :=
  episode.exchanges.findSome? Exchange.delivered?

/-- The machines that were asked to shut down, in order. -/
def destroyed (episode : Episode ω) : List VmId :=
  episode.exchanges.filterMap Exchange.destroyed?

/-- Why a machine could not be shut down. -/
def refusal (episode : Episode ω) : Option Status :=
  episode.exchanges.findSome? Exchange.refusal?

/-- The machine that a successful creation or adoption brings.  One that was created has the version
that it reports, one that was adopted the version that the caller named. -/
def installs (episode : Episode ω) : Option Incumbent :=
  match episode.result, episode.turn with
  | .error _, _ => none
  | .ok (), .create .. =>
    return ⟨← episode.delivered, ← episode.exchanges.findSome? Exchange.reported?, true⟩
  | .ok (), .adopt vm version => some ⟨vm, version, false⟩
  | .ok (), _ => none

/-- The episode came to nothing because a machine was registered: no call was made and everything
is as it was. -/
structure Refused (episode : Episode ω) : Prop where
  result : episode.result = .error .vmRunning
  exchanges : episode.exchanges = []
  last : episode.last = episode.first

/-- The episode succeeded although there was nothing to do. -/
structure Idle (episode : Episode ω) : Prop where
  result : episode.result = .ok ()
  exchanges : episode.exchanges = []
  last : episode.last = episode.first

/-- The machines to be shut down in an episode that finds a given machine registered.  One that was
created but could not be registered is shut down by the creation itself. -/
def due (episode : Episode ω) (current : Option Incumbent) : List VmId :=
  match episode.turn, episode.result with
  | .create .., .error _ => episode.delivered.toList
  | .teardown, _ | .cleanup, _ =>
    current.elim [] fun incumbent ↦ if incumbent.owned then [incumbent.vm] else []
  | _, _ => []

/-- What an episode comes to. -/
structure Plain (id : LifecycleId) (episode : Episode ω) : Prop where
  incumbent : episode.last.incumbent id =
    if episode.turn.ends then none else episode.installs.or (episode.first.incumbent id)
  vacant : episode.installs.isSome → episode.first.incumbent id = none
  succeeded : episode.turn.ends = false → episode.result = .ok () → episode.installs.isSome
  refused : episode.turn.seeks → (episode.first.incumbent id).isSome → episode.Refused
  idle : episode.turn.ends → episode.first.incumbent id = none → episode.Idle
  destroyed : episode.destroyed = episode.due (episode.first.incumbent id)
  failed : episode.turn = .teardown → ∀ error, episode.result = .error error ↔
    ∃ incumbent status, episode.first.incumbent id = some incumbent ∧ incumbent.owned = true ∧
      ¬ incumbent.version < .v1_6 ∧ episode.refusal = some status ∧ error = .vmDestroy status

end Episode

open Program (Ensures)

variable {id : LifecycleId} {thread : NativeThread} {first : Moment ω}

/-! ## What the parts of a turn do -/

theorem incumbent_eq_none_iff {moment : Moment ω} :
    moment.incumbent id = none ↔ (moment.bridge.lifecycle id).registration = none :=
  Option.map_eq_none_iff

theorem incumbent_isSome_iff {moment : Moment ω} :
    (moment.incumbent id).isSome ↔ (moment.bridge.lifecycle id).registration ≠ none := by
  rw [Option.isSome_iff_ne_none, ne_eq, incumbent_eq_none_iff]

theorem Exchange.Undisturbed.incumbent {exchange : Exchange ω}
    (hundisturbed : exchange.Undisturbed id) :
    exchange.after.incumbent id = exchange.before.incumbent id :=
  congrArg _ hundisturbed

theorem incumbent_install (moment : Moment ω) (registration : Registration) :
    (⟨moment.bridge.install id registration, moment.outside⟩ : Moment ω).incumbent id =
      some registration.incumbent := by
  simp [Moment.incumbent, Bridge.install]

/-- Attaching the running thread is nothing but that. -/
theorem ensures_attachTo_minor (registration : Registration) (config : AttachConfig) :
    Ensures (Exchange.Undisturbed id) thread (id.attachTo registration config).run first
      fun exchanges _ last ↦ last.incumbent id = first.incumbent id ∧
        ∀ exchange ∈ exchanges, exchange.Minor := by
  have hasks : ∀ vm version reply before after,
      (⟨thread, .getEnv vm version, reply, before, after⟩ : Exchange ω).Minor :=
    fun _ _ _ _ _ ↦ ⟨rfl, rfl, rfl⟩
  have hattaches : ∀ vm request reply before after,
      (⟨thread, .attach vm request, reply, before, after⟩ : Exchange ω).Minor :=
    fun _ _ _ _ _ ↦ ⟨rfl, rfl, rfl⟩
  refine (id.ensures_attachTo_approach config).weaken fun exchanges result last happroach ↦ ?_
  cases happroach with
  | present hasked => exact ⟨hasked.incumbent, by simp [hasks]⟩
  | unclear _ hasked => exact ⟨hasked.incumbent, by simp [hasks]⟩
  | refused hasked hattached =>
    exact ⟨hattached.incumbent.trans hasked.incumbent, by simp [hasks, hattaches]⟩
  | admitted hasked hattached =>
    refine ⟨Eq.trans ?_ (hattached.incumbent.trans hasked.incumbent), by simp [hasks, hattaches]⟩
    exact congrArg _ (registration_receive ..)

theorem findSome?_minor {α : Type} {view : Exchange ω → Option α} {exchanges : List (Exchange ω)}
    (hminor : ∀ exchange ∈ exchanges, exchange.Minor)
    (hview : ∀ exchange : Exchange ω, exchange.Minor → view exchange = none) :
    exchanges.findSome? view = none :=
  List.findSome?_eq_none_iff.2 fun exchange hmem ↦ hview exchange (hminor exchange hmem)

/-- What it takes to register a machine: nothing is registered or shut down yet, and what would be
registered has the version that the machine reports. -/
structure Examined (id : LifecycleId) (vm : VmId) (owned : Bool) (first : Moment ω)
    (exchanges : List (Exchange ω)) (result : Except Error Registration) (last : Moment ω) :
    Prop where
  incumbent : last.incumbent id = first.incumbent id
  delivered : exchanges.findSome? Exchange.delivered? = none
  destroyed : exchanges.filterMap Exchange.destroyed? = []
  accepted : ∀ registration, result = .ok registration →
    registration.vm = vm ∧ registration.owned = owned ∧
      exchanges.findSome? Exchange.reported? = some registration.version

theorem ensures_register (vm : VmId) (version : Version) (owned : Bool) :
    Ensures (Exchange.Undisturbed id) thread (id.register vm version owned).run first
      (Examined id vm owned first) := by
  rw [LifecycleId.ensures_register_iff]
  refine (ensures_attachTo_minor _ _).weaken ?_
  rintro begun (error | ⟨pointer, attachedHere⟩) middle ⟨hmiddle, hminor⟩
  all_goals
    have hdelivered := findSome?_minor hminor fun _ h ↦ h.delivered
    have hreported := findSome?_minor hminor fun _ h ↦ h.reported
    have hdestroyed : begun.filterMap Exchange.destroyed? = [] :=
      List.filterMap_eq_nil_iff.2 fun exchange hmem ↦ (hminor exchange hmem).destroyed
  · exact ⟨hmiddle, hdelivered, hdestroyed, nofun⟩
  · refine Program.ensures_perform.2 fun word after hafter ↦ ⟨?_, ?_, ?_, ?_⟩
    · refine hafter.incumbent.trans (Eq.trans ?_ hmiddle)
      exact congrArg _ (registration_enroll ..)
    · simp [hdelivered, Exchange.delivered?]
    · simp [hdestroyed, Exchange.destroyed?]
    · rintro registration ⟨rfl⟩
      simp [hreported, Exchange.reported?]

/-- What comes of a machine that was created.  Either it is ready to be registered, or it has been
asked to shut down again. -/
structure Prepared (id : LifecycleId) (vm : VmId) (first : Moment ω) (exchanges : List (Exchange ω))
    (result : Except Error Registration) (last : Moment ω) : Prop where
  incumbent : last.incumbent id = first.incumbent id
  delivered : exchanges.findSome? Exchange.delivered? = none
  destroyed : exchanges.filterMap Exchange.destroyed? =
    match result with
    | .ok _ => []
    | .error _ => [vm]
  accepted : ∀ registration, result = .ok registration →
    registration.vm = vm ∧ registration.owned = true ∧
      exchanges.findSome? Exchange.reported? = some registration.version

/-- If the machine cannot be registered, the failure is met by asking it to shut down. -/
theorem ensures_prepare (vm : VmId) (version : Version) :
    Ensures (Exchange.Undisturbed id) thread (id.register vm version true).run first
      fun begun result middle ↦ match result with
      | .ok registration => Prepared id vm first begun (.ok registration) middle
      | .error error => Ensures (Exchange.Undisturbed id) thread (Program.perform (.destroy vm))
        middle fun rest _ ↦ Prepared id vm first (begun ++ rest) (.error error) := by
  refine (ensures_register vm version true).weaken ?_
  rintro begun (error | registration) middle hexamined
  · refine Program.ensures_perform.2 fun answer last hlast ↦ ⟨?_, ?_, ?_, nofun⟩
    · exact hlast.incumbent.trans hexamined.incumbent
    · simp [hexamined.delivered, Exchange.delivered?]
    · simp [hexamined.destroyed, Exchange.destroyed?]
  · exact ⟨hexamined.incumbent, hexamined.delivered, hexamined.destroyed, hexamined.accepted⟩

theorem incumbent_forget (moment : Moment ω) :
    (⟨moment.bridge.forget id, moment.outside⟩ : Moment ω).incumbent id = none := by
  simp [Moment.incumbent, Bridge.forget]

/-! ## What a turn does -/

theorem Episode.installs_of_failure {episode : Episode ω} {error : Error}
    (hresult : episode.result = .error error) : episode.installs = none := by
  unfold Episode.installs
  rw [hresult]

/-- A creation or adoption that fails. -/
theorem Episode.Plain.of_failure {episode : Episode ω} {error : Error}
    (hends : episode.turn.ends = false) (hresult : episode.result = .error error)
    (hsame : episode.last.incumbent id = episode.first.incumbent id)
    (hrefused : episode.turn.seeks → (episode.first.incumbent id).isSome → episode.Refused)
    (hdestroyed : episode.destroyed = episode.due (episode.first.incumbent id)) :
    episode.Plain id where
  incumbent := by
    rw [Episode.installs_of_failure hresult, hends]
    exact hsame
  vacant hinstalls := by
    rw [Episode.installs_of_failure hresult] at hinstalls
    cases hinstalls
  succeeded _ hok := nomatch hresult.symm.trans hok
  refused := hrefused
  idle hended := nomatch hends.symm.trans hended
  destroyed := hdestroyed
  failed hteardown := by
    rw [hteardown] at hends
    cases hends

/-- The failure may come although nothing is registered. -/
theorem Episode.Plain.of_vacant_failure {episode : Episode ω} {error : Error}
    (hends : episode.turn.ends = false) (hresult : episode.result = .error error)
    (hvacant : episode.first.incumbent id = none)
    (hsame : episode.last.incumbent id = episode.first.incumbent id)
    (hdestroyed : episode.destroyed = episode.due (episode.first.incumbent id)) :
    episode.Plain id := by
  refine .of_failure hends hresult hsame (fun _ hrunning ↦ ?_) hdestroyed
  rw [hvacant] at hrunning
  cases hrunning

/-- A creation or adoption that succeeds. -/
theorem Episode.Plain.of_success {episode : Episode ω} {incumbent : Incumbent}
    (hends : episode.turn.ends = false) (hresult : episode.result = .ok ())
    (hvacant : episode.first.incumbent id = none)
    (hinstalls : episode.installs = some incumbent)
    (hlast : episode.last.incumbent id = some incumbent) (hdestroyed : episode.destroyed = []) :
    episode.Plain id where
  incumbent := by
    rw [hinstalls, hends]
    exact hlast
  vacant _ := hvacant
  succeeded _ _ := by rw [hinstalls]; rfl
  refused _ hrunning := by
    rw [hvacant] at hrunning
    cases hrunning
  idle hended := nomatch hends.symm.trans hended
  destroyed := by
    rw [hdestroyed, hvacant]
    unfold Episode.due
    rw [hresult]
    cases hturn : episode.turn <;> simp [hturn, Turn.ends] at hends ⊢
  failed hteardown := by
    rw [hteardown] at hends
    cases hends

/-- What brings a machine is a creation or an adoption that succeeds. -/
theorem Episode.of_installs {episode : Episode ω} {incumbent : Incumbent}
    (hinstalls : episode.installs = some incumbent) :
    episode.due none = [] ∧ episode.turn.ends = false ∧
      incumbent.owned = episode.turn.creates := by
  obtain ⟨turn, thread, first, exchanges, result, last⟩ := episode
  cases result with
  | error => cases hinstalls
  | ok _ =>
    cases turn with
    | create =>
      simp only [installs, Option.bind_eq_bind, Option.bind_eq_some_iff] at hinstalls
      obtain ⟨vm, -, version, -, hincumbent⟩ := hinstalls
      cases hincumbent
      exact ⟨rfl, rfl, rfl⟩
    | adopt =>
      cases hinstalls
      exact ⟨rfl, rfl, rfl⟩
    | teardown | reset | cleanup => cases hinstalls

theorem Episode.installs_of_ends {episode : Episode ω} (hends : episode.turn.ends = true) :
    episode.installs = none := by
  refine Option.eq_none_iff_forall_ne_some.2 fun incumbent hinstalls ↦ ?_
  cases (Episode.of_installs hinstalls).2.1.symm.trans hends

/-- A turn that ends with nothing registered. -/
theorem Episode.Plain.of_ended {episode : Episode ω} (hends : episode.turn.ends = true)
    (hlast : episode.last.incumbent id = none)
    (hidle : episode.first.incumbent id = none → episode.Idle)
    (hdestroyed : episode.destroyed = episode.due (episode.first.incumbent id))
    (hfailed : episode.turn = .teardown → ∀ error, episode.result = .error error ↔
      ∃ incumbent status, episode.first.incumbent id = some incumbent ∧ incumbent.owned = true ∧
        ¬ incumbent.version < .v1_6 ∧ episode.refusal = some status ∧
        error = .vmDestroy status) :
    episode.Plain id where
  incumbent := by rw [if_pos hends, hlast]
  vacant hinstalls := by
    rw [Episode.installs_of_ends hends] at hinstalls
    cases hinstalls
  succeeded hseeks := nomatch hseeks.symm.trans hends
  refused hseeks := by
    cases hturn : episode.turn <;> simp [hturn, Turn.ends, Turn.seeks] at hends hseeks
  idle _ := hidle
  destroyed := hdestroyed
  failed := hfailed

/-- Every way to take a turn is plain. -/
def Turn.IsPlain (turn : Turn) (id : LifecycleId) (thread : NativeThread) (first : Moment ω) :
    Prop :=
  Ensures (Exchange.Undisturbed id) thread (turn.program id).run first fun exchanges result last ↦
    Episode.Plain id ⟨turn, thread, first, exchanges, result, last⟩

theorem Turn.isPlain_create (version : Version) (options : Startup.OptionList) :
    (Turn.create version options).IsPlain id thread first := by
  refine LifecycleId.ensures_create_of ?running ?unwritable ?uncreated ?undelivered ?created
  case running => exact fun _ ↦ .of_failure rfl rfl rfl (fun _ _ ↦ ⟨rfl, rfl, rfl⟩) rfl
  case unwritable =>
    intro error hvacant _
    exact .of_vacant_failure rfl rfl (incumbent_eq_none_iff.2 hvacant) rfl rfl
  case uncreated =>
    intro arguments status created hvacant _ hcreated
    exact .of_vacant_failure rfl rfl (incumbent_eq_none_iff.2 hvacant) hcreated.incumbent rfl
  case undelivered =>
    intro arguments created hvacant _ hcreated
    exact .of_vacant_failure rfl rfl (incumbent_eq_none_iff.2 hvacant) hcreated.incumbent rfl
  case created =>
    intro arguments vm created hvacant _ hcreated
    replace hvacant := incumbent_eq_none_iff.2 hvacant
    refine (ensures_prepare vm version).weaken ?_
    rintro begun (error | registration) middle hprepared
    · refine hprepared.weaken fun rest _ last hlast ↦ .of_vacant_failure rfl rfl hvacant ?_ ?_
      · exact hlast.incumbent.trans hcreated.incumbent
      · simp [Episode.destroyed, Episode.due, Episode.delivered, hlast.destroyed,
          List.filterMap_cons, List.findSome?_cons, Exchange.destroyed?, Exchange.delivered?]
    · obtain ⟨hvm, howned, hreported⟩ := hprepared.accepted registration rfl
      refine .of_success rfl rfl hvacant ?_ (incumbent_install middle registration) ?_
      · simp [Episode.installs, Episode.delivered, List.findSome?_cons, hreported,
          Exchange.delivered?, Exchange.reported?, Registration.incumbent, hvm, howned]
      · simp [Episode.destroyed, List.filterMap_cons, hprepared.destroyed, Exchange.destroyed?]

theorem Turn.isPlain_adopt (vm : VmId) (version : Version) :
    (Turn.adopt vm version).IsPlain id thread first := by
  refine LifecycleId.ensures_adopt_of nofun ?invalid ?running ?adopted
  case invalid =>
    intro _ hinvalid
    refine .of_failure rfl rfl rfl (fun hseeks ↦ ?_) rfl
    cases hinvalid.symm.trans hseeks
  case running => exact fun _ _ _ ↦ .of_failure rfl rfl rfl (fun _ _ ↦ ⟨rfl, rfl, rfl⟩) rfl
  case adopted =>
    rintro _ ⟨rfl⟩ _ hvacant
    replace hvacant := incumbent_eq_none_iff.2 hvacant
    refine (ensures_register vm version false).weaken ?_
    rintro begun (error | registration) middle hexamined
    · refine .of_vacant_failure rfl rfl hvacant hexamined.incumbent ?_
      simp [Episode.destroyed, Episode.due, hexamined.destroyed]
    · obtain ⟨hvm, howned, -⟩ := hexamined.accepted registration rfl
      refine .of_success rfl rfl hvacant ?_ (incumbent_install middle _) ?_
      · simp [Episode.installs, Registration.incumbent, hvm, howned]
      · simp [Episode.destroyed, hexamined.destroyed]

theorem Turn.isPlain_teardown : Turn.teardown.IsPlain id thread first := by
  refine LifecycleId.ensures_teardown_iff.2 ?_
  cases hregistration : (first.bridge.lifecycle id).registration with
  | none =>
    have hvacant := incumbent_eq_none_iff.2 hregistration
    refine .of_ended rfl hvacant (fun _ ↦ ⟨rfl, rfl, rfl⟩) ?_ ?_
    · simp [Episode.destroyed, Episode.due, hvacant]
    · simp [hvacant]
  | some registration =>
    have hincumbent : first.incumbent id = some registration.incumbent := congrArg _ hregistration
    have hrunning : first.incumbent id ≠ none := by simp [hincumbent]
    have hforgotten : Moment.incumbent ⟨first.bridge.forget id, first.outside⟩ id = none :=
      incumbent_forget first
    cases howned : registration.owned with
    | false =>
      dsimp only
      rw [howned, if_neg Bool.false_ne_true]
      refine .of_ended rfl hforgotten (fun h ↦ absurd h hrunning) ?_ ?_
      · simp [Episode.destroyed, Episode.due, hincumbent, Registration.incumbent, howned]
      · simp [hincumbent, Registration.incumbent, howned]
    | true =>
      dsimp only
      rw [howned, if_pos rfl, Program.ensures_perform]
      intro answer destroyed hdestroyed
      have hlast : destroyed.incumbent id = none := hdestroyed.incumbent.trans hforgotten
      refine .of_ended rfl hlast (fun h ↦ absurd h hrunning) ?_ fun _ error ↦ ?_
      · simp [Episode.destroyed, Exchange.destroyed?, Episode.due, hincumbent,
          Registration.incumbent, howned]
      · -- The machine is told apart by its version, and the answer by its status.
        rw [hincumbent]
        cases answer with
        | ok _ => simp [Registration.farewell, Episode.refusal, Exchange.refusal?]
        | error status =>
          dsimp only [Registration.farewell]
          split
          · rename_i hold
            simp [Registration.incumbent, hold]
          · rename_i hrecent
            constructor
            · rintro ⟨rfl⟩
              exact ⟨_, status, rfl, howned, hrecent, rfl, rfl⟩
            · rintro ⟨_, _, ⟨rfl⟩, -, -, ⟨rfl⟩, rfl⟩
              rfl

theorem ensures_reset :
    Ensures (Exchange.Undisturbed id) thread id.reset first fun exchanges _ last ↦
      exchanges = [] ∧ last.incumbent id = none ∧
        (first.incumbent id = none → last = first) := by
  rw [LifecycleId.ensures_reset_iff]
  cases hregistration : (first.bridge.lifecycle id).registration with
  | none =>
    exact ⟨rfl, incumbent_eq_none_iff.2 hregistration, fun _ ↦ rfl⟩
  | some registration =>
    refine ⟨rfl, incumbent_forget first, fun hvacant ↦ ?_⟩
    cases hregistration.symm.trans (incumbent_eq_none_iff.1 hvacant)

theorem Turn.isPlain_reset : Turn.reset.IsPlain id thread first := by
  refine Fallible.ensures_lift.2 (ensures_reset.weaken ?_)
  rintro _ _ last ⟨rfl, hlast, hnothing⟩
  exact .of_ended rfl hlast (fun hvacant ↦ ⟨rfl, rfl, hnothing hvacant⟩) rfl nofun

theorem Turn.isPlain_cleanup : Turn.cleanup.IsPlain id thread first := by
  refine Fallible.ensures_lift.2 ?_
  rw [LifecycleId.ensures_cleanup_iff]
  cases hincumbent : first.incumbent id with
  | none =>
    have hnone := incumbent_eq_none_iff.1 hincumbent
    rw [hnone, Option.any_none, if_neg Bool.false_ne_true]
    refine ensures_reset.weaken ?_
    rintro _ _ last ⟨rfl, hlast, hnothing⟩
    refine .of_ended rfl hlast (fun hvacant ↦ ⟨rfl, rfl, hnothing hvacant⟩) ?_ nofun
    simp [Episode.destroyed, Episode.due, hincumbent]
  | some incumbent =>
    obtain ⟨registration, hregistration, rfl⟩ := Option.map_eq_some_iff.1 hincumbent
    have hrunning : first.incumbent id ≠ none := by simp [hincumbent]
    rw [hregistration, Option.any_some]
    cases howned : registration.owned with
    | false =>
      rw [if_neg Bool.false_ne_true]
      refine ensures_reset.weaken ?_
      rintro _ _ last ⟨rfl, hlast, -⟩
      refine .of_ended rfl hlast (fun hvacant ↦ absurd hvacant hrunning) ?_ nofun
      simp [Episode.destroyed, Episode.due, hincumbent, Registration.incumbent, howned]
    | true =>
      rw [if_pos rfl]
      refine isPlain_teardown.weaken ?_
      intro begun result middle hplain
      have hmiddle : middle.incumbent id = none := hplain.incumbent
      have hdestroyed : begun.filterMap Exchange.destroyed? = [registration.vm] := by
        refine hplain.destroyed.trans ?_
        simp [Episode.due, hincumbent, Registration.incumbent, howned]
      -- A failure of the teardown is not told, and then there is nothing left to be reset.
      have hcleaned : ∀ (rest : List (Exchange ω)) (last : Moment ω), rest = [] →
          last.incumbent id = none → Episode.Plain id
            ⟨.cleanup, thread, first, begun ++ rest, .ok (), last⟩ := by
        rintro _ last rfl hlast
        refine .of_ended rfl hlast (fun hvacant ↦ absurd hvacant hrunning) ?_ nofun
        simp [Episode.destroyed, Episode.due, hdestroyed, hincumbent, Registration.incumbent,
          howned]
      cases result with
      | ok _ => simpa using hcleaned [] middle rfl hmiddle
      | error error =>
        refine ensures_reset.weaken ?_
        rintro _ _ last ⟨rfl, hlast, -⟩
        exact hcleaned _ _ rfl hlast

theorem Turn.isPlain (turn : Turn) : turn.IsPlain id thread first := by
  cases turn with
  | create version options => exact isPlain_create version options
  | adopt vm version => exact isPlain_adopt vm version
  | teardown => exact isPlain_teardown
  | reset => exact isPlain_reset
  | cleanup => exact isPlain_cleanup

end JavaInterop
