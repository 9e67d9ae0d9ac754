import JavaInterop.Proofs.Lifecycle.History

/-!
# The version of a registered machine

A machine is registered under a version, which later calls ask it for and which decides whether a
failure to shut it down counts.  An adopted machine has the version that the caller names, and
zero is refused.  A created machine has the version that it reports itself, and nobody looks at it:
a machine that reports zero is registered under a version that is none, and it is the only one.

Nothing is assumed about what a library delivers or a machine reports.
-/

namespace JavaInterop

/-! ## The version that is none -/

namespace Version

theorem not_isValid_iff {version : Version} : version.isValid = false ↔ version = ⟨0⟩ := by
  cases version
  simp [isValid]

/-- The version that is none counts as older than the ones whose failures are told. -/
theorem lt_of_not_isValid {version : Version} (hinvalid : version.isValid = false) :
    version < .v1_6 := by
  rw [not_isValid_iff.1 hinvalid]
  decide

end Version

variable [Host] {ω : Type} {id : LifecycleId} {thread : NativeThread} {first : Moment ω}

open Program (Ensures)

/-! ## Where a version comes from -/

namespace Episode

/-- The version that the machine of a creation reports. -/
def reported (episode : Episode ω) : Option Version :=
  episode.exchanges.findSome? Exchange.reported?

/-- A creation brings the version that was reported, an adoption the one that the caller named. -/
theorem version_of_installs {episode : Episode ω} {incumbent : Incumbent}
    (hinstalls : episode.installs = some incumbent) :
    episode.turn.creates = true ∧ episode.reported = some incumbent.version ∨
      episode.turn = .adopt incumbent.vm incumbent.version := by
  obtain ⟨turn, thread, first, exchanges, result, last⟩ := episode
  cases result with
  | error => cases hinstalls
  | ok _ =>
    cases turn with
    | create =>
      simp only [installs, Option.bind_eq_bind, Option.bind_eq_some_iff] at hinstalls
      obtain ⟨vm, -, version, hreported, hincumbent⟩ := hinstalls
      cases hincumbent
      exact .inl ⟨rfl, hreported⟩
    | adopt vm version =>
      cases hinstalls
      exact .inr rfl
    | teardown | reset | cleanup => cases hinstalls

/-- An adoption was turned down for its version: no call was made and everything is as it was. -/
structure TurnedDown (episode : Episode ω) : Prop where
  result : episode.result =
    .error (.bridge "Unable to adopt the virtual machine: its JNI version is 0")
  exchanges : episode.exchanges = []
  last : episode.last = episode.first

end Episode

/-- An adoption under the version zero fails before it looks at anything. -/
theorem ensures_adopt_invalid {law : Exchange ω → Prop} {vm : VmId} {version : Version}
    (hinvalid : version.isValid = false) :
    Ensures law thread ((Turn.adopt vm version).program id).run first fun exchanges result last ↦
      Episode.TurnedDown ⟨.adopt vm version, thread, first, exchanges, result, last⟩ := by
  unfold Turn.program LifecycleId.adopt
  dsimp only
  rw [Fallible.nonNull, pure_bind, hinvalid, Bool.not_false, if_pos rfl, Fallible.run_throw_bind,
    Program.ensures_pure]
  exact ⟨rfl, rfl, rfl⟩

namespace RegistrationHistory

variable {episodes : List (Episode ω)} {moment : Moment ω}

/-- Every turn of the sequence is a run of its program. -/
theorem run (hhistory : RegistrationHistory id episodes moment) {episode : Episode ω}
    (hmem : episode ∈ episodes) :
    (episode.turn.program id).run.Run episode.thread episode.first episode.exchanges
        episode.result episode.last ∧
      ∀ exchange ∈ episode.exchanges, exchange.Undisturbed id := by
  induction hhistory with
  | start => cases hmem
  | meanwhile _ _ ih => exact ih hmem
  | turn _ hrun hundisturbed ih =>
    rcases List.mem_append.1 hmem with hmem | hmem
    · exact ih hmem
    · cases List.mem_singleton.1 hmem
      exact ⟨hrun, hundisturbed⟩

theorem turnedDown (hhistory : RegistrationHistory id episodes moment) {episode : Episode ω}
    (hmem : episode ∈ episodes) {vm : VmId} {version : Version}
    (hturn : episode.turn = .adopt vm version) (hinvalid : version.isValid = false) :
    episode.TurnedDown := by
  obtain ⟨hrun, hundisturbed⟩ := hhistory.run hmem
  obtain ⟨turn, thread, first, exchanges, result, last⟩ := episode
  cases hturn
  exact ensures_adopt_invalid hinvalid exchanges result last hrun hundisturbed

/-- Whoever brings a machine without a version has created it. -/
theorem reported_of_not_isValid (hhistory : RegistrationHistory id episodes moment)
    {episode : Episode ω} (hmem : episode ∈ episodes) {incumbent : Incumbent}
    (hinstalls : episode.installs = some incumbent)
    (hinvalid : incumbent.version.isValid = false) :
    episode.turn.creates = true ∧ episode.reported = some ⟨0⟩ := by
  rcases Episode.version_of_installs hinstalls with ⟨hcreates, hreported⟩ | hadopts
  · rw [Version.not_isValid_iff.1 hinvalid] at hreported
    exact ⟨hcreates, hreported⟩
  · have hturned := hhistory.turnedDown hmem hadopts hinvalid
    rw [Episode.installs_of_failure hturned.result] at hinstalls
    cases hinstalls

end RegistrationHistory

/-! ## Every sequence of turns -/

/-- What is true of the versions in every sequence of turns on a lifecycle. -/
structure Versioned (id : LifecycleId) (episodes : List (Episode ω)) (moment : Moment ω) :
    Prop where
  /-- A registered machine has no version exactly if it was brought by a creation in which it
  reported zero. -/
  unversioned : ∀ incumbent, moment.incumbent id = some incumbent →
    (incumbent.version.isValid = false ↔ ∃ before made after, episodes = before ++ made :: after ∧
      made.installs = some incumbent ∧
      (∀ episode ∈ after, episode.turn.ends = false ∧ episode.installs = none) ∧
      made.turn.creates = true ∧ made.reported = some ⟨0⟩)
  /-- An adopted machine has a version. -/
  adopted : ∀ incumbent, moment.incumbent id = some incumbent → incumbent.owned = false →
    incumbent.version.isValid = true
  /-- If no machine reports zero, every registered machine has a version. -/
  truthful : (∀ episode ∈ episodes, episode.turn.creates = true → episode.reported ≠ some ⟨0⟩) →
    ∀ incumbent, moment.incumbent id = some incumbent → incumbent.version.isValid = true
  /-- An adoption under the version zero registers nothing. -/
  refused : ∀ episode ∈ episodes, ∀ vm version, episode.turn = .adopt vm version →
    version.isValid = false → episode.TurnedDown
  /-- A creation that succeeds registers its machine under whatever version it reports. -/
  created : ∀ episode ∈ episodes, episode.turn.creates = true → episode.result = .ok () →
    ∃ vm version, episode.delivered = some vm ∧ episode.reported = some version ∧
      episode.last.incumbent id = some ⟨vm, version, true⟩
  /-- The failure to shut down a machine without a version is never told. -/
  silent : ∀ episode ∈ episodes, episode.turn = .teardown →
    ∀ incumbent, episode.first.incumbent id = some incumbent → incumbent.version.isValid = false →
      episode.result = .ok ()

theorem Episode.Plain.created {episode : Episode ω} (hplain : episode.Plain id)
    (hcreates : episode.turn.creates = true) (hresult : episode.result = .ok ()) :
    ∃ vm version, episode.delivered = some vm ∧ episode.reported = some version ∧
      episode.last.incumbent id = some ⟨vm, version, true⟩ := by
  have hends : episode.turn.ends = false := by
    cases hturn : episode.turn <;> simp [hturn, Turn.ends, Turn.creates] at hcreates ⊢
  obtain ⟨incumbent, hinstalls⟩ := Option.isSome_iff_exists.1 (hplain.succeeded hends hresult)
  have hlast := hplain.incumbent
  rw [hends, if_neg Bool.false_ne_true, hinstalls, Option.some_or] at hlast
  obtain ⟨turn, thread, first, exchanges, result, last⟩ := episode
  cases hresult
  cases turn with
  | create =>
    simp only [installs, Option.bind_eq_bind, Option.bind_eq_some_iff] at hinstalls
    obtain ⟨vm, hdelivered, version, hreported, hincumbent⟩ := hinstalls
    cases hincumbent
    exact ⟨vm, version, hdelivered, hreported, hlast⟩
  | adopt | teardown | reset | cleanup => cases hcreates

theorem Episode.Plain.silent {episode : Episode ω} (hplain : episode.Plain id)
    (hturn : episode.turn = .teardown) {incumbent : Incumbent}
    (hfound : episode.first.incumbent id = some incumbent)
    (hinvalid : incumbent.version.isValid = false) : episode.result = .ok () := by
  cases hresult : episode.result with
  | ok _ => rfl
  | error error =>
    obtain ⟨other, _, hother, -, hrecent, -⟩ := (hplain.failed hturn error).1 hresult
    cases hfound.symm.trans hother
    exact absurd (Version.lt_of_not_isValid hinvalid) hrecent

/-- Whatever the order of the turns, and whatever the library and the machines answer, the only
machine that is registered without a version is one that was created and has reported none. -/
theorem RegistrationHistory.versioned {episodes : List (Episode ω)} {moment : Moment ω}
    (hhistory : RegistrationHistory id episodes moment) : Versioned id episodes moment := by
  have hunversioned : ∀ incumbent, moment.incumbent id = some incumbent →
      (incumbent.version.isValid = false ↔ ∃ before made after,
        episodes = before ++ made :: after ∧ made.installs = some incumbent ∧
        (∀ episode ∈ after, episode.turn.ends = false ∧ episode.installs = none) ∧
        made.turn.creates = true ∧ made.reported = some ⟨0⟩) := by
    intro incumbent hincumbent
    constructor
    · intro hinvalid
      obtain ⟨before, made, after, rfl, hinstalls, hafter⟩ :=
        hhistory.incumbent_iff.1 hincumbent
      exact ⟨before, made, after, rfl, hinstalls, hafter,
        hhistory.reported_of_not_isValid (by simp) hinstalls hinvalid⟩
    · rintro ⟨before, made, after, rfl, hinstalls, -, hcreates, hreported⟩
      rcases Episode.version_of_installs hinstalls with ⟨-, hversion⟩ | hadopts
      · rw [hreported] at hversion
        exact Version.not_isValid_iff.2 (Option.some.inj hversion).symm
      · rw [hadopts] at hcreates
        cases hcreates
  refine ⟨hunversioned, ?_, ?_, ?_, ?_, ?_⟩
  · intro incumbent hincumbent hadopted
    by_contra hinvalid
    obtain ⟨before, made, after, rfl, hinstalls, -, hcreates, -⟩ :=
      (hunversioned incumbent hincumbent).1 (Bool.not_eq_true _ ▸ hinvalid)
    rw [(Episode.of_installs hinstalls).2.2, hcreates] at hadopted
    cases hadopted
  · intro htruthful incumbent hincumbent
    by_contra hinvalid
    obtain ⟨before, made, after, rfl, -, -, hcreates, hreported⟩ :=
      (hunversioned incumbent hincumbent).1 (Bool.not_eq_true _ ▸ hinvalid)
    exact htruthful made (by simp) hcreates hreported
  · intro episode hmem vm version hturn hinvalid
    exact hhistory.turnedDown hmem hturn hinvalid
  · intro episode hmem hcreates hresult
    obtain ⟨before, after, rfl⟩ := List.append_of_mem hmem
    exact (hhistory.plain rfl).2.created hcreates hresult
  · intro episode hmem hturn incumbent hfound hinvalid
    obtain ⟨before, after, rfl⟩ := List.append_of_mem hmem
    exact (hhistory.plain rfl).2.silent hturn hfound hinvalid

namespace Sample

/-- The answers of a machine that can be created and reports zero for its version. -/
def blank : (request : Call) → request.Reply
  | .create _ => .ok (some vm)
  | request => nothing request

/-- A machine is to be adopted under the version that it reports. -/
def blankAdoption : @Episode host Unit :=
  let _ := host
  (Turn.adopt vm ⟨0⟩).against blank .shared Sample.thread ⟨{ }, ()⟩

/-- After that one is created that reports a version. -/
def soundCreation : @Episode host Unit :=
  let _ := host
  (Turn.create .v1_8 { }).against stubborn .shared Sample.thread blankAdoption.last

/-- A machine is created that reports zero. -/
def blankCreation : @Episode host Unit :=
  let _ := host
  (Turn.create .v1_8 { }).against blank .shared Sample.thread ⟨{ }, ()⟩

end Sample

omit [Host] in
/-- A machine that reports zero cannot be adopted under that version, and one that is created after
that and reports a version is registered under it. -/
theorem RegistrationHistory.versioned_sound :
    let _ := Sample.host
    let episodes := [Sample.blankAdoption, Sample.soundCreation]
    RegistrationHistory .shared episodes Sample.soundCreation.last ∧
      Sample.blankAdoption.TurnedDown ∧
      Sample.soundCreation.last.incumbent .shared = some ⟨Sample.vm, .v1_8, true⟩ ∧
      Versioned .shared episodes Sample.soundCreation.last := by
  intro _ episodes
  have hadoption : RegistrationHistory .shared [Sample.blankAdoption] Sample.blankAdoption.last :=
    (RegistrationHistory.start rfl).against (.adopt Sample.vm ⟨0⟩) Sample.blank
  have hhistory : RegistrationHistory .shared episodes Sample.soundCreation.last :=
    hadoption.against (.create .v1_8 { }) Sample.stubborn
  have hversioned := hhistory.versioned
  have hturned := hversioned.refused Sample.blankAdoption (by simp [episodes]) Sample.vm ⟨0⟩ rfl rfl
  exact ⟨hhistory, hturned, by decide +kernel, hversioned⟩

omit [Host] in
/-- A machine that reports zero is registered under that version when it is created, so not every
registered machine has a version. -/
theorem RegistrationHistory.version_of_blank :
    let _ := Sample.host
    RegistrationHistory .shared [Sample.blankCreation] Sample.blankCreation.last ∧
      Sample.blankCreation.result = .ok () ∧
      ¬ ∀ incumbent, Sample.blankCreation.last.incumbent .shared = some incumbent →
        incumbent.version.isValid = true := by
  intro _
  have hhistory : RegistrationHistory .shared [Sample.blankCreation] Sample.blankCreation.last :=
    (RegistrationHistory.start rfl).against (.create .v1_8 { }) Sample.blank
  refine ⟨hhistory, rfl, fun hvalid ↦ ?_⟩
  have hincumbent : Sample.blankCreation.last.incumbent .shared =
      some ⟨Sample.vm, ⟨0⟩, true⟩ := by decide +kernel
  exact absurd (hvalid _ hincumbent) (by decide)

end JavaInterop
