import JavaInterop.Proofs.Environment.Operation
import JavaInterop.Proofs.Lifecycle.Turn

/-!
# The history of a registration

Any sequence of turns on one lifecycle, with whatever else the process does in between, as long as
nobody else changes the registration.  What is registered can be told from the sequence alone: it is
what the last successful creation or adoption brought, until a turn ends its time.  From this it
follows what each turn answers and which machines are asked to shut down.
-/

namespace JavaInterop

variable [Host] {ω : Type} {id : LifecycleId} {thread : NativeThread} {first : Moment ω}

/-! ## Sequences of turns -/

/-- A lifecycle that starts with nothing registered, and the turns that were taken on it one after
another.  In between other code may do anything that leaves the registration alone. -/
inductive RegistrationHistory (id : LifecycleId) : List (Episode ω) → Moment ω → Prop
  | start {moment : Moment ω} (hvacant : (moment.bridge.lifecycle id).registration = none) :
      RegistrationHistory id [] moment
  | meanwhile {episodes : List (Episode ω)} {first last : Moment ω}
      (hfirst : RegistrationHistory id episodes first)
      (hsame : (last.bridge.lifecycle id).registration =
        (first.bridge.lifecycle id).registration) : RegistrationHistory id episodes last
  | turn {episodes : List (Episode ω)} {episode : Episode ω}
      (hfirst : RegistrationHistory id episodes episode.first)
      (hrun : (episode.turn.program id).run.Run episode.thread episode.first episode.exchanges
        episode.result episode.last)
      (hundisturbed : ∀ exchange ∈ episode.exchanges, exchange.Undisturbed id) :
      RegistrationHistory id (episodes ++ [episode]) episode.last

/-- The last successful creation or adoption is of the given kind, and no turn has ended the time of
its machine since. -/
def Since (kind : Episode ω → Prop) (episodes : List (Episode ω)) : Prop :=
  ∃ before made after, episodes = before ++ made :: after ∧ kind made ∧
    ∀ episode ∈ after, episode.turn.ends = false ∧ episode.installs = none

theorem not_since_nil {kind : Episode ω → Prop} : ¬ Since kind [] := by
  rintro ⟨before, made, after, hsplit, -⟩
  simp at hsplit

theorem since_snoc {kind : Episode ω → Prop} {episodes : List (Episode ω)}
    {episode : Episode ω} : Since kind (episodes ++ [episode]) ↔ kind episode ∨
      episode.turn.ends = false ∧ episode.installs = none ∧ Since kind episodes := by
  constructor
  · rintro ⟨before, made, after, hsplit, hkind, hafter⟩
    rcases List.eq_nil_or_concat after with rfl | ⟨rest, last, rfl⟩
    · obtain ⟨-, hlast⟩ := List.append_inj' hsplit (by simp)
      obtain ⟨rfl, -⟩ := List.cons.inj hlast
      exact .inl hkind
    · rw [List.concat_eq_append] at hafter hsplit
      rw [← List.cons_append, ← List.append_assoc] at hsplit
      obtain ⟨rfl, hlast⟩ := List.append_inj' hsplit (by simp)
      obtain ⟨rfl, -⟩ := List.cons.inj hlast
      obtain ⟨hends, hnone⟩ := hafter episode (by simp)
      refine .inr ⟨hends, hnone, before, made, rest, rfl, hkind, fun other hmem ↦ ?_⟩
      exact hafter other (by simp [hmem])
  · rintro (hkind | ⟨hends, hnone, before, made, after, rfl, hkind, hafter⟩)
    · exact ⟨episodes, episode, [], rfl, hkind, by simp⟩
    · refine ⟨before, made, after ++ [episode], by simp, hkind, fun other hmem ↦ ?_⟩
      rcases List.mem_append.1 hmem with hmem | hmem
      · exact hafter other hmem
      · cases List.mem_singleton.1 hmem
        exact ⟨hends, hnone⟩

/-- The last successful creation or adoption brought this machine, and no turn has ended its time
since. -/
def InOffice (episodes : List (Episode ω)) (incumbent : Incumbent) : Prop :=
  ∃ before made after, episodes = before ++ made :: after ∧ made.installs = some incumbent ∧
    ∀ episode ∈ after, episode.turn.ends = false ∧ episode.installs = none

theorem not_inOffice_nil {incumbent : Incumbent} :
    ¬ InOffice ([] : List (Episode ω)) incumbent :=
  not_since_nil

theorem inOffice_snoc {episodes : List (Episode ω)} {episode : Episode ω} {incumbent : Incumbent} :
    InOffice (episodes ++ [episode]) incumbent ↔ episode.installs = some incumbent ∨
      episode.turn.ends = false ∧ episode.installs = none ∧ InOffice episodes incumbent :=
  since_snoc

namespace RegistrationHistory

variable {episodes : List (Episode ω)} {moment : Moment ω}

/-- What is registered can be told from the turns. -/
theorem incumbent_iff (hhistory : RegistrationHistory id episodes moment) {incumbent : Incumbent} :
    moment.incumbent id = some incumbent ↔ InOffice episodes incumbent := by
  induction hhistory with
  | start hvacant =>
    rw [incumbent_eq_none_iff.2 hvacant]
    exact iff_of_false nofun not_inOffice_nil
  | meanwhile _ hsame ih =>
    rw [Moment.incumbent, hsame]
    exact ih
  | @turn _ episode _ hrun hundisturbed ih =>
    have hplain : episode.Plain id := episode.turn.isPlain _ _ _ hrun hundisturbed
    rw [inOffice_snoc, ← ih, hplain.incumbent]
    cases hends : episode.turn.ends with
    | true => simp [Episode.installs_of_ends hends]
    | false => cases hinstalls : episode.installs <;> simp

/-- Every turn of the sequence was taken after the ones before it. -/
theorem plain (hhistory : RegistrationHistory id episodes moment) {before after : List (Episode ω)}
    {episode : Episode ω} (hsplit : episodes = before ++ episode :: after) :
    RegistrationHistory id before episode.first ∧ episode.Plain id := by
  induction hhistory generalizing after with
  | start => simp at hsplit
  | meanwhile _ _ ih => exact ih hsplit
  | @turn earlier taken hfirst hrun hundisturbed ih =>
    rcases List.eq_nil_or_concat after with rfl | ⟨rest, last, rfl⟩
    · obtain ⟨rfl, hlast⟩ := List.append_inj' hsplit rfl
      obtain ⟨rfl, -⟩ := List.cons.inj hlast
      exact ⟨hfirst, taken.turn.isPlain _ _ _ hrun hundisturbed⟩
    · rw [List.concat_eq_append, ← List.cons_append, ← List.append_assoc] at hsplit
      obtain ⟨rfl, -⟩ := List.append_inj' hsplit rfl
      exact ih rfl

/-- What a turn finds registered. -/
theorem found (hhistory : RegistrationHistory id episodes moment) {before after : List (Episode ω)}
    {episode : Episode ω} (hsplit : episodes = before ++ episode :: after)
    {incumbent : Incumbent} :
    episode.first.incumbent id = some incumbent ↔ InOffice before incumbent :=
  (hhistory.plain hsplit).1.incumbent_iff

theorem found_nothing (hhistory : RegistrationHistory id episodes moment)
    {before after : List (Episode ω)} {episode : Episode ω}
    (hsplit : episodes = before ++ episode :: after)
    (hvacant : ∀ incumbent, ¬ InOffice before incumbent) : episode.first.incumbent id = none :=
  Option.eq_none_iff_forall_ne_some.2 fun incumbent hincumbent ↦
    hvacant incumbent ((hhistory.found hsplit).1 hincumbent)

/-- While a machine is registered, no turn brings another one. -/
theorem found_idle (hhistory : RegistrationHistory id episodes moment)
    {before after : List (Episode ω)} {episode : Episode ω} {incumbent : Incumbent}
    (hsplit : episodes = before ++ episode :: after) (hoffice : InOffice before incumbent)
    (hlasts : episode.turn.ends = false) :
    episode.installs = none ∧ episode.destroyed = [] := by
  obtain ⟨-, hplain⟩ := hhistory.plain hsplit
  have hfound := (hhistory.found hsplit).2 hoffice
  have hinstalls : episode.installs = none := by
    by_contra hsome
    have hvacant := hplain.vacant (Option.isSome_iff_ne_none.2 hsome)
    cases hvacant.symm.trans hfound
  refine ⟨hinstalls, ?_⟩
  cases hturn : episode.turn with
  | create =>
    have hrefused := hplain.refused (by rw [hturn]; rfl) (by rw [hfound]; rfl)
    rw [Episode.destroyed, hrefused.exchanges, List.filterMap_nil]
  | adopt => simp [hplain.destroyed, Episode.due, hturn]
  | teardown | reset | cleanup => simp [hturn, Turn.ends] at hlasts

/-- As long as a registration lasts, no machine is asked to shut down. -/
theorem stays (hhistory : RegistrationHistory id episodes moment)
    {before during after : List (Episode ω)} {incumbent : Incumbent}
    (hsplit : episodes = before ++ (during ++ after)) (hoffice : InOffice before incumbent)
    (hlasts : ∀ episode ∈ during, episode.turn.ends = false) :
    InOffice (before ++ during) incumbent ∧ during.flatMap Episode.destroyed = [] := by
  induction during generalizing before with
  | nil => exact ⟨by simpa using hoffice, rfl⟩
  | cons episode during ih =>
    obtain ⟨hinstalls, hdestroyed⟩ :=
      hhistory.found_idle hsplit hoffice (hlasts episode List.mem_cons_self)
    have hnext : episodes = before ++ [episode] ++ (during ++ after) := by simp [hsplit]
    obtain ⟨hafter, hrest⟩ := ih hnext
      (inOffice_snoc.2 (.inr ⟨hlasts episode List.mem_cons_self, hinstalls, hoffice⟩))
      fun other hmem ↦ hlasts other (List.mem_cons_of_mem _ hmem)
    refine ⟨by simpa using hafter, ?_⟩
    rw [List.flatMap_cons, hdestroyed, hrest, List.append_nil]

theorem reigns (hhistory : RegistrationHistory id episodes moment)
    {before during after : List (Episode ω)} {made : Episode ω} {incumbent : Incumbent}
    (hsplit : episodes = before ++ (made :: during ++ after))
    (hinstalls : made.installs = some incumbent)
    (hlasts : ∀ episode ∈ during, episode.turn.ends = false) :
    InOffice (before ++ made :: during) incumbent ∧
      (made :: during).flatMap Episode.destroyed = [] := by
  obtain ⟨-, hplain⟩ := hhistory.plain (by simpa using hsplit)
  have hmade : made.destroyed = [] := by
    rw [hplain.destroyed, hplain.vacant (by rw [hinstalls]; rfl)]
    exact (Episode.of_installs hinstalls).1
  have hnext : episodes = before ++ [made] ++ (during ++ after) := by simpa using hsplit
  obtain ⟨hoffice, hduring⟩ := hhistory.stays hnext
    (inOffice_snoc.2 (.inl hinstalls)) hlasts
  refine ⟨by simpa using hoffice, ?_⟩
  rw [List.flatMap_cons, hmade, hduring, List.append_nil]

end RegistrationHistory

/-- What is true of every sequence of turns on a lifecycle. -/
structure Regular (id : LifecycleId) (episodes : List (Episode ω)) (moment : Moment ω) : Prop where
  /-- A machine is registered exactly if the last successful creation or adoption brought it and no
  turn has ended its time since. -/
  registered : ∀ incumbent, moment.incumbent id = some incumbent ↔ InOffice episodes incumbent
  /-- Whatever creates or adopts with success brings a machine. -/
  succeeded : ∀ episode ∈ episodes, episode.turn.ends = false → episode.result = .ok () →
    episode.installs.isSome
  /-- While a machine is registered no other one can be, and trying to has no effect. -/
  refused : ∀ before episode after incumbent, episodes = before ++ episode :: after →
    InOffice before incumbent → episode.turn.seeks → episode.Refused
  /-- From its registration to its end, a machine is asked to shut down once if it was created and
  is torn down or cleaned up, and never if it was adopted or is reset. -/
  once : ∀ before made during ended after incumbent,
    episodes = before ++ (made :: during ++ ended :: after) → made.installs = some incumbent →
    (∀ episode ∈ during, episode.turn.ends = false) → ended.turn.ends →
    (made :: during ++ [ended]).flatMap Episode.destroyed =
      if made.turn.creates && ended.turn.destroys then [incumbent.vm] else []
  /-- As long as a registration lasts, no machine is asked to shut down. -/
  lasting : ∀ before made during after incumbent,
    episodes = before ++ (made :: during ++ after) → made.installs = some incumbent →
    (∀ episode ∈ during, episode.turn.ends = false) →
    (made :: during).flatMap Episode.destroyed = []
  /-- While nothing is registered, the only machine that is asked to shut down is one that could not
  be registered after it was created. -/
  vacant : ∀ before episode after, episodes = before ++ episode :: after →
    (∀ incumbent, ¬ InOffice before incumbent) → episode.destroyed = episode.due none
  /-- A teardown always leaves nothing registered, and it fails exactly if an owned machine of
  version 1.6 or later reports a failure. -/
  teardown : ∀ before episode after, episodes = before ++ episode :: after →
    episode.turn = .teardown →
    (episode.last.bridge.lifecycle id).registration = none ∧
      ∀ error, episode.result = .error error ↔ ∃ incumbent status, InOffice before incumbent ∧
        incumbent.owned = true ∧ ¬ incumbent.version < .v1_6 ∧ episode.refusal = some status ∧
        error = .vmDestroy status
  /-- With nothing registered there is nothing to tear down, to reset or to clean up. -/
  idle : ∀ before episode after, episodes = before ++ episode :: after → episode.turn.ends →
    (∀ incumbent, ¬ InOffice before incumbent) → episode.Idle

/-- Whatever the order of the turns, and whatever the library and the machines answer, what comes of
them is regular. -/
theorem RegistrationHistory.regular {episodes : List (Episode ω)} {moment : Moment ω}
    (hhistory : RegistrationHistory id episodes moment) : Regular id episodes moment where
  registered _ := hhistory.incumbent_iff
  succeeded episode hmem hends hresult := by
    obtain ⟨before, after, hsplit⟩ := List.append_of_mem hmem
    exact (hhistory.plain hsplit).2.succeeded hends hresult
  refused before episode after incumbent hsplit hoffice hseeks := by
    refine (hhistory.plain hsplit).2.refused hseeks ?_
    rw [(hhistory.found hsplit).2 hoffice]
    rfl
  once before made during ended after incumbent hsplit hinstalls hlasts hends := by
    obtain ⟨hoffice, hduring⟩ := hhistory.reigns (by simpa using hsplit) hinstalls hlasts
    have hsplit' : episodes = (before ++ made :: during) ++ ended :: after := by simpa using hsplit
    obtain ⟨-, hplain⟩ := hhistory.plain hsplit'
    have hended : ended.destroyed =
        if made.turn.creates && ended.turn.destroys then [incumbent.vm] else [] := by
      rw [hplain.destroyed, (hhistory.found hsplit').2 hoffice,
        ← (Episode.of_installs hinstalls).2.2]
      cases hturn : ended.turn <;> simp [hturn, Turn.ends, Turn.destroys, Episode.due] at hends ⊢
    rw [List.flatMap_append, hduring, List.nil_append, List.flatMap_singleton, hended]
  lasting before made during after incumbent hsplit hinstalls hlasts :=
    (hhistory.reigns hsplit hinstalls hlasts).2
  vacant before episode after hsplit hvacant := by
    rw [(hhistory.plain hsplit).2.destroyed, hhistory.found_nothing hsplit hvacant]
  teardown before episode after hsplit hturn := by
    obtain ⟨-, hplain⟩ := hhistory.plain hsplit
    refine ⟨incumbent_eq_none_iff.1 ?_, fun error ↦ ?_⟩
    · rw [hplain.incumbent, hturn]
      rfl
    · rw [hplain.failed hturn error]
      simp only [hhistory.found hsplit]
  idle before episode after hsplit hends hvacant :=
    (hhistory.plain hsplit).2.idle hends (hhistory.found_nothing hsplit hvacant)

/-- The episode of a turn that is taken with machines that always give the same answers. -/
def Turn.against (turn : Turn) (answer : (request : Call) → request.Reply) (id : LifecycleId)
    (thread : NativeThread) (first : Moment ω) : Episode ω :=
  let (exchanges, result, last) := (turn.program id).run.play (.answering answer) thread first
  ⟨turn, thread, first, exchanges, result, last⟩

theorem RegistrationHistory.against {episodes : List (Episode ω)}
    (hhistory : RegistrationHistory id episodes first) (turn : Turn)
    (answer : (request : Call) → request.Reply) :
    RegistrationHistory id (episodes ++ [turn.against answer id thread first])
      (turn.against answer id thread first).last :=
  .turn hhistory (Program.run_play _ (turn.program id).run)
    (Program.lawful_play _ fun _ _ ↦ rfl)

namespace Sample

/-- The answers of a machine that can be created and does not want to be destroyed. -/
def stubborn : (request : Call) → request.Reply
  | .create _ => .ok (some vm)
  | .destroy _ => .error .unknown
  | .env _ .getVersion => Version.v1_8.toInt
  | request => nothing request

/-- Such a machine is created. -/
def creation : @Episode host Unit :=
  let _ := host
  (Turn.create .v1_8 { }).against stubborn .shared Sample.thread ⟨{ }, ()⟩

/-- It is torn down, which fails. -/
def teardown : @Episode host Unit :=
  let _ := host
  Turn.teardown.against stubborn .shared Sample.thread creation.last

/-- It is torn down once more. -/
def secondTeardown : @Episode host Unit :=
  let _ := host
  Turn.teardown.against stubborn .shared Sample.thread teardown.last

end Sample

omit [Host] in
/-- A machine that cannot be destroyed is asked to shut down once, and then nothing is left to be
torn down. -/
theorem RegistrationHistory.regular_stubborn :
    let _ := Sample.host
    let episodes := [Sample.creation, Sample.teardown, Sample.secondTeardown]
    RegistrationHistory .shared episodes Sample.secondTeardown.last ∧
      Sample.creation.installs = some ⟨Sample.vm, .v1_8, true⟩ ∧
      Sample.teardown.result = .error (.vmDestroy .unknown) ∧
      episodes.flatMap Episode.destroyed = [Sample.vm] ∧
      Regular .shared episodes Sample.secondTeardown.last := by
  intro _ episodes
  have hcreation : RegistrationHistory .shared [Sample.creation] Sample.creation.last :=
    (RegistrationHistory.start rfl).against (.create .v1_8 { }) Sample.stubborn
  have hteardown : RegistrationHistory .shared [Sample.creation, Sample.teardown]
      Sample.teardown.last :=
    hcreation.against .teardown Sample.stubborn
  have hhistory : RegistrationHistory .shared episodes Sample.secondTeardown.last :=
    hteardown.against .teardown Sample.stubborn
  exact ⟨hhistory, by decide +kernel, by rfl, by decide +kernel, hhistory.regular⟩

end JavaInterop
