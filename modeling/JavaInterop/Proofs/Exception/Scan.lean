import JavaInterop.Proofs.Exception.Matched

/-!
# The walk as a search through a sequence

A source of names is asked again and again, and each answer may depend on the state that the last
one left.  Seen from outside it is a sequence of answers, which may go on for ever, end, repeat
itself or hold failures, and the walk is a search through this sequence.  The search is described
here without a walk: the answers before the decisive one are all *missed*, that is, names without a
factory other than the name of the root, and the decisive answer or the bound says what comes out.

The description also says how many requests are made and how many names are taken.  The first number
shows in the state that the source is left in; for the second one the source is made to count the
names that it gives.
-/

namespace JavaInterop

/-! ## The sequence of answers -/

namespace Ancestry

variable {σ : Type}

/-- The state of a source after so many requests. -/
def after (source : Ancestry Id σ) (start : σ) : Nat → σ
  | 0 => start
  | requests + 1 => (source.run.run (source.after start requests)).2

/-- The answers of a source, from the first one on. -/
def answer (source : Ancestry Id σ) (start : σ) (position : Nat) : Except Error (Option String) :=
  (source.run.run (source.after start position)).1

theorem run_after (source : Ancestry Id σ) (start : σ) (position : Nat) :
    source.run.run (source.after start position) =
      (source.answer start position, source.after start (position + 1)) :=
  rfl

/-- What follows a request goes on with the answer, and a failure is passed on. -/
theorem run_bind {α : Type} (source : Ancestry Id σ) (start : σ) (position : Nat)
    (rest : Option String → ExceptT Error (StateT σ Id) α) :
    (bind (m := ExceptT Error (StateT σ Id)) source rest).run.run (source.after start position) =
      match source.answer start position with
      | .ok name? => (rest name?).run.run (source.after start (position + 1))
      | .error error => (.error error, source.after start (position + 1)) := by
  change (match source.run.run (source.after start position) with
    | (answer, state) => (ExceptT.bindCont rest answer).run state) = _
  rw [run_after]
  cases source.answer start position <;> rfl

/-- Whether an answer gives a name. -/
def givesName : Except Error (Option String) → Bool
  | .ok (some _) => true
  | _ => false

/-- The same source, which also counts the names that it gives. -/
def counted (source : Ancestry Id σ) : Ancestry Id (σ × Nat) := ExceptT.mk fun state ↦
  let (answer, rest) := source.run.run state.1
  (answer, rest, state.2 + if givesName answer then 1 else 0)

/-- How many of the first so many answers give a name. -/
def taken (source : Ancestry Id σ) (start : σ) (requests : Nat) : Nat :=
  (List.range requests).countP fun position ↦ givesName (source.answer start position)

theorem taken_succ (source : Ancestry Id σ) (start : σ) (requests : Nat) :
    source.taken start (requests + 1) = source.taken start requests +
      if givesName (source.answer start requests) then 1 else 0 := by
  simp only [taken, List.range_succ, List.countP_append, List.countP_singleton]

theorem after_counted (source : Ancestry Id σ) (start : σ) (requests : Nat) :
    source.counted.after (start, 0) requests =
      (source.after start requests, source.taken start requests) := by
  induction requests with
  | zero => rfl
  | succ requests ih =>
    rw [taken_succ, after, ih]
    rfl

theorem answer_counted (source : Ancestry Id σ) (start : σ) (position : Nat) :
    source.counted.answer (start, 0) position = source.answer start position := by
  unfold answer
  rw [after_counted]
  rfl

end Ancestry

/-! ## The search -/

/-- The first so many answers are names, none of them the root's and none with a factory. -/
def Registry.Misses (registry : Registry) (answer : Nat → Except Error (Option String))
    (count : Nat) : Prop :=
  ∀ position < count, ∃ name, answer position = .ok (some name) ∧ name ≠ rootClass ∧
    registry.lookup name = none

section

variable {registry : Registry} {answer : Nat → Except Error (Option String)} {count : Nat}
  {name : String}

theorem Registry.Misses.snoc (hmisses : registry.Misses answer count)
    (hanswer : answer count = .ok (some name)) (hname : name ≠ rootClass)
    (hlookup : registry.lookup name = none) : registry.Misses answer (count + 1) := by
  intro position hposition
  rcases Nat.lt_succ_iff_lt_or_eq.1 hposition with hbefore | rfl
  · exact hmisses position hbefore
  · exact ⟨name, hanswer, hname, hlookup⟩

theorem Registry.Misses.le {fewer : Nat} (hmisses : registry.Misses answer count)
    (hfewer : fewer ≤ count) : registry.Misses answer fewer :=
  fun position hposition ↦ hmisses position (hposition.trans_le hfewer)

/-- A sequence that gives a name after those that are missed begins with a name. -/
theorem Registry.Misses.exists_first (hmisses : registry.Misses answer count)
    (hanswer : answer count = .ok (some name)) : ∃ className, answer 0 = .ok (some className) := by
  rcases Nat.eq_zero_or_pos count with rfl | hpos
  · exact ⟨name, hanswer⟩
  · obtain ⟨className, hfirst, -⟩ := hmisses 0 hpos
    exact ⟨className, hfirst⟩

end

/-- What comes of a search through a sequence of answers, after how many requests and with how many
names taken.  The class that is reported is always the first one. -/
inductive Registry.Scan (registry : Registry) (answer : Nat → Except Error (Option String)) :
    Except Error Resolution → (requests taken : Nat) → Prop
  | nameless (hanswer : answer 0 = .ok none) :
      registry.Scan answer (.error (.bridge "catch_and_throw: The exception has no class")) 1 0
  | fails {position : Nat} {error : Error} (hposition : position ≤ 4095)
      (hmisses : registry.Misses answer position) (hanswer : answer position = .error error) :
      registry.Scan answer (.error error) (position + 1) position
  | ends {position : Nat} {className : String} (hposition : position ≤ 4095)
      (hfirst : answer 0 = .ok (some className)) (hmisses : registry.Misses answer position)
      (hanswer : answer position = .ok none) :
      registry.Scan answer (.ok (.unmatched className)) (position + 1) position
  | root {position : Nat} {className : String} (hposition : position ≤ 4095)
      (hfirst : answer 0 = .ok (some className)) (hmisses : registry.Misses answer position)
      (hanswer : answer position = .ok (some rootClass)) :
      registry.Scan answer (.ok (.unmatched className)) (position + 1) (position + 1)
  | found {position : Nat} {className name : String} {factory : Factory}
      (hposition : position ≤ 4095) (hfirst : answer 0 = .ok (some className))
      (hmisses : registry.Misses answer position) (hanswer : answer position = .ok (some name))
      (hname : name ≠ rootClass) (hlookup : registry.lookup name = some factory) :
      registry.Scan answer (.ok (.matched factory className)) (position + 1) (position + 1)
  | exhausted {className : String} (hfirst : answer 0 = .ok (some className))
      (hmisses : registry.Misses answer 4096) :
      registry.Scan answer (.error (.endlessAncestry className)) 4096 4096

/-- A search looks at no more than so many answers. -/
theorem Registry.Scan.bounded {registry : Registry} {answer : Nat → Except Error (Option String)}
    {result : Except Error Resolution} {requests taken : Nat}
    (hscan : registry.Scan answer result requests taken) : taken ≤ requests ∧ requests ≤ 4096 := by
  cases hscan <;> omega

/-- Whatever a sequence holds, a search through it has come to an end or missed everything so
far. -/
theorem Registry.scan_or_misses (registry : Registry)
    (answer : Nat → Except Error (Option String)) {count : Nat} (hcount : count ≤ 4096) :
    (∃ result requests taken, registry.Scan answer result requests taken) ∨
      registry.Misses answer count := by
  induction count with
  | zero => exact .inr fun position hposition ↦ absurd hposition position.not_lt_zero
  | succ position ih =>
    have hposition : position ≤ 4095 := Nat.le_of_succ_le_succ hcount
    rcases ih (Nat.le_of_succ_le hcount) with hscan | hmisses
    · exact .inl hscan
    cases hanswer : answer position with
    | error error => exact .inl ⟨_, _, _, .fails hposition hmisses hanswer⟩
    | ok name? =>
      cases name? with
      | none =>
        rcases Nat.eq_zero_or_pos position with rfl | hpos
        · exact .inl ⟨_, _, _, .nameless hanswer⟩
        · obtain ⟨className, hfirst, -⟩ := hmisses 0 hpos
          exact .inl ⟨_, _, _, .ends hposition hfirst hmisses hanswer⟩
      | some name =>
        obtain ⟨className, hfirst⟩ := hmisses.exists_first hanswer
        by_cases hname : name = rootClass
        · subst hname
          exact .inl ⟨_, _, _, .root hposition hfirst hmisses hanswer⟩
        cases hlookup : registry.lookup name with
        | none => exact .inr (hmisses.snoc hanswer hname hlookup)
        | some factory =>
          exact .inl ⟨_, _, _, .found hposition hfirst hmisses hanswer hname hlookup⟩

theorem Registry.exists_scan (registry : Registry)
    (answer : Nat → Except Error (Option String)) :
    ∃ result requests taken, registry.Scan answer result requests taken := by
  rcases registry.scan_or_misses answer le_rfl with hscan | hmisses
  · exact hscan
  · obtain ⟨className, hfirst, -⟩ := hmisses 0 (by decide)
    exact ⟨_, _, _, .exhausted hfirst hmisses⟩

/-- The search takes the names that it looks at, and no others. -/
theorem Registry.Scan.taken_eq {σ : Type} {registry : Registry} {source : Ancestry Id σ} {start : σ}
    {result : Except Error Resolution} {requests taken : Nat}
    (hscan : registry.Scan (source.answer start) result requests taken) :
    source.taken start requests = taken := by
  have hall : ∀ count, registry.Misses (source.answer start) count →
      source.taken start count = count := by
    intro count hmisses
    induction count with
    | zero => rfl
    | succ count ih =>
      obtain ⟨name, hanswer, -⟩ := hmisses count count.lt_succ_self
      rw [source.taken_succ, ih (hmisses.le count.le_succ), hanswer]
      rfl
  cases hscan with
  | nameless hanswer => rw [source.taken_succ, hanswer]; rfl
  | fails _ hmisses hanswer => rw [source.taken_succ, hall _ hmisses, hanswer]; rfl
  | ends _ _ hmisses hanswer => rw [source.taken_succ, hall _ hmisses, hanswer]; rfl
  | root _ _ hmisses hanswer => rw [source.taken_succ, hall _ hmisses, hanswer]; rfl
  | found _ _ hmisses hanswer => rw [source.taken_succ, hall _ hmisses, hanswer]; rfl
  | exhausted _ hmisses => exact hall _ hmisses

/-! ## The walk -/

section

variable {m : Type → Type} [Monad m] {σ : Type} {registry other : Registry}

theorem walk_zero {next : Ancestry m σ} {className name : String} (hname : name ≠ rootClass)
    (hlookup : registry.lookup name = none) :
    walk registry next className 0 name = throw (.endlessAncestry className) := by
  rw [walk.eq_def]
  refine (if_neg hname).trans ?_
  rw [hlookup]

/-- What a registry holds for the root makes no difference. -/
theorem walk_congr {next : Ancestry m σ} (className : String) (remaining : Nat) (name : String)
    (hsame : ∀ name ≠ rootClass, other.lookup name = registry.lookup name) :
    walk other next className remaining name = walk registry next className remaining name := by
  induction remaining generalizing name with
  | zero =>
    by_cases hname : name = rootClass
    · rw [walk_of_root hname, walk_of_root hname]
    cases hlookup : registry.lookup name with
    | none => rw [walk_zero hname hlookup, walk_zero hname ((hsame name hname).trans hlookup)]
    | some factory =>
      rw [walk_of_lookup hname hlookup, walk_of_lookup hname ((hsame name hname).trans hlookup)]
  | succ remaining ih =>
    by_cases hname : name = rootClass
    · rw [walk_of_root hname, walk_of_root hname]
    cases hlookup : registry.lookup name with
    | none =>
      rw [walk_succ hname hlookup, walk_succ hname ((hsame name hname).trans hlookup)]
      simp only [ih]
    | some factory =>
      rw [walk_of_lookup hname hlookup, walk_of_lookup hname ((hsame name hname).trans hlookup)]

theorem resolve_congr (next : Ancestry m σ)
    (hsame : ∀ name ≠ rootClass, other.lookup name = registry.lookup name) :
    resolve other next = resolve registry next := by
  unfold resolve
  simp only [walk_congr _ _ _ hsame]

end

section

variable {σ : Type} {registry : Registry} {source : Ancestry Id σ} {start : σ}
  {className name : String} {position : Nat}

theorem run_resolve (registry : Registry) (source : Ancestry Id σ) (start : σ) :
    (resolve registry source).run.run start =
      match source.answer start 0 with
      | .ok (some className) =>
        (walk registry source className 4095 className).run.run (source.after start 1)
      | .ok none => (.error (.bridge "catch_and_throw: The exception has no class"),
          source.after start 1)
      | .error error => (.error error, source.after start 1) := by
  refine (source.run_bind start 0 _).trans ?_
  rcases source.answer start 0 with error | _ | className <;> rfl

/-- After a name that is missed the next answer decides or gives the next name. -/
theorem run_walk_of_missed (hname : name ≠ rootClass) (hlookup : registry.lookup name = none)
    (remaining : Nat) :
    (walk registry source className (remaining + 1) name).run.run (source.after start position) =
      match source.answer start position with
      | .ok (some name) => (walk registry source className remaining name).run.run
          (source.after start (position + 1))
      | .ok none => (.ok (.unmatched className), source.after start (position + 1))
      | .error error => (.error error, source.after start (position + 1)) := by
  rw [walk_succ hname hlookup, source.run_bind]
  rcases source.answer start position with error | _ | name <;> rfl

/-- As long as the names are missed, the walk goes on to the next one and has fewer left to look
at. -/
theorem run_resolve_of_misses (hfirst : source.answer start 0 = .ok (some className))
    (hmisses : registry.Misses (source.answer start) position) (hposition : position ≤ 4095)
    (hanswer : source.answer start position = .ok (some name)) :
    (resolve registry source).run.run start =
      (walk registry source className (4095 - position) name).run.run
        (source.after start (position + 1)) := by
  induction position generalizing name with
  | zero =>
    obtain rfl : className = name := Option.some.inj (Except.ok.inj (hfirst.symm.trans hanswer))
    rw [run_resolve, hfirst]
  | succ position ih =>
    obtain ⟨missed, hmissed, hname, hlookup⟩ := hmisses position position.lt_succ_self
    rw [ih (hmisses.le position.le_succ) (Nat.le_of_succ_le hposition) hmissed]
    have hremaining : 4095 - position = 4095 - (position + 1) + 1 := by omega
    rw [hremaining, run_walk_of_missed hname hlookup, hanswer]

theorem run_resolve_of_missed (hfirst : source.answer start 0 = .ok (some className))
    (hmisses : registry.Misses (source.answer start) (position + 1))
    (hposition : position + 1 ≤ 4095) :
    (resolve registry source).run.run start =
      match source.answer start (position + 1) with
      | .ok (some name) => (walk registry source className (4095 - (position + 1)) name).run.run
          (source.after start (position + 2))
      | .ok none => (.ok (.unmatched className), source.after start (position + 2))
      | .error error => (.error error, source.after start (position + 2)) := by
  obtain ⟨missed, hmissed, hname, hlookup⟩ := hmisses position position.lt_succ_self
  rw [run_resolve_of_misses hfirst (hmisses.le position.le_succ) (Nat.le_of_succ_le hposition)
    hmissed]
  have hremaining : 4095 - position = 4095 - (position + 1) + 1 := by omega
  rw [hremaining, run_walk_of_missed hname hlookup]

/-- The search tells the outcome of the walk and the state that the source is left in. -/
theorem Registry.Scan.run_resolve {result : Except Error Resolution} {requests taken : Nat}
    (hscan : registry.Scan (source.answer start) result requests taken) :
    (resolve registry source).run.run start = (result, source.after start requests) := by
  cases hscan with
  | nameless hanswer => rw [JavaInterop.run_resolve, hanswer]
  | fails hposition hmisses hanswer =>
    cases taken with
    | zero => rw [JavaInterop.run_resolve, hanswer]
    | succ position =>
      obtain ⟨className, hfirst, -⟩ := hmisses 0 position.succ_pos
      rw [run_resolve_of_missed hfirst hmisses hposition, hanswer]
  | ends hposition hfirst hmisses hanswer =>
    cases taken with
    | zero => cases hfirst.symm.trans hanswer
    | succ position => rw [run_resolve_of_missed hfirst hmisses hposition, hanswer]
  | root hposition hfirst hmisses hanswer =>
    rw [run_resolve_of_misses hfirst hmisses hposition hanswer, walk_of_root rfl]
    rfl
  | found hposition hfirst hmisses hanswer hname hlookup =>
    rw [run_resolve_of_misses hfirst hmisses hposition hanswer, walk_of_lookup hname hlookup]
    rfl
  | exhausted hfirst hmisses =>
    obtain ⟨name, hanswer, hname, hlookup⟩ := hmisses 4095 (by decide)
    rw [run_resolve_of_misses hfirst (hmisses.le (by decide)) le_rfl hanswer,
      walk_zero hname hlookup]
    rfl

/-- The source that counts its names is left with the count of those that the search takes. -/
theorem Registry.Scan.run_resolve_counted {result : Except Error Resolution} {requests taken : Nat}
    (hscan : registry.Scan (source.answer start) result requests taken) :
    (resolve registry source.counted).run.run (start, 0) =
      (result, source.after start requests, taken) := by
  have hcounted : registry.Scan (source.counted.answer (start, 0)) result requests taken := by
    rwa [funext (source.answer_counted start)]
  rw [hcounted.run_resolve, source.after_counted, hscan.taken_eq]

end

/-- The walk is the search, for every registry and every source.  It comes to an end after no more
than 4096 requests, with the outcome, the state and the number of names that the search has, and it
does not depend on a factory for the root. -/
theorem resolve_iff_scan {σ : Type} (registry : Registry) (source : Ancestry Id σ) (start : σ) :
    (∃ result requests taken, registry.Scan (source.answer start) result requests taken ∧
      taken ≤ requests ∧ requests ≤ 4096) ∧
    (∀ result last, (resolve registry source).run.run start = (result, last) ↔
      ∃ requests taken, registry.Scan (source.answer start) result requests taken ∧
        last = source.after start requests) ∧
    (∀ result last taken,
      (resolve registry source.counted).run.run (start, 0) = (result, last, taken) ↔
      ∃ requests, registry.Scan (source.answer start) result requests taken ∧
        last = source.after start requests) ∧
    ∀ other : Registry, (∀ name ≠ rootClass, other.lookup name = registry.lookup name) →
      resolve other source = resolve registry source := by
  obtain ⟨result, requests, taken, hscan⟩ := registry.exists_scan (source.answer start)
  refine ⟨⟨result, requests, taken, hscan, hscan.bounded⟩, ?_, ?_, ?_⟩
  · intro result' last
    constructor
    · intro hrun
      obtain ⟨rfl, rfl⟩ := Prod.mk.inj (hscan.run_resolve.symm.trans hrun)
      exact ⟨requests, taken, hscan, rfl⟩
    · rintro ⟨requests', taken', hscan', rfl⟩
      exact hscan'.run_resolve
  · intro result' last taken'
    constructor
    · intro hrun
      obtain ⟨rfl, hlast⟩ := Prod.mk.inj (hscan.run_resolve_counted.symm.trans hrun)
      obtain ⟨rfl, rfl⟩ := Prod.mk.inj hlast
      exact ⟨requests, hscan, rfl⟩
    · rintro ⟨requests', hscan', rfl⟩
      exact hscan'.run_resolve_counted
  · intro other hsame
    exact resolve_congr source hsame

/-- A class that is its own superclass is named 4096 times, even if there is a factory for the
root. -/
theorem resolve_endless :
    let source : Ancestry Id Unit := ExceptT.mk fun _ ↦ (.ok (some "Loop"), ())
    let rooted : Registry := ⟨[.proxy ⟨"Object", "java/lang/Object"⟩], by decide +kernel⟩
    (∀ name ≠ rootClass, rooted.lookup name = Registry.empty.lookup name) ∧
      resolve rooted source = resolve Registry.empty source ∧
      (resolve rooted source.counted).run.run ((), 0) =
        (.error (.endlessAncestry "Loop"), (), 4096) := by
  intro source rooted
  have hsame : ∀ name ≠ rootClass, rooted.lookup name = Registry.empty.lookup name := by
    intro name hname
    refine Registry.lookup_eq_none_iff.2 fun hmem ↦ hname ?_
    exact (List.mem_singleton.1 hmem).trans (by decide +kernel)
  have hloop : "Loop" ≠ rootClass := by decide
  have hmisses : rooted.Misses (source.answer ()) 4096 :=
    fun _ _ ↦ ⟨"Loop", rfl, hloop, hsame "Loop" hloop⟩
  obtain ⟨-, -, hcounted, -⟩ := resolve_iff_scan rooted source ()
  obtain ⟨-, -, -, hresolve⟩ := resolve_iff_scan Registry.empty source ()
  exact ⟨hsame, hresolve rooted hsame, (hcounted _ _ _).2 ⟨4096, .exhausted rfl hmisses, rfl⟩⟩

end JavaInterop
