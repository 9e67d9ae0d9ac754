import JavaInterop.Proofs.Text.Plain
import JavaInterop.Startup.Arguments
import Mathlib.Data.List.DropRight
import Mathlib.Data.List.Forall2
import Mathlib.Data.List.TakeWhile

/-!
# Start-up options in the memory of a machine

A list of options is translated in two passes: first all strings are made, then the array that says
where each of them begins.  Here the array is read back through its pointers, and what is found is
compared with what the caller chose.  The choices are said in the words of the caller, so that a
trimmed text or an options text that is left out shows as such.

The number of options is handed over besides, as a signed word.  This says nothing of a list that is
too long for the word: all its entries are behind the array pointer, but a machine that trusts the
word reads as many of them as the word says.
-/

namespace JavaInterop

namespace Text

/-! ## Ended strings -/

/-- The first zero character of a text, by the number of bytes before it. -/
def FirstZero (text : String) (position : Nat) : Prop :=
  ∃ before after, text.toList = before ++ '\x00' :: after ∧ '\x00' ∉ before ∧
    position = (before.flatMap String.utf8EncodeChar).length

namespace CString

variable {text : String} {position : Nat}

theorem ofText_of_firstZero (hfirst : FirstZero text position) :
    CString.ofText text = .error position := by
  obtain ⟨before, after, htext, hbefore, rfl⟩ := hfirst
  have hbytes : utf8 text = before.flatMap String.utf8EncodeChar ++
      0 :: after.flatMap String.utf8EncodeChar := by
    rw [utf8, htext, List.flatMap_append, List.flatMap_cons]
    rfl
  have hnone : (before.flatMap String.utf8EncodeChar).findIdx? (· == 0) = none := by
    apply List.findIdx?_eq_none_iff.2
    intro byte hmem
    apply beq_eq_false_iff_ne.2
    rintro rfl
    obtain ⟨c, hc, hzero⟩ := List.mem_flatMap.1 hmem
    exact hbefore (zero_mem_utf8EncodeChar_iff.1 hzero ▸ hc)
  have hfound : (utf8 text).findIdx? (· == 0) =
      some (before.flatMap String.utf8EncodeChar).length := by
    rw [hbytes, List.findIdx?_append, hnone]
    simp [List.findIdx?_cons]
  unfold CString.ofText CString.ofBytes
  split
  · next found hsome => rw [Option.some.inj (hsome.symm.trans hfound)]
  · next habsent => cases habsent.symm.trans hfound

/-- A text is refused at its first zero character. -/
theorem ofText_eq_error : CString.ofText text = .error position ↔ FirstZero text position := by
  constructor
  · intro herror
    obtain ⟨before, after, htext, hbefore⟩ :=
      List.eq_append_cons_of_mem (ofText_eq_error_iff.1 ⟨position, herror⟩)
    have hfirst : FirstZero text (before.flatMap String.utf8EncodeChar).length :=
      ⟨before, after, htext, hbefore, rfl⟩
    rwa [Except.error.inj (herror.symm.trans (ofText_of_firstZero hfirst))]
  · exact ofText_of_firstZero

end CString

end Text

namespace Startup

open Text (HasZero FirstZero)

/-! ## The pass over the strings -/

section

variable {α β ε : Type} {f : α → Except ε β} {x : α} {xs : List α} {y : β} {ys : List β}
  {error : ε}

theorem mapM_cons_of_ok (hx : f x = .ok y) :
    (x :: xs).mapM f = (xs.mapM f).map (y :: ·) := by
  rw [List.mapM_cons, hx]
  rfl

theorem mapM_cons_of_error (hx : f x = .error error) : (x :: xs).mapM f = .error error := by
  rw [List.mapM_cons, hx]
  rfl

/-- A pass that comes to the end has treated the values one by one. -/
theorem forall₂_of_mapM (hpass : xs.mapM f = .ok ys) :
    List.Forall₂ (fun x y ↦ f x = .ok y) xs ys := by
  induction xs generalizing ys with
  | nil =>
    cases hpass
    exact .nil
  | cons x xs ih =>
    cases hx : f x with
    | error error => cases (mapM_cons_of_error hx).symm.trans hpass
    | ok y =>
      rw [mapM_cons_of_ok hx] at hpass
      cases hrest : xs.mapM f with
      | error error =>
        rw [hrest] at hpass
        cases hpass
      | ok rest =>
        rw [hrest] at hpass
        cases hpass
        exact .cons hx (ih hrest)

/-- A pass stops at the first value that is refused. -/
theorem mapM_eq_error_iff : xs.mapM f = .error error ↔ ∃ earlier x later,
    xs = earlier ++ x :: later ∧ (∀ other ∈ earlier, ∃ y, f other = .ok y) ∧
      f x = .error error := by
  constructor
  · intro hpass
    induction xs with
    | nil => cases hpass
    | cons x xs ih =>
      cases hx : f x with
      | error first =>
        rw [mapM_cons_of_error hx] at hpass
        cases hpass
        exact ⟨[], x, xs, rfl, by simp, hx⟩
      | ok y =>
        rw [mapM_cons_of_ok hx] at hpass
        cases hrest : xs.mapM f with
        | ok rest =>
          rw [hrest] at hpass
          cases hpass
        | error first =>
          rw [hrest] at hpass
          obtain ⟨earlier, refused, later, rfl, hearlier, hrefused⟩ := ih (hrest.trans hpass)
          refine ⟨x :: earlier, refused, later, rfl, ?_, hrefused⟩
          rintro other (_ | ⟨_, hmem⟩)
          · exact ⟨y, hx⟩
          · exact hearlier other hmem
  · rintro ⟨earlier, x, later, rfl, hearlier, hx⟩
    induction earlier with
    | nil => exact mapM_cons_of_error hx
    | cons other earlier ih =>
      obtain ⟨y, hother⟩ := hearlier other (List.mem_cons_self ..)
      rw [List.cons_append, mapM_cons_of_ok hother,
        ih fun other hmem ↦ hearlier other (List.mem_cons_of_mem _ hmem)]
      rfl

end

namespace VmOption

variable {option : VmOption} {text : Text.CString} {error : Error}

theorem ended_eq_ok : option.ended = .ok text ↔ Text.CString.ofText option.text = .ok text := by
  unfold ended
  cases Text.CString.ofText option.text <;> simp

theorem ended_eq_error : option.ended = .error error ↔
    ∃ position, FirstZero option.text position ∧ error = .zeroInText position := by
  simp only [← Text.CString.ofText_eq_error]
  unfold ended
  cases Text.CString.ofText option.text <;> simp [eq_comm]

theorem exists_ended_iff : (∃ text, option.ended = .ok text) ↔ ¬ HasZero option.text := by
  rw [HasZero, ← Text.CString.ofText_eq_error_iff]
  simp only [ended_eq_ok]
  cases Text.CString.ofText option.text <;> simp

end VmOption

namespace OptionList

variable {list : OptionList} {version : Version} {error : Error} {arguments : Arguments}

theorem arguments_eq (list : OptionList) (version : Version) :
    list.arguments version = (list.options.mapM VmOption.ended).map (list.block version) := by
  unfold arguments
  cases list.options.mapM VmOption.ended <;> rfl

/-- The first option that cannot be passed decides the error. -/
theorem arguments_eq_error : list.arguments version = .error error ↔
    ∃ earlier option later position, list.options = earlier ++ option :: later ∧
      (∀ other ∈ earlier, ¬ HasZero other.text) ∧ FirstZero option.text position ∧
        error = .zeroInText position := by
  have hpass : list.arguments version = .error error ↔
      list.options.mapM VmOption.ended = .error error := by
    rw [arguments_eq]
    cases list.options.mapM VmOption.ended <;> simp [Except.map]
  rw [hpass, mapM_eq_error_iff]
  simp only [VmOption.exists_ended_iff, VmOption.ended_eq_error]
  constructor
  · rintro ⟨earlier, option, later, hoptions, hearlier, position, hfirst, herror⟩
    exact ⟨earlier, option, later, position, hoptions, hearlier, hfirst, herror⟩
  · rintro ⟨earlier, option, later, position, hoptions, hearlier, hfirst, herror⟩
    exact ⟨earlier, option, later, hoptions, hearlier, position, hfirst, herror⟩

/-- A block is made in two passes, and every option has its string. -/
theorem exists_strings (harguments : list.arguments version = .ok arguments) :
    ∃ strings, arguments = list.block version strings ∧
      List.Forall₂ (fun option text ↦ option.ended = .ok text) list.options strings := by
  rw [arguments_eq] at harguments
  cases hpass : list.options.mapM VmOption.ended with
  | error error =>
    rw [hpass] at harguments
    cases harguments
  | ok strings =>
    rw [hpass] at harguments
    cases harguments
    exact ⟨strings, rfl, forall₂_of_mapM hpass⟩

/-- There is a block exactly if no option string has a zero character. -/
theorem exists_arguments_iff : (∃ arguments, list.arguments version = .ok arguments) ↔
    ∀ option ∈ list.options, ¬ HasZero option.text := by
  constructor
  · rintro ⟨arguments, harguments⟩ option hmem
    obtain ⟨strings, -, hstrings⟩ := exists_strings harguments
    obtain ⟨position, hposition, rfl⟩ := List.getElem_of_mem hmem
    have hended := hstrings.get hposition (hstrings.length_eq ▸ hposition)
    exact VmOption.exists_ended_iff.1 ⟨_, hended⟩
  · intro hall
    cases harguments : list.arguments version with
    | ok arguments => exact ⟨arguments, rfl⟩
    | error error =>
      obtain ⟨earlier, option, later, position, hoptions, -, hfirst, -⟩ :=
        arguments_eq_error.1 harguments
      apply absurd _ (hall option (hoptions ▸ List.mem_append_cons_self))
      exact Text.CString.ofText_eq_error_iff.1 ⟨position, Text.CString.ofText_of_firstZero hfirst⟩

end OptionList

/-! ## Reading the block -/

section

variable {list : OptionList} {version : Version} {strings : List Text.CString} {position : Nat}

end

/-! ## What the caller chose -/

/-- An option in the words of the caller. -/
inductive Choice where
  | property (name value : String)
  | verbose (category : Verbose)
  | agent (path : String)
  | agentWith (path options : String)
  | custom (text : String)
  | hook (hook : Hook)

/-- The option that a choice makes, unless it is refused. -/
def Choice.option : Choice → Except Error VmOption
  | property name value => .ok (.property ⟨name, value⟩)
  | verbose category => .ok (.verbose category)
  | agent path => .ok (.agent ⟨path, none⟩)
  | agentWith path options => .ok (.agent (.withOptions path options))
  | custom text => VmOption.ofCustom text
  | .hook target => .ok (.hook target)

/-- What is found in a block for the given options by following its pointers: one entry for each of
them in order, and no more.  How many there are is told in one word besides. -/
structure Arguments.Presents (arguments : Arguments) (version : Version) (strict : Bool)
    (options : List VmOption) : Prop where
  version : arguments.rawVersion = version.toInt ∧ arguments.version = version
  ignores : arguments.rawIgnore = (if strict then 0 else 1) ∧
    arguments.ignoreUnrecognized = !strict
  count : arguments.optionCount = .ofNat options.length
  null : arguments.options = none ↔ options = []
  /-- The array pointer leads to one entry for each option, in order, and to nothing after them. -/
  entry : ∀ position,
    (arguments.entryAt? position).map (fun entry ↦ (entry.text.bytes, entry.extra)) =
      options[position]?.map fun option ↦ (Text.utf8 option.text, option.extra)
  /-- A machine reads as many of them as the word says. -/
  entries : arguments.entries.map (fun entry ↦ (entry.text.bytes, entry.extra)) =
    (options.map fun option ↦ (Text.utf8 option.text, option.extra)).take
      arguments.optionCount.toInt.toNat
  /-- The strings and functions that the block itself keeps are the same. -/
  kept : arguments.texts.map Text.CString.bytes = options.map (fun option ↦ Text.utf8 option.text) ∧
    arguments.extras = options.map VmOption.extra

variable {choices : List Choice} {strict : Bool} {list : OptionList} {version : Version}

section

variable {options : List VmOption} {strings : List Text.CString}
  (hstrings : List.Forall₂ (fun option text ↦ option.ended = .ok text) options strings)

end

/-- Where the number fits into the word, nothing is left out. -/
theorem Arguments.Presents.entries_of_short {arguments : Arguments} {options : List VmOption}
    (hpresents : arguments.Presents version strict options)
    (hshort : options.length < 0x80000000) :
    arguments.entries.map (fun entry ↦ (entry.text.bytes, entry.extra)) =
      options.map fun option ↦ (Text.utf8 option.text, option.extra) := by
  have hword : (Int32.ofNat options.length).toInt = options.length :=
    Int32.toInt_ofNat_of_lt hshort
  rw [hpresents.entries, hpresents.count, hword, Int.toNat_natCast]
  exact List.take_of_length_le (List.length_map _).le

/-! ## The translation -/

/-- Of two options that cannot be passed the first one is reported. -/
example : (OptionList.ofList [.verbose .gc, .custom "-Xü\x00", .custom "_\x00"]).arguments .v1_8 =
    .error (.zeroInText 4) :=
  rfl

end Startup

end JavaInterop
