import AnnotatedMake.Proofs.Shell.Reader
import AnnotatedMake.Text.Blank
import Mathlib.Algebra.GroupWithZero.Nat

namespace AnnotatedMake.Shell.Fish

/-- The characters that never just stand for themselves outside of quotes. -/
def isSpecial (c : Char) : Bool := ("\\'\"$*()\x7b\x7d".toList ++ [Char.ofNat 0]).elem c

/-- The characters that end a word, unless quotes or brackets hold it together. -/
def endsWord (c : Char) : Bool := " \t\n\r|;<>".toList.elem c

/-- The characters that do not just stand for themselves where a word begins. -/
def opensSpecial (c : Char) : Bool := "#~&\x0b\x0c".toList.elem c

/-- The characters that a binding is written with. -/
def isOrdinary (c : Char) : Bool := c.isAlphanum || c = '-' || c = '_'

/-- What the releases of fish and its settings read in different ways. -/
structure Dialect where
  /-- Further characters that do not stand for themselves, as a question mark that matches files. -/
  special : Char → Bool
  /-- Further ones where a word begins, as a percent sign, a caret and blanks beyond ASCII. -/
  opens : Char → Bool
  /-- An ampersand belongs to a word that goes on behind it. -/
  joins : Bool
  ordinary : ∀ c, isOrdinary c = true → special c = false ∧ opens c = false

/-- How the next character of a line is read, and whether a bracket is open. -/
inductive Mode where
  | bare (inside : Bool)
  /-- Behind an ampersand that belongs to a word if the word goes on. -/
  | joining
  /-- Behind a backslash outside of quotes. -/
  | escaped (inside : Bool)
  | single (inside : Bool)
  /-- Behind a backslash between single quotes. -/
  | singleEscaped (inside : Bool)
  | double (inside : Bool)
  /-- Behind a backslash between double quotes. -/
  | doubleEscaped (inside : Bool)
deriving DecidableEq

/-- Whether a word that is being read ends with what would have ended it outside of brackets. -/
def heldEnds (held : Option String) : Bool :=
  ((held.getD "").toList.getLast?.map endsWord).getD false

/-- Reads a character outside of quotes. -/
def bareStep (dialect : Dialect) (inside : Bool) (reader : Reader Mode) (c : Char) :
    Option (Reader Mode) :=
  if (c = ' ' ∨ c = '\t') ∧ inside = false then some reader.parted
  else if c = '\\' then some (reader.into (.escaped inside))
  else if c = '\'' then some (reader.opened (.single inside))
  else if c = '"' then some (reader.opened (.double inside))
  else if isSpecial c || dialect.special c then none
  else if inside then
    if c = ']' then some ((reader.take c).into (.bare false))
    -- comments begin behind blanks, even within brackets
    else if c = '#' && heldEnds reader.held then none
    else some (reader.take c)
  else if endsWord c then none
  else if reader.held.isNone then
    if opensSpecial c || dialect.opens c then none else some (reader.take c)
  else if c = '&' then if dialect.joins then some (reader.into .joining) else none
  else if c = '[' then some ((reader.take c).into (.bare true))
  else some (reader.take c)

def step (dialect : Dialect) (reader : Reader Mode) (c : Char) : Option (Reader Mode) :=
  match reader.mode with
  | .bare inside => bareStep dialect inside reader c
  | .joining =>
    if endsWord c || c = '&' then none
    else bareStep dialect false ((reader.take '&').into (.bare false)) c
  | .escaped inside =>
    -- a line feed is left out; letters and digits tell another character
    if c = '\n' then some (reader.into (.bare inside))
    else if c.isAlphanum then none
    else some ((reader.take c).into (.bare inside))
  | .single inside =>
    if c = '\'' then some (reader.into (.bare inside))
    else if c = '\\' then some (reader.into (.singleEscaped inside))
    else some (reader.take c)
  | .singleEscaped inside =>
    if c = '\'' ∨ c = '\\' then some ((reader.take c).into (.single inside))
    else some (((reader.take '\\').take c).into (.single inside))
  | .double inside =>
    if c = '"' then some (reader.into (.bare inside))
    else if c = '\\' then some (reader.into (.doubleEscaped inside))
    else if c = '$' then none
    else some (reader.take c)
  | .doubleEscaped inside =>
    if c = '\n' then some (reader.into (.double inside))
    else if "$\"\\".toList.elem c then some ((reader.take c).into (.double inside))
    else some (((reader.take '\\').take c).into (.double inside))

/-- The words that fish splits a text into, if nothing in it has another meaning. -/
def wordsRead (dialect : Dialect) (text : String) : Option (List String) :=
  Reader.wordsRead (.bare false) (step dialect) text

/-- A dialect that takes everything it can as it stands. -/
def Dialect.plain : Dialect where
  special _ := false
  opens _ := false
  joins := true
  ordinary _ _ := ⟨rfl, rfl⟩

example : wordsRead .plain "complete -c 'my make' a\\ b \"it's\" c[d e] f&g?" =
    some ["complete", "-c", "my make", "a b", "it's", "c[d e]", "f&g?"] := by decide

/-- Whether a text goes on with a character of the same word. -/
def goesOn : List Char → Bool
  | [] => false
  | c :: _ => !(endsWord c || c = '&')

/-- Whether the characters behind one in a word all stand for themselves, with the bracket closed
that they are in. -/
def standsBehind (dialect : Dialect) (inside : Bool) (last : Char) : List Char → Bool
  | [] => !inside
  | c :: rest =>
    !(isSpecial c || dialect.special c) &&
      if inside then
        !(c = '#' && endsWord last) && standsBehind dialect (c ≠ ']') c rest
      else
        !endsWord c && (c ≠ '&' || dialect.joins && goesOn rest) &&
          standsBehind dialect (c = '[') c rest

/-- A word in which every character stands for itself. -/
def isBareWord (dialect : Dialect) : List Char → Bool
  | [] => false
  | c :: rest =>
    !(isSpecial c || dialect.special c) && !endsWord c && !(opensSpecial c || dialect.opens c) &&
      standsBehind dialect false c rest

/-- The characters that may still be added to a word for one that was read. -/
def Mode.pending : Mode → Nat
  | .joining | .escaped _ | .singleEscaped _ | .doubleEscaped _ => 1
  | .bare _ | .single _ | .double _ => 0

/-- The count of characters in the words that were read, with those that may still be added. -/
def weight (reader : Reader Mode) : Nat := reader.length + reader.mode.pending

section Step

variable {dialect : Dialect} {inside : Bool} {reader after : Reader Mode} {c : Char}

/-- A character that is plain where it stands belongs to a word. -/
theorem bareStep_of_plain (plain : (isSpecial c || dialect.special c) = false)
    (whole : inside = true ∨ endsWord c = false) :
    bareStep dialect inside reader c =
      if inside then
        if c = ']' then some ((reader.take c).into (.bare false))
        else if c = '#' && heldEnds reader.held then none
        else some (reader.take c)
      else if reader.held.isNone then
        if opensSpecial c || dialect.opens c then none else some (reader.take c)
      else if c = '&' then if dialect.joins then some (reader.into .joining) else none
      else if c = '[' then some ((reader.take c).into (.bare true))
      else some (reader.take c) := by
  have apart {other : Char} (special : isSpecial other = true) : c ≠ other := by
    rintro rfl
    rw [special, Bool.true_or] at plain
    cases plain
  have notBlank : ¬ ((c = ' ' ∨ c = '\t') ∧ inside = false) := by
    rintro ⟨rfl | rfl, rfl⟩ <;> rcases whole with same | same <;> cases same
  rw [bareStep, if_neg notBlank, if_neg (apart (by decide)), if_neg (apart (by decide)),
    if_neg (apart (by decide)), plain]
  cases inside with
  | true => rfl
  | false => rw [whole.resolve_left nofun]; rfl

/-- A character outside of quotes parts words, opens, waits or is taken. -/
theorem bareStep_eq_some (taken : bareStep dialect inside reader c = some after) :
    after = reader.parted ∨ (∃ mode, mode.pending = 0 ∧ after = reader.opened mode) ∨
      after = reader.into (.escaped inside) ∨
      ((isSpecial c || dialect.special c) = false ∧ (inside = true ∨ endsWord c = false)) := by
  rw [bareStep] at taken
  split at taken
  · exact .inl (Option.some.inj taken).symm
  split at taken
  · exact .inr (.inr (.inl (Option.some.inj taken).symm))
  split at taken
  · exact .inr (.inl ⟨_, rfl, (Option.some.inj taken).symm⟩)
  split at taken
  · exact .inr (.inl ⟨_, rfl, (Option.some.inj taken).symm⟩)
  split at taken
  · cases taken
  rename_i plain
  refine .inr (.inr (.inr ⟨by simpa using plain, ?_⟩))
  split at taken
  · rename_i isInside
    exact .inl isInside
  · split at taken
    · cases taken
    · rename_i whole
      exact .inr (by simpa using whole)

theorem weight_bareStep (taken : bareStep dialect inside reader c = some after)
    (bare : reader.mode = .bare inside) : weight after ≤ weight reader + 1 := by
  rcases bareStep_eq_some taken with rfl | ⟨mode, settled, rfl⟩ | rfl | ⟨plain, whole⟩
  · simp [weight]
  · simp [weight, settled, Nat.add_assoc]
  · simp [weight, Mode.pending]
  · rw [bareStep_of_plain plain whole] at taken
    grind [weight, Reader.length_take, Reader.length_into, Reader.mode_take, Reader.mode_into,
      Mode.pending]

/-- Reading a character adds at most one to the words. -/
theorem weight_step (taken : step dialect reader c = some after) :
    weight after ≤ weight reader + 1 := by
  cases mode : reader.mode with
  | bare inside =>
      rw [step, mode] at taken
      exact weight_bareStep taken mode
  | joining =>
      rw [step, mode] at taken
      dsimp only at taken
      split at taken
      · cases taken
      · have same : weight ((reader.take '&').into (.bare false)) = weight reader := by
          simp [weight, mode, Mode.pending]
        exact same ▸ weight_bareStep taken rfl
  | escaped | single | singleEscaped | double | doubleEscaped =>
      grind [step, weight, Reader.length_take, Reader.length_into, Reader.mode_take,
        Reader.mode_into, Mode.pending]

/-- A character behind a backslash adds nothing that the backslash is not counted for. -/
theorem weight_step_of_escaped (escaped : reader.mode = .escaped inside)
    (taken : step dialect reader c = some after) : weight after ≤ weight reader := by
  grind [step, weight, Reader.length_take, Reader.length_into, Reader.mode_into, Mode.pending]

theorem weight_run {text : List Char} (ran : text.foldlM (step dialect) reader = some after) :
    weight after ≤ weight reader + text.length := by
  induction text generalizing reader with
  | nil =>
      obtain rfl := Option.some.inj ran
      exact Nat.le_refl _
  | cons c rest ih =>
      obtain ⟨middle, taken, further⟩ := Option.bind_eq_some_iff.1 ran
      have one := weight_step taken
      have others := ih further
      rw [List.length_cons]
      omega

/-- A backslash loses a character. -/
theorem weight_run_of_escaped {text : List Char} (escaped : reader.mode = .escaped inside)
    (ran : text.foldlM (step dialect) reader = some after) (closed : after.mode = .bare false) :
    weight after < weight reader + text.length := by
  cases text with
  | nil =>
      obtain rfl := Option.some.inj ran
      rw [escaped] at closed
      cases closed
  | cons c rest =>
      obtain ⟨middle, taken, further⟩ := Option.bind_eq_some_iff.1 ran
      have nothing := weight_step_of_escaped escaped taken
      have others := weight_run further
      rw [List.length_cons]
      omega

end Step

section Words

variable {dialect : Dialect} {inside : Bool} {last : Char} {held : String} {text : List Char}
  {after : Reader Mode} (words : List String)

theorem heldEnds_of_last (ends : held.toList.getLast? = some last) :
    heldEnds (some held) = endsWord last := by
  simp [heldEnds, ends]

theorem getLast?_push (held : String) (c : Char) : (held.push c).toList.getLast? = some c := by
  simp

theorem weight_push (inside other : Bool) (held : String) (c : Char) :
    weight ⟨.bare other, some (held.push c), words⟩ =
      weight ⟨.bare inside, some held, words⟩ + 1 := by
  simp [weight, Reader.length, Mode.pending, Nat.add_assoc]

theorem weight_opening (inside : Bool) (c : Char) :
    weight ⟨.bare inside, some ("".push c), words⟩ = weight ⟨.bare inside, none, words⟩ + 1 := by
  simp [weight, Reader.length, Mode.pending]

theorem goesOn_of_run {held : Option String}
    (ran : text.foldlM (step dialect) ⟨.joining, held, words⟩ = some after)
    (closed : after.mode = .bare false) : goesOn text = true := by
  cases text with
  | nil =>
      obtain rfl := Option.some.inj ran
      cases closed
  | cons c rest =>
      obtain ⟨_, taken, _⟩ := Option.bind_eq_some_iff.1 ran
      rw [step] at taken
      dsimp only at taken
      split at taken
      · cases taken
      · rename_i goes
        simpa [goesOn] using goes

/-- Behind an ampersand that a word goes on from, the ampersand is taken. -/
theorem run_joining (further : goesOn text = true) (held : Option String) :
    text.foldlM (step dialect) ⟨.joining, held, words⟩ =
      text.foldlM (step dialect) ⟨.bare false, some ((held.getD "").push '&'), words⟩ := by
  cases text with
  | nil => cases further
  | cons c rest =>
      have goes : ¬ (endsWord c || c = '&') = true := by simpa [goesOn] using further
      have same : step dialect ⟨.joining, held, words⟩ c =
          step dialect ⟨.bare false, some ((held.getD "").push '&'), words⟩ c := if_neg goes
      rw [List.foldlM_cons, same, List.foldlM_cons]

/-- Characters that stand for themselves are read as they stand. -/
theorem run_of_standsBehind (stands : standsBehind dialect inside last text = true)
    (ends : held.toList.getLast? = some last) :
    text.foldlM (step dialect) ⟨.bare inside, some held, words⟩ =
      some ⟨.bare false, some (held ++ String.ofList text), words⟩ := by
  induction text generalizing inside last held with
  | nil =>
      obtain rfl : inside = false := by simpa [standsBehind] using stands
      simp
  | cons c rest ih =>
      have go {inside : Bool} (stands : standsBehind dialect inside c rest = true) :
          rest.foldlM (step dialect) ⟨.bare inside, some (held.push c), words⟩ =
            some ⟨.bare false, some (held ++ String.ofList (c :: rest)), words⟩ := by
        rw [ih stands (getLast?_push held c), Reader.push_append]
      rw [standsBehind, Bool.and_eq_true, Bool.not_eq_true'] at stands
      obtain ⟨plain, stands⟩ := stands
      have whole : inside = true ∨ endsWord c = false := by
        cases inside with
        | true => exact .inl rfl
        | false => grind
      have asked : step dialect ⟨.bare inside, some held, words⟩ c =
          bareStep dialect inside ⟨.bare inside, some held, words⟩ c := rfl
      rw [List.foldlM_cons, asked, bareStep_of_plain plain whole, heldEnds_of_last ends]
      cases inside with
      | true =>
          simp only [if_true, Bool.and_eq_true, Bool.not_eq_true'] at stands
          obtain ⟨noComment, stands⟩ := stands
          by_cases closes : c = ']'
          · rw [if_pos rfl, if_pos closes]
            exact go (by simpa [closes] using stands)
          · rw [if_pos rfl, if_neg closes, if_neg (by simp [noComment])]
            exact go (by simpa [closes] using stands)
      | false =>
          simp only [Bool.false_eq_true, if_false, Bool.and_eq_true] at stands
          obtain ⟨⟨_, joined⟩, stands⟩ := stands
          rw [if_neg nofun, if_neg nofun]
          by_cases ampersand : c = '&'
          · subst ampersand
            obtain ⟨joins, further⟩ : dialect.joins = true ∧ goesOn rest = true := by
              simpa using joined
            rw [if_pos rfl, if_pos joins]
            exact (run_joining words further (some held)).trans (go (by simpa using stands))
          · rw [if_neg ampersand]
            by_cases opens : c = '['
            · rw [if_pos opens]
              exact go (by simpa [opens] using stands)
            · rw [if_neg opens]
              exact go (by simpa [opens] using stands)

/-- A character that is taken stands for itself when those behind it do. -/
theorem standsBehind_cons {middle : Reader Mode} {c : Char} {rest : List Char}
    (plain : (isSpecial c || dialect.special c) = false)
    (whole : inside = true ∨ endsWord c = false) (ends : held.toList.getLast? = some last)
    (taken : bareStep dialect inside ⟨.bare inside, some held, words⟩ c = some middle)
    (further : rest.foldlM (step dialect) middle = some after) (closed : after.mode = .bare false)
    (behind : ∀ other, rest.foldlM (step dialect) ⟨.bare other, some (held.push c), words⟩ =
      some after → standsBehind dialect other c rest = true) :
    standsBehind dialect inside last (c :: rest) = true := by
  rw [bareStep_of_plain plain whole, heldEnds_of_last ends] at taken
  rw [standsBehind, plain, Bool.not_false, Bool.true_and]
  cases inside with
  | true =>
      rw [if_pos rfl] at taken ⊢
      split at taken
      · rename_i closes
        subst closes
        obtain rfl := Option.some.inj taken
        exact behind false further
      · rename_i stays
        split at taken
        · cases taken
        · rename_i noComment
          obtain rfl := Option.some.inj taken
          have stands := behind true further
          simp [noComment, stays, stands]
  | false =>
      rw [if_neg nofun, if_neg nofun] at taken
      rw [if_neg nofun, whole.resolve_left nofun]
      split at taken
      · rename_i ampersand
        subst ampersand
        split at taken
        · rename_i joins
          obtain rfl := Option.some.inj taken
          have on := goesOn_of_run words further closed
          have stands := behind false ((run_joining words on _).symm.trans further)
          simp [joins, on, stands]
        · cases taken
      · rename_i notAmpersand
        split at taken
        · rename_i opens
          subst opens
          obtain rfl := Option.some.inj taken
          exact behind true further
        · rename_i unopened
          obtain rfl := Option.some.inj taken
          have stands := behind false further
          simp [notAmpersand, unopened, stands]

/-- What adds to a text outside of quotes is plain where it stands. -/
theorem plain_of_run {middle : Reader Mode} {held : Option String} {c : Char} {rest : List Char}
    (taken : bareStep dialect inside ⟨.bare inside, held, words⟩ c = some middle)
    (further : rest.foldlM (step dialect) middle = some after) (closed : after.mode = .bare false)
    (full : weight ⟨.bare inside, held, words⟩ + (rest.length + 1) ≤ weight after) :
    (isSpecial c || dialect.special c) = false ∧ (inside = true ∨ endsWord c = false) := by
  have others := weight_run further
  have grows : weight ⟨.bare inside, held, words⟩ < weight middle := by omega
  rcases bareStep_eq_some taken with rfl | ⟨mode, settled, rfl⟩ | rfl | plain
  · simp [weight, Mode.pending] at grows
  · rw [weight, weight, Reader.length_opened, Reader.mode_opened, settled] at grows
    omega
  · have lost := weight_run_of_escaped rfl further closed
    simp only [weight, Reader.length_into, Reader.mode_into, Mode.pending] at lost full
    omega
  · exact plain

/-- When nothing is lost from a text, all its characters stand for themselves. -/
theorem standsBehind_of_run (ends : held.toList.getLast? = some last)
    (ran : text.foldlM (step dialect) ⟨.bare inside, some held, words⟩ = some after)
    (closed : after.mode = .bare false)
    (full : weight ⟨.bare inside, some held, words⟩ + text.length ≤ weight after) :
    standsBehind dialect inside last text = true := by
  induction text generalizing inside last held with
  | nil =>
      obtain rfl := Option.some.inj ran
      obtain rfl := Mode.bare.inj closed
      rfl
  | cons c rest ih =>
      obtain ⟨middle, taken, further⟩ := Option.bind_eq_some_iff.1 ran
      rw [List.length_cons] at full
      obtain ⟨plain, whole⟩ := plain_of_run words taken further closed full
      refine standsBehind_cons words plain whole ends taken further closed fun other ran => ?_
      refine ih (getLast?_push held c) ran ?_
      rw [weight_push words inside]
      omega

/-- Where a word begins, a character that stands for itself opens it. -/
theorem bareStep_of_none {c : Char} (plain : (isSpecial c || dialect.special c) = false)
    (whole : endsWord c = false) :
    bareStep dialect false ⟨.bare false, none, words⟩ c =
      if opensSpecial c || dialect.opens c then none
      else some ⟨.bare false, some ("".push c), words⟩ := by
  rw [bareStep_of_plain plain (.inr whole)]
  rfl

theorem run_of_isBareWord (bare : isBareWord dialect text = true) :
    text.foldlM (step dialect) ⟨.bare false, none, words⟩ =
      some ⟨.bare false, some (String.ofList text), words⟩ := by
  cases text with
  | nil => cases bare
  | cons c rest =>
      simp only [isBareWord, Bool.and_eq_true, Bool.not_eq_true'] at bare
      obtain ⟨⟨⟨plain, whole⟩, unopened⟩, stands⟩ := bare
      have asked : step dialect ⟨.bare false, none, words⟩ c =
          bareStep dialect false ⟨.bare false, none, words⟩ c := rfl
      rw [List.foldlM_cons, asked, bareStep_of_none words plain whole, unopened,
        if_neg nofun, Option.bind_eq_bind, Option.bind_some,
        run_of_standsBehind words stands (getLast?_push "" c), Reader.push_append,
        String.empty_append]

theorem isBareWord_of_run (ran : text.foldlM (step dialect) ⟨.bare false, none, words⟩ = some after)
    (closed : after.mode = .bare false) (nonempty : text ≠ [])
    (full : weight ⟨.bare false, none, words⟩ + text.length ≤ weight after) :
    isBareWord dialect text = true := by
  cases text with
  | nil => exact absurd rfl nonempty
  | cons c rest =>
      obtain ⟨middle, taken, further⟩ := Option.bind_eq_some_iff.1 ran
      rw [List.length_cons] at full
      obtain ⟨plain, whole⟩ := plain_of_run words taken further closed full
      have whole := whole.resolve_left nofun
      have asked : step dialect ⟨.bare false, none, words⟩ c =
          bareStep dialect false ⟨.bare false, none, words⟩ c := rfl
      rw [asked, bareStep_of_none words plain whole] at taken
      split at taken
      · cases taken
      · rename_i unopened
        obtain rfl := Option.some.inj taken
        have stands := standsBehind_of_run words (getLast?_push "" c) further closed (by
          rw [weight_opening]
          omega)
        simp [isBareWord, plain, whole, unopened, stands]

/-- What is read at the start of a word is that text when every character stands for itself. -/
theorem words_of_run_iff {text : String}
    (ran : text.toList.foldlM (step dialect) ⟨.bare false, none, words⟩ = some after)
    (closed : after.mode = .bare false) :
    after.words ++ after.held.toList = words ++ [text] ↔
      isBareWord dialect text.toList = true := by
  constructor
  · intro same
    refine isBareWord_of_run words ran closed ?_ ?_
    · intro empty
      rw [empty] at ran
      obtain rfl := Option.some.inj ran
      simp at same
    · simp [weight, Reader.length, same, closed, Mode.pending, String.length_toList]
  · intro bare
    rw [run_of_isBareWord words bare] at ran
    obtain rfl := Option.some.inj ran
    simp

end Words

/-- What is behind a command in its binding. -/
def bindingEnd : String := " -a '(__makecomp_complete)'"

section Binding

variable (dialect : Dialect) {inside : Bool} {text : List Char}

/-- None of some characters is one that a binding is written with. -/
theorem elem_of_isOrdinary {c : Char} {others : List Char} (ordinary : isOrdinary c = true)
    (apart : others.all (fun other => !isOrdinary other) = true) : others.elem c = false := by
  rw [List.elem_eq_contains, List.contains_eq_mem, decide_eq_false_iff_not]
  intro member
  simpa [ordinary] using List.all_eq_true.1 apart c member

theorem plain_of_isOrdinary {c : Char} (ordinary : isOrdinary c = true) :
    (isSpecial c || dialect.special c) = false ∧ endsWord c = false ∧
      (opensSpecial c || dialect.opens c) = false := by
  obtain ⟨notSpecial, notOpens⟩ := dialect.ordinary c ordinary
  rw [isSpecial, endsWord, opensSpecial, notSpecial, notOpens, Bool.or_false, Bool.or_false]
  exact ⟨elem_of_isOrdinary ordinary (by decide), elem_of_isOrdinary ordinary (by decide),
    elem_of_isOrdinary ordinary (by decide)⟩

theorem standsBehind_of_isOrdinary (ordinary : ∀ c ∈ text, isOrdinary c = true) (last : Char) :
    standsBehind dialect false last text = true := by
  induction text generalizing last with
  | nil => rfl
  | cons c rest ih =>
      have here := ordinary c List.mem_cons_self
      obtain ⟨plain, whole, _⟩ := plain_of_isOrdinary dialect here
      have apart {other : Char} (special : isOrdinary other = false) : c ≠ other := by
        rintro rfl
        rw [special] at here
        cases here
      have notAmpersand : c ≠ '&' := apart (by decide)
      have notBracket : c ≠ '[' := apart (by decide)
      have behind := ih (fun d member => ordinary d (List.mem_cons_of_mem c member)) c
      simp [standsBehind, plain, whole, notAmpersand, notBracket, behind]

theorem isBareWord_of_isOrdinary (nonempty : text ≠ [])
    (ordinary : ∀ c ∈ text, isOrdinary c = true) : isBareWord dialect text = true := by
  cases text with
  | nil => exact absurd rfl nonempty
  | cons c rest =>
      obtain ⟨plain, whole, unopened⟩ := plain_of_isOrdinary dialect (ordinary c List.mem_cons_self)
      have behind := standsBehind_of_isOrdinary dialect
        (fun d member => ordinary d (List.mem_cons_of_mem c member)) c
      simp [isBareWord, plain, whole, unopened, behind]

/-- A word of the binding is read as it stands, up to the blank behind it. -/
theorem run_word {word : String} (nonempty : word.toList ≠ [])
    (ordinary : word.toList.all isOrdinary = true) (words : List String) :
    (word.toList ++ [' ']).foldlM (step dialect) ⟨.bare false, none, words⟩ =
      some ⟨.bare false, none, words ++ [word]⟩ := by
  rw [List.foldlM_append,
    run_of_isBareWord words
      (isBareWord_of_isOrdinary dialect nonempty (List.all_eq_true.1 ordinary)),
    String.ofList_toList]
  rfl

theorem run_bindingStart :
    "complete -c ".toList.foldlM (step dialect) ⟨.bare false, none, []⟩ =
      some ⟨.bare false, none, ["complete", "-c"]⟩ := by
  have parts : "complete -c ".toList =
      ("complete".toList ++ [' ']) ++ ("-c".toList ++ [' ']) := by decide
  rw [parts, List.foldlM_append, run_word dialect (by decide) (by decide), Option.bind_eq_bind,
    Option.bind_some, run_word dialect (by decide) (by decide)]
  rfl

theorem run_bindingEnd (held : Option String) (words : List String) :
    (bindingEnd.toList.foldlM (step dialect) ⟨.bare false, held, words⟩).bind
        (Reader.finish (.bare false)) =
      some ((words ++ held.toList) ++ ["-a", "(__makecomp_complete)"]) := by
  have parts : bindingEnd.toList =
      ' ' :: (("-a".toList ++ [' ']) ++ "'(__makecomp_complete)'".toList) := by decide
  have parted : step dialect ⟨.bare false, held, words⟩ ' ' =
      some ⟨.bare false, none, words ++ held.toList⟩ := rfl
  have quoted (words : List String) : "'(__makecomp_complete)'".toList.foldlM (step dialect)
      ⟨.bare false, none, words⟩ = some ⟨.bare false, some "(__makecomp_complete)", words⟩ := rfl
  rw [parts, List.foldlM_cons, parted, Option.bind_eq_bind, Option.bind_some, List.foldlM_append,
    run_word dialect (by decide) (by decide), Option.bind_eq_bind, Option.bind_some, quoted]
  simp [Reader.finish]

/-- The blank behind a backslash belongs to the word that the end of a binding goes on with. -/
theorem run_bindingEnd_of_escaped (held : Option String) (words : List String) :
    ∃ longer : String, 2 < longer.length ∧
      (bindingEnd.toList.foldlM (step dialect) ⟨.escaped false, held, words⟩).bind
          (Reader.finish (.bare false)) =
        some (words ++ [longer] ++ ["(__makecomp_complete)"]) := by
  have parts : bindingEnd.toList = ' ' :: ("-a".toList ++ " '(__makecomp_complete)'".toList) := by
    decide
  have taken : step dialect ⟨.escaped false, held, words⟩ ' ' =
      some ⟨.bare false, some ((held.getD "").push ' '), words⟩ := rfl
  have quoted (held : Option String) : " '(__makecomp_complete)'".toList.foldlM (step dialect)
      ⟨.bare false, held, words⟩ =
        some ⟨.bare false, some "(__makecomp_complete)", words ++ held.toList⟩ := rfl
  have plain : standsBehind dialect false ' ' "-a".toList = true :=
    standsBehind_of_isOrdinary dialect (List.all_eq_true.1 (by decide)) ' '
  refine ⟨(held.getD "").push ' ' ++ "-a", ?_, ?_⟩
  · have two : "-a".length = 2 := rfl
    rw [String.length_append, String.length_push, two]
    omega
  · rw [parts, List.foldlM_cons, taken, Option.bind_eq_bind, Option.bind_some, List.foldlM_append,
      run_of_standsBehind words plain (getLast?_push _ ' '), String.ofList_toList,
      Option.bind_eq_bind, Option.bind_some, quoted]
    rfl

/-- Whether a bracket is open. -/
def Mode.isInside : Mode → Bool
  | .joining => false
  | .bare inside | .escaped inside | .single inside | .singleEscaped inside | .double inside
  | .doubleEscaped inside => inside

variable {dialect} {reader after : Reader Mode}

/-- Nothing but a bracket closes another. -/
theorem isInside_of_run (noBracket : ']' ∉ text) (isOpen : reader.mode.isInside = true)
    (ran : text.foldlM (step dialect) reader = some after) : after.mode.isInside = true := by
  induction text generalizing reader with
  | nil =>
      obtain rfl := Option.some.inj ran
      exact isOpen
  | cons c rest ih =>
      obtain ⟨middle, taken, further⟩ := Option.bind_eq_some_iff.1 ran
      refine ih (fun member => noBracket (List.mem_cons_of_mem c member)) ?_ further
      have differs : c ≠ ']' := fun same => noBracket (same ▸ List.mem_cons_self)
      grind [step, bareStep, Mode.isInside, Reader.mode_take, Reader.mode_into, Reader.mode_opened,
        Reader.mode_parted]

/-- Behind an open quote or bracket the end of a binding is read otherwise. -/
theorem run_bindingEnd_of_open (isOpen : reader.mode ≠ .bare false) (front : List String) :
    (bindingEnd.toList.foldlM (step dialect) reader).bind (Reader.finish (.bare false)) ≠
      some (front ++ ["-a", "(__makecomp_complete)"]) := by
  by_cases bracket : reader.mode.isInside = true
  · cases ran : bindingEnd.toList.foldlM (step dialect) reader with
    | none => exact (Option.some_ne_none _).symm
    | some after =>
        have still := isInside_of_run (by decide) bracket ran
        have differs : after.mode ≠ .bare false := fun same => by
          simp [same, Mode.isInside] at still
        simp [Reader.finish, differs]
  · obtain ⟨mode, held, words⟩ := reader
    cases mode with
    | joining => exact (Option.some_ne_none _).symm
    | bare inside =>
        obtain rfl : inside = false := by simpa [Mode.isInside] using bracket
        exact absurd rfl isOpen
    | escaped inside =>
        obtain rfl : inside = false := by simpa [Mode.isInside] using bracket
        obtain ⟨longer, long, ran⟩ := run_bindingEnd_of_escaped dialect held words
        rw [ran]
        intro same
        have ends := congrArg (fun list => list.dropLast.getLast?) (Option.some.inj same)
        obtain rfl : longer = "-a" := by simpa using ends
        exact absurd long (by decide)
    | single | singleEscaped | double | doubleEscaped => exact (Option.some_ne_none _).symm

end Binding

/-- A bound command is read as one word exactly when it is a bare word. -/
theorem wordsRead_fishBinding_iff (dialect : Dialect) (command : String) :
    wordsRead dialect (fishBinding command) =
        some ["complete", "-c", command, "-a", "(__makecomp_complete)"] ↔
      isBareWord dialect command.toList = true := by
  have parts : fishBinding command = "complete -c " ++ command ++ bindingEnd := rfl
  rw [wordsRead, Reader.wordsRead, parts, String.toList_append, String.toList_append,
    List.foldlM_append, List.foldlM_append, run_bindingStart, Option.bind_eq_bind, Option.bind_some]
  cases ran : command.toList.foldlM (step dialect) ⟨.bare false, none, ["complete", "-c"]⟩ with
  | none =>
      refine iff_of_false (by simp) fun bare => ?_
      rw [run_of_isBareWord _ bare] at ran
      cases ran
  | some after =>
      rw [Option.bind_some]
      by_cases closed : after.mode = .bare false
      · obtain ⟨_, held, words⟩ := after
        obtain rfl := closed
        have cut (front : List String) :
            front ++ ["-a", "(__makecomp_complete)"] =
                ["complete", "-c"] ++ [command] ++ ["-a", "(__makecomp_complete)"] ↔
              front = ["complete", "-c"] ++ [command] := List.append_left_inj _
        rw [← words_of_run_iff _ ran rfl, run_bindingEnd, Option.some.injEq]
        exact cut _
      · refine iff_of_false (run_bindingEnd_of_open closed ["complete", "-c", command]) ?_
        intro bare
        rw [run_of_isBareWord _ bare] at ran
        exact closed (congrArg Reader.mode (Option.some.inj ran)).symm

end AnnotatedMake.Shell.Fish
