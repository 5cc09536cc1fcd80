import AnnotatedMake.Proofs.Shell.Installing
import Mathlib.Data.List.Infix

namespace AnnotatedMake

namespace Path

/-- Whether the first part of a relative path is a tilde. -/
def BeginsAtTilde (path : Path) : Prop := path.anchor = .relative ∧ path.parts.head? = some "~"

instance : DecidablePred BeginsAtTilde := fun _ => instDecidableAnd

/-- A path with the home directory in place of a first part that is a tilde. -/
def unabbreviated (home path : Path) : Path :=
  if path.BeginsAtTilde then ⟨home.anchor, home.parts ++ path.parts.tail⟩ else path

/-- A path begins at the tilde when that is its first part. -/
theorem beginsAtTilde_iff {path : Path} :
    path.BeginsAtTilde ↔ ∃ rest, path = ⟨.relative, "~" :: rest⟩ := by
  constructor
  · rintro ⟨relative, first⟩
    obtain ⟨rest, whole⟩ := List.head?_eq_some_iff.1 first
    exact ⟨rest, by rw [← relative, ← whole]⟩
  · rintro ⟨rest, rfl⟩
    exact ⟨rfl, rfl⟩

/-- The tilde stands for the home directory. -/
theorem unabbreviated_tilde (home : Path) (rest : List String) :
    home.unabbreviated ⟨.relative, "~" :: rest⟩ = ⟨home.anchor, home.parts ++ rest⟩ := by
  rw [unabbreviated, if_pos (beginsAtTilde_iff.2 ⟨rest, rfl⟩), List.tail_cons]

/-- A path without a tilde in front stands for itself. -/
theorem unabbreviated_of_apart (home : Path) {path : Path} (apart : ¬ path.BeginsAtTilde) :
    home.unabbreviated path = path := if_neg apart

/-- What further parts add to the text of a path that has parts. -/
def textBehind (parts : List String) : String :=
  if parts = [] then "" else "/" ++ "/".intercalate parts

/-- Further parts are written behind the text of a path. -/
theorem text_append (anchor : Anchor) {parts : List String} (some : parts ≠ [])
    (further : List String) :
    text ⟨anchor, parts ++ further⟩ = text ⟨anchor, parts⟩ ++ textBehind further := by
  rw [text, if_neg (by simp [here, some]), text, if_neg (by simp [here, some]), textBehind]
  split
  · rename_i none
    rw [none, List.append_nil, String.append_empty]
  · rename_i more
    rw [String.intercalate_append_of_ne_nil some more]
    simp only [String.append_assoc]

/-- The anchor is part of the text. -/
theorem length_anchorText_le (path : Path) :
    (anchorText path.anchor).toList.length ≤ path.text.toList.length := by
  rw [text]
  split
  · rename_i isHere
    rw [isHere]
    exact Nat.zero_le _
  · rw [String.toList_append, List.length_append]
    exact Nat.le_add_right _ _

/-- A path at the tilde is written with the tilde in front. -/
theorem text_tilde (further : List String) :
    text ⟨.relative, "~" :: further⟩ = "~" ++ textBehind further :=
  text_append .relative (List.cons_ne_nil "~" []) further

/-- A path at the tilde is read back from its text. -/
theorem ofString_text_tilde {further : List String}
    (plain : ∀ part ∈ further, '/' ∉ part.toList ∧ FileSystem.isHere part = false) :
    ofString (text ⟨.relative, "~" :: further⟩) = ⟨.relative, "~" :: further⟩ := by
  apply ofString_text_of_parts
  intro part member
  rcases List.mem_cons.1 member with rfl | behind
  · decide
  · exact plain part behind

/-- A text begins with its anchor. -/
theorem exists_of_anchorOf (text : List Char) :
    ∃ rest, text = (anchorText (anchorOf text)).toList ++ rest := by
  unfold anchorOf
  split
  · exact ⟨_, rfl⟩
  · exact ⟨_, rfl⟩
  · exact ⟨_, rfl⟩
  · exact ⟨text, rfl⟩

/-- The names of a path are put together from characters of its text, in their order. -/
theorem intercalate_partsOf_sublist (text : String) :
    ("/".intercalate (partsOf text)).toList.Sublist text.toList := by
  have kept : ((partsOf text).map String.toList).Sublist (Text.pieces '/' text.toList) := by
    have some : (partsOf text).Sublist (piecesOf '/' text) := List.filter_sublist
    simpa [piecesOf, Function.comp_def] using some.map String.toList
  have shorter := Text.intercalate_sublist '/' kept
  rw [Text.intercalate_pieces] at shorter
  rwa [String.toList_intercalate]

/-- A text that leads somewhere holds the text of its path, perhaps with more in between. -/
theorem text_ofString_sublist {text : String} (leads : ofString text ≠ here) :
    (ofString text).text.toList.Sublist text.toList := by
  obtain ⟨rest, cut⟩ := exists_of_anchorOf text.toList
  have whole : text = anchorText (anchorOf text.toList) ++ String.ofList rest := by
    apply String.toList_injective
    rw [String.toList_append, String.toList_ofList, ← cut]
  have names : partsOf text = partsOf (String.ofList rest) := by
    rw [whole, partsOf_anchorText]
  have shorter := intercalate_partsOf_sublist (String.ofList rest)
  rw [String.toList_ofList] at shorter
  rw [Path.text, if_neg leads, String.toList_append]
  simp only [ofString]
  rw [names]
  conv => rhs; rw [cut]
  exact shorter.append_left _

end Path

namespace ScriptRequest

variable {home file : Path}

/-- A file can be told by what is shown of it. -/
def IsTold (home file : Path) : Prop :=
  home = ⟨.relative, ["~"]⟩ ∨
  (¬ home.text.toList <:+: file.text.toList ∧ ¬ file.BeginsAtTilde) ∨
  (home.anchor = file.anchor ∧ home.parts <+: file.parts ∧ (home.parts = [] → file = home))

instance (home file : Path) : Decidable (IsTold home file) := instDecidableOr

/-- What is shown is the text with the home directory replaced once. -/
theorem toList_shown (home file : Path) :
    (shown home file).toList = Text.replaceFirst home.text.toList ['~'] file.text.toList := by
  rw [shown, String.toList_ofList]

/-- A text without the home directory is shown as it is. -/
theorem shown_of_absent (absent : ¬ home.text.toList <:+: file.text.toList) :
    shown home file = file.text := by
  rw [shown, Text.replaceFirst_of_absent _ absent, String.ofList_toList]

/-- Where the home directory occurs a tilde takes its place. -/
theorem exists_shown (occurs : home.text.toList <:+: file.text.toList) :
    ∃ front back, file.text.toList = front ++ (home.text.toList ++ back) ∧
      (shown home file).toList = front ++ ('~' :: back) := by
  obtain ⟨front, back, cut, replaced⟩ := Text.exists_replaceFirst ['~'] occurs
  exact ⟨front, back, cut, (toList_shown home file).trans replaced⟩

/-- A file below the home directory is shown below a tilde. -/
theorem shown_below {further : List String} (fits : home.parts = [] → further = []) :
    shown home ⟨home.anchor, home.parts ++ further⟩ = Path.text ⟨.relative, "~" :: further⟩ := by
  have whole : Path.text ⟨home.anchor, home.parts ++ further⟩ =
      home.text ++ Path.textBehind further := by
    by_cases none : home.parts = []
    · rw [fits none, List.append_nil]
      exact (String.append_empty).symm
    · exact Path.text_append home.anchor none further
  apply String.toList_injective
  rw [toList_shown, whole, Path.text_tilde, String.toList_append, Text.replaceFirst_append,
    String.toList_append]
  rfl

/-- A home directory named by the tilde changes nothing. -/
theorem shown_of_tilde (file : Path) : shown ⟨.relative, ["~"]⟩ file = file.text := by
  by_cases occurs : (Path.text ⟨.relative, ["~"]⟩).toList <:+: file.text.toList
  · obtain ⟨front, back, cut, replaced⟩ := exists_shown occurs
    apply String.toList_injective
    rw [cut, replaced]
    rfl
  · exact shown_of_absent occurs

section Reading

variable (homePlain : ∀ part ∈ home.parts, '/' ∉ part.toList ∧ FileSystem.isHere part = false)
  (filePlain : ∀ part ∈ file.parts, '/' ∉ part.toList ∧ FileSystem.isHere part = false)

include homePlain in
/-- Only a relative path is written as a tilde. -/
theorem home_of_tilde (tilde : home.text = "~") : home = ⟨.relative, ["~"]⟩ := by
  rw [← Path.ofString_text_of_parts homePlain, tilde]
  rfl

include homePlain in
/-- The text of a path is not empty. -/
theorem text_ne_nil : home.text.toList ≠ [] := by
  intro empty
  have read := Path.ofString_text_of_parts homePlain
  rw [String.toList_eq_nil_iff.1 empty] at read
  rw [← read] at empty
  exact absurd empty (by decide)

/-- A path is left alone unless it begins at a tilde that is not its own home directory. -/
theorem unabbreviated_eq_iff : home.unabbreviated file = file ↔
    home = ⟨.relative, ["~"]⟩ ∨ ¬ file.BeginsAtTilde := by
  by_cases begins : file.BeginsAtTilde
  · obtain ⟨rest, rfl⟩ := Path.beginsAtTilde_iff.1 begins
    rw [Path.unabbreviated_tilde, or_iff_left (not_not.2 begins)]
    constructor
    · intro same
      obtain ⟨anchor, parts⟩ := Path.mk.inj same
      have parts : home.parts ++ rest = ["~"] ++ rest := parts
      rw [← anchor, ← List.append_cancel_right parts]
    · rintro rfl
      rfl
  · exact iff_of_true (Path.unabbreviated_of_apart home begins) (.inr begins)

include filePlain in
/-- What is shown of a file that can be told leads to the file again. -/
theorem unabbreviated_of_isTold (told : IsTold home file) :
    home.unabbreviated (.ofString (shown home file)) = file := by
  rcases told with rfl | ⟨absent, apart⟩ | ⟨anchor, ⟨further, parts⟩, fits⟩
  · rw [shown_of_tilde, Path.ofString_text_of_parts filePlain]
    exact unabbreviated_eq_iff.2 (.inl rfl)
  · rw [shown_of_absent absent, Path.ofString_text_of_parts filePlain]
    exact unabbreviated_eq_iff.2 (.inr apart)
  · obtain rfl : file = ⟨home.anchor, home.parts ++ further⟩ := by rw [anchor, parts]
    have empty (none : home.parts = []) : further = [] := by
      have same := congrArg Path.parts (fits none)
      rwa [none] at same
    have furtherPlain part (behind : part ∈ further) :=
      filePlain part (List.mem_append_right _ behind)
    rw [shown_below empty, Path.ofString_text_tilde furtherPlain, Path.unabbreviated_tilde]

/-- A tilde takes the place of the home directory, so what is left is no longer than that. -/
theorem length_ofString_shown (occurs : home.text.toList <:+: file.text.toList)
    (leads : Path.ofString (shown home file) ≠ .here) :
    (Path.ofString (shown home file)).text.toList.length + home.text.toList.length ≤
      file.text.toList.length + 1 := by
  obtain ⟨front, back, cut, replaced⟩ := exists_shown occurs
  have shorter := (Path.text_ofString_sublist leads).length_le
  rw [replaced] at shorter
  rw [cut]
  simp only [List.length_append, List.length_cons] at shorter ⊢
  omega

include homePlain in
/-- Only the directory itself occurs in a dot. -/
theorem home_of_here (occurs : home.text.toList <:+: Path.here.text.toList) : home = .here := by
  have inside : home.text.toList <:+: ['.'] := occurs
  have dot : home.text.toList = ['.'] := by
    rcases List.infix_cons_iff.1 inside with starts | none
    · rcases List.prefix_cons_iff.1 starts with none | ⟨rest, whole, none⟩
      · exact absurd none (text_ne_nil homePlain)
      · rw [whole, List.prefix_nil.1 none]
    · exact absurd (List.infix_nil.1 none) (text_ne_nil homePlain)
  have dot : home.text = "." := String.toList_injective dot
  rw [← Path.ofString_text_of_parts homePlain, dot]
  rfl

include homePlain in
/-- A file that is shown as another text of itself has the tilde from the home directory. -/
theorem home_of_ofString_shown (occurs : home.text.toList <:+: file.text.toList)
    (same : Path.ofString (shown home file) = file) : home = ⟨.relative, ["~"]⟩ := by
  by_cases isHere : file = .here
  · subst isHere
    obtain rfl := home_of_here homePlain occurs
    have tilde : shown .here .here = Path.text ⟨.relative, ["~"]⟩ :=
      @shown_below .here [] fun _ => rfl
    rw [tilde, Path.ofString_text_tilde (by simp)] at same
    cases same
  · have leads : Path.ofString (shown home file) ≠ .here := by
      rwa [same]
    have lengths := length_ofString_shown occurs leads
    have kept := Path.text_ofString_sublist leads
    have positive := List.length_pos_iff.2 (text_ne_nil homePlain)
    obtain ⟨front, back, cut, replaced⟩ := exists_shown occurs
    rw [same] at lengths kept
    have whole : file.text.toList = (shown home file).toList := by
      apply kept.eq_of_length_le
      rw [replaced, cut]
      simp only [List.length_append, List.length_cons] at lengths ⊢
      omega
    rw [cut, replaced] at whole
    have behind : home.text.toList ++ back = ['~'] ++ back := List.append_cancel_left whole
    exact home_of_tilde homePlain (String.toList_injective (List.append_cancel_right behind))

/-- A root, or the current directory, is all that is shown as a tilde alone. -/
theorem eq_nil_of_ofString_shown {rest : List String}
    (occurs : home.text.toList <:+: (Path.text ⟨home.anchor, home.parts ++ rest⟩).toList)
    (read : Path.ofString (shown home ⟨home.anchor, home.parts ++ rest⟩) =
      ⟨.relative, "~" :: rest⟩) (none : home.parts = []) : rest = [] := by
  by_contra some
  have leads : Path.ofString (shown home ⟨home.anchor, home.parts ++ rest⟩) ≠ .here := by
    rw [read]
    simp [Path.here]
  have lengths := length_ofString_shown occurs leads
  have anchor := home.length_anchorText_le
  have whole : Path.text ⟨home.anchor, home.parts ++ rest⟩ =
      Path.anchorText home.anchor ++ "/".intercalate rest := by
    rw [none, List.nil_append, Path.text, if_neg (by simp [Path.here, some])]
  have slash : "~" ++ Path.textBehind rest = "~/" ++ "/".intercalate rest := by
    rw [Path.textBehind, if_neg some, ← String.append_assoc]
    rfl
  rw [read, Path.text_tilde, slash, whole, String.toList_append, String.toList_append,
    List.length_append, List.length_append] at lengths
  have two : "~/".toList.length = 2 := rfl
  omega

include homePlain filePlain in
/-- What is shown of a file leads to the file again for the files that can be told alone. -/
theorem unabbreviated_shown_iff :
    home.unabbreviated (.ofString (shown home file)) = file ↔ IsTold home file := by
  refine ⟨fun same => ?_, unabbreviated_of_isTold filePlain⟩
  by_cases occurs : home.text.toList <:+: file.text.toList
  · by_cases begins : (Path.ofString (shown home file)).BeginsAtTilde
    · obtain ⟨rest, read⟩ := Path.beginsAtTilde_iff.1 begins
      rw [read, Path.unabbreviated_tilde] at same
      subst same
      have fits (none : home.parts = []) : (⟨home.anchor, home.parts ++ rest⟩ : Path) = home := by
        rw [eq_nil_of_ofString_shown occurs read none, List.append_nil]
      exact .inr (.inr ⟨rfl, List.prefix_append _ _, fits⟩)
    · rw [Path.unabbreviated_of_apart home begins] at same
      exact .inl (home_of_ofString_shown homePlain occurs same)
  · rw [shown_of_absent occurs, Path.ofString_text_of_parts filePlain] at same
    rcases unabbreviated_eq_iff.1 same with tilde | apart
    · exact .inl tilde
    · exact .inr (.inl ⟨occurs, apart⟩)

end Reading

variable [Platform]

variable {arguments : List String} {settings : Settings} {host after : Host} {shell : Shell}
  {destination text : String}

/-- The words shown of a file lead to it again exactly when it can be told by them. -/
theorem answer_names
    (asked : ofArguments arguments = .ok ⟨shell, some destination⟩)
    (met : (answer arguments settings).run host = (.ok (.ok text), after)) :
    ∃ first rest files home, commandsOf settings = first :: rest ∧
      filesAt host.environment shell (first :: rest) destination = .ok files ∧
      host.Receives after files (bytesOf (shell.script Shell.programName (first :: rest))) ∧
      host.environment.home = .ok home ∧
      text = success shell first destination home files ∧
      ∀ file ∈ files, home.unabbreviated (.ofString (shown home file)) = file ↔
        IsTold home file := by
  obtain ⟨entries, first, rest, files, home, known, named, wrote, found, told⟩ :=
    of_run_answer asked met
  have received := (host.receives_reportAll entries _).append (receives_files named wrote)
  refine ⟨first, rest, files, home, known, named, received, found, told, fun file member => ?_⟩
  exact unabbreviated_shown_iff (Environment.parts_of_expandHome found)
    (parts_of_filesAt named member)

end ScriptRequest

end AnnotatedMake

namespace AnnotatedMake.ScriptRequest

/-- A sink beside the home directory is told to be somewhere else. -/
theorem answer_names_sink :
    ofArguments ["bash", "/null"] = .ok ⟨.bash, some "/null"⟩ ∧
    ∃ after, (answer ["bash", "/null"] { schema := .standard "/cache" }).run (sinkHost "/n") =
        (.ok (.ok "Completions written to ~ull"), after) ∧
      (sinkHost "/n").environment.home = .ok ⟨.root, ["n"]⟩ ∧
      filesAt (sinkHost "/n").environment .bash ["make"] "/null" = .ok [⟨.root, ["null"]⟩] ∧
      Path.unabbreviated ⟨.root, ["n"]⟩ (.ofString "~ull") ≠ ⟨.root, ["null"]⟩ := by
  have asked : ofArguments ["bash", "/null"] = .ok ⟨.bash, some "/null"⟩ := by decide
  have home : (sinkHost "/n").environment.home = .ok ⟨.root, ["n"]⟩ := rfl
  have named : filesAt (sinkHost "/n").environment .bash ["make"] "/null" =
      .ok [⟨.root, ["null"]⟩] := rfl
  have told : success .bash "make" "/null" ⟨.root, ["n"]⟩ [⟨.root, ["null"]⟩] =
      "Completions written to ~ull" := by decide
  have tilde : shown ⟨.root, ["n"]⟩ ⟨.root, ["null"]⟩ = "~ull" := by decide
  obtain ⟨after, met, _⟩ := exists_met_at_sink home
  refine ⟨asked, after, told ▸ met, home, named, ?_⟩
  obtain ⟨first, rest, files, directory, known, found, _, known', _, each⟩ := answer_names asked met
  have commands : commandsOf { schema := .standard "/cache" } = ["make"] := by decide
  rw [← known, commands, named] at found
  rw [home] at known'
  obtain rfl := Except.ok.inj found
  obtain rfl := Except.ok.inj known'
  have untold : ¬ IsTold ⟨.root, ["n"]⟩ ⟨.root, ["null"]⟩ := by decide
  rw [← tilde]
  exact mt (each ⟨.root, ["null"]⟩ (List.mem_singleton_self _)).1 untold

end AnnotatedMake.ScriptRequest
