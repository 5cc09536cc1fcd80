import AnnotatedMake.Path
import AnnotatedMake.Proofs.Host.Walk
import AnnotatedMake.Proofs.Text.Cutting

namespace AnnotatedMake

/-- Lists that are equal end alike. -/
theorem last_eq_of_concat_eq {α : Type} {first second : List α} {a b : α}
    (same : first ++ [a] = second ++ [b]) : a = b := by
  have last := congrArg List.getLast? same
  rwa [List.getLast?_concat, List.getLast?_concat, Option.some.injEq] at last

/-- A name that stays one name when it is read as a path. -/
structure IsOneName (name : String) : Prop extends IsEntryName name where
  noSlash : '/' ∉ name.toList

/-- What is neither empty nor one dot or two, and has no slash, is a name. -/
theorem isOneName_iff {name : String} :
    IsOneName name ↔ '/' ∉ name.toList ∧ name ≠ "" ∧ name ≠ "." ∧ name ≠ ".." := by
  constructor
  · rintro ⟨⟨notHere, notUp⟩, noSlash⟩
    simp only [FileSystem.isHere, Bool.or_eq_false_iff, decide_eq_false_iff_not] at notHere
    exact ⟨noSlash, notHere.2, notHere.1, notUp⟩
  · rintro ⟨noSlash, notEmpty, notDot, notUp⟩
    exact { notHere := by simp [FileSystem.isHere, notEmpty, notDot], notUp, noSlash }

/-- A name without null characters that stays one name. -/
structure IsPlainName (name : String) : Prop extends IsOneName name where
  noNull : Char.ofNat 0 ∉ name.toList

namespace Path

/-- A path whose parts hold neither slashes nor null characters. -/
structure IsPlain (path : Path) : Prop where
  noSlash : ∀ part ∈ path.parts, '/' ∉ part.toList
  noNull : ∀ part ∈ path.parts, Char.ofNat 0 ∉ part.toList

/-- The parent of a plain path is plain. -/
theorem IsPlain.parent {path : Path} (plain : path.IsPlain) : path.parent.IsPlain where
  noSlash part member := plain.noSlash part (List.dropLast_subset _ member)
  noNull part member := plain.noNull part (List.dropLast_subset _ member)

/-- A plain path without empty names and single dots. -/
structure IsProper (path : Path) : Prop extends IsPlain path where
  notHere : ∀ part ∈ path.parts, FileSystem.isHere part = false

/-- The parent of a proper path is proper. -/
theorem IsProper.parent {path : Path} (proper : path.IsProper) : path.parent.IsProper where
  toIsPlain := proper.toIsPlain.parent
  notHere part member := proper.notHere part (List.dropLast_subset _ member)

/-- A name of a proper path is plain unless it goes up. -/
theorem IsProper.isPlainName {path : Path} (proper : path.IsProper) {name : String}
    (member : name ∈ path.parts) (notUp : name ≠ "..") : IsPlainName name where
  notHere := proper.notHere name member
  notUp := notUp
  noSlash := proper.noSlash name member
  noNull := proper.noNull name member

/-- A part of a path is a piece of its text and no single dot. -/
theorem of_mem_ofString {text name : String} (member : name ∈ (ofString text).parts) :
    FileSystem.isHere name = false ∧ ∀ c ∈ name.toList, c ∈ text.toList ∧ c ≠ '/' := by
  obtain ⟨inPieces, proper⟩ := List.mem_filter.1 member
  obtain ⟨piece, cut, rfl⟩ := List.mem_map.1 inPieces
  simp only [ne_eq, decide_not, Bool.and_eq_true, Bool.not_eq_true',
    decide_eq_false_iff_not] at proper
  refine ⟨by simp [FileSystem.isHere, proper.1, proper.2], fun c inside => ?_⟩
  rw [String.toList_ofList] at inside
  exact Text.mem_of_mem_pieces cut inside

/-- A text without null characters is read as a proper path. -/
theorem isProper_ofString {text : String} (noNull : Char.ofNat 0 ∉ text.toList) :
    (ofString text).IsProper where
  noSlash _ member inside := ((of_mem_ofString member).2 _ inside).2 rfl
  noNull _ member inside := noNull ((of_mem_ofString member).2 _ inside).1
  notHere _ member := (of_mem_ofString member).1

/-- A path without names is proper. -/
theorem isProper_root (anchor : Anchor) : IsProper ⟨anchor, []⟩ :=
  ⟨⟨by simp, by simp⟩, by simp⟩

/-- A single name is the one part of itself. -/
theorem partsOf_of_oneName {name : String} (one : IsOneName name) : partsOf name = [name] := by
  have notHere := one.notHere
  simp only [FileSystem.isHere, Bool.or_eq_false_iff, decide_eq_false_iff_not] at notHere
  rw [partsOf, piecesOf, Text.pieces_of_absent one.noSlash]
  simp [notHere.1, notHere.2]

/-- The names behind a slash follow those before it. -/
theorem partsOf_append_slash (front back : String) :
    partsOf (front ++ "/" ++ back) = partsOf front ++ partsOf back := by
  have cut : (front ++ "/" ++ back).toList = front.toList ++ '/' :: back.toList := by
    simp
  rw [partsOf, piecesOf, cut, Text.pieces_append_separator, List.map_append, List.filter_append]
  rfl

/-- A text is read as a single name when it is one, or leads up. -/
theorem partsOf_eq_singleton_iff {name : String} :
    partsOf name = [name] ∧ name ≠ ".." ↔ IsOneName name := by
  constructor
  · rintro ⟨single, notUp⟩
    have member : name ∈ (ofString name).parts := by
      rw [ofString, single]
      exact List.mem_singleton_self name
    obtain ⟨notHere, plain⟩ := of_mem_ofString member
    exact { notHere, notUp, noSlash := fun inside => (plain '/' inside).2 rfl }
  · exact fun one => ⟨partsOf_of_oneName one, one.notUp⟩

/-- A single name is a relative path. -/
theorem ofString_of_oneName {name : String} (one : IsOneName name) :
    ofString name = ⟨.relative, [name]⟩ := by
  have noSlash := one.noSlash
  have anchor : anchorOf name.toList = .relative := by
    unfold anchorOf
    split <;> simp_all
  rw [ofString, anchor, partsOf_of_oneName one]

/-- A name below a directory is one more part of its path. -/
theorem child_of_oneName (base : Path) {name : String} (one : IsOneName name) :
    base.child name = ⟨base.anchor, base.parts ++ [name]⟩ := by
  rw [child, ofString_of_oneName one, join]

/-- The parent of an entry is the directory. -/
theorem parent_child (base : Path) {name : String} (one : IsOneName name) :
    (base.child name).parent = base := by
  rw [child_of_oneName base one, parent, List.dropLast_concat]

/-- An entry under a plain name holds no null character. -/
theorem noNull_child {base : Path} (noNull : ∀ part ∈ base.parts, Char.ofNat 0 ∉ part.toList)
    {name : String} (plain : IsPlainName name) :
    ∀ part ∈ (base.child name).parts, Char.ofNat 0 ∉ part.toList := by
  rw [child_of_oneName base plain.toIsOneName]
  intro part member
  rcases List.mem_append.1 member with inBase | isName
  · exact noNull part inBase
  · exact List.mem_singleton.1 isName ▸ plain.noNull

/-- An entry under a plain name is a proper path. -/
theorem IsProper.child {base : Path} (proper : base.IsProper) {name : String}
    (plain : IsPlainName name) : (base.child name).IsProper := by
  have each {property : String → Prop} (all : ∀ part ∈ base.parts, property part)
      (last : property name) : ∀ part ∈ (base.child name).parts, property part := by
    rw [child_of_oneName base plain.toIsOneName]
    intro part member
    rcases List.mem_append.1 member with inBase | isName
    · exact all part inBase
    · exact List.mem_singleton.1 isName ▸ last
  exact ⟨⟨each proper.noSlash plain.noSlash, each proper.noNull plain.noNull⟩,
    each proper.notHere plain.notHere⟩

/-- Dropping dots adds no names but dots. -/
theorem mem_collapseFrom {anchor : Anchor} {kept parts : List String} {part : String}
    (member : part ∈ collapseFrom anchor kept parts) :
    part ∈ kept ∨ part ∈ parts ∨ part = ".." := by
  induction parts generalizing kept with
  | nil => exact .inl member
  | cons first rest ih =>
      have later {shorter : List String} (subset : ∀ other ∈ shorter, other ∈ kept ∨
          other = first ∨ other = "..") (inside : part ∈ collapseFrom anchor shorter rest) :
          part ∈ kept ∨ part ∈ first :: rest ∨ part = ".." := by
        rcases ih inside with inShorter | inRest | dots
        · rcases subset part inShorter with inKept | rfl | dots
          · exact .inl inKept
          · exact .inr (.inl List.mem_cons_self)
          · exact .inr (.inr dots)
        · exact .inr (.inl (List.mem_cons_of_mem _ inRest))
        · exact .inr (.inr dots)
      have keep {last : String} (fits : last = first ∨ last = "..") :
          ∀ other ∈ kept ++ [last], other ∈ kept ∨ other = first ∨ other = ".." := by
        intro other inside
        rcases List.mem_append.1 inside with inKept | isLast
        · exact .inl inKept
        · exact .inr (List.mem_singleton.1 isLast ▸ fits)
      unfold collapseFrom at member
      split at member
      · exact later (keep (.inl rfl)) member
      · split at member
        · exact later (by simp) member
        · exact later (by simp) member
        · split at member
          · exact later (keep (.inr rfl)) member
          · exact later (fun other inside => .inl (List.dropLast_subset _ inside)) member

/-- Dots are dropped part by part. -/
theorem collapseFrom_cons (anchor : Anchor) (kept : List String) (part : String)
    (rest : List String) : collapseFrom anchor kept (part :: rest) =
      collapseFrom anchor (collapseFrom anchor kept [part]) rest := by
  rw [collapseFrom.eq_def anchor kept (part :: rest), collapseFrom.eq_def anchor kept [part]]
  dsimp only
  split
  · rfl
  · split
    · rfl
    · rfl
    · split
      · rfl
      · rfl

/-- Parts are dropped one list behind the other. -/
theorem collapseFrom_append (anchor : Anchor) (kept first second : List String) :
    collapseFrom anchor kept (first ++ second) =
      collapseFrom anchor (collapseFrom anchor kept first) second := by
  induction first generalizing kept with
  | nil => rfl
  | cons part rest ih =>
      rw [List.cons_append, collapseFrom_cons, ih, collapseFrom_cons anchor kept part rest]

/-- A name that does not go up is kept. -/
theorem collapseFrom_name (anchor : Anchor) (kept : List String) {name : String}
    (notUp : name ≠ "..") : collapseFrom anchor kept [name] = kept ++ [name] := by
  simp [collapseFrom, notUp]

/-- Where nothing goes up all names are kept. -/
theorem collapseFrom_of_noDots (anchor : Anchor) (kept : List String) {parts : List String}
    (noDots : ".." ∉ parts) : collapseFrom anchor kept parts = kept ++ parts := by
  induction parts generalizing kept with
  | nil => rw [collapseFrom, List.append_nil]
  | cons part rest ih =>
      obtain ⟨differs, further⟩ := not_or.1 (mt List.mem_cons.2 noDots)
      rw [collapseFrom_cons, collapseFrom_name anchor kept (Ne.symm differs), ih _ further,
        List.append_assoc, List.singleton_append]

/-- The way up from a root drops the last name. -/
theorem collapseFrom_up {anchor : Anchor} (rooted : anchor ≠ .relative) {kept : List String}
    (noDots : ".." ∉ kept) : collapseFrom anchor kept [".."] = kept.dropLast := by
  rcases List.eq_nil_or_concat kept with rfl | ⟨front, last, rfl⟩
  · cases anchor with
    | relative => exact absurd rfl rooted
    | root | doubleRoot => rfl
  · have differs : last ≠ ".." := by
      rintro rfl
      exact noDots (by simp)
    simp [collapseFrom, differs]

/-- From a root no dots are left. -/
theorem noDots_collapseFrom {anchor : Anchor} (rooted : anchor ≠ .relative)
    {kept : List String} (noDots : ".." ∉ kept) (parts : List String) :
    ".." ∉ collapseFrom anchor kept parts := by
  induction parts generalizing kept with
  | nil => exact noDots
  | cons part rest ih =>
      rw [collapseFrom_cons]
      apply ih
      by_cases dots : part = ".."
      · subst dots
        rw [collapseFrom_up rooted noDots]
        exact fun member => noDots (List.dropLast_subset _ member)
      · rw [collapseFrom_name anchor kept dots]
        simpa using ⟨noDots, Ne.symm dots⟩

/-- The text of a path is as long as its last name makes it. -/
theorem text_concat (anchor : Anchor) (parts : List String) (last : String) :
    text ⟨anchor, parts ++ [last]⟩ = anchorText anchor ++
      if parts = [] then last else "/".intercalate parts ++ "/" ++ last := by
  have notHere : (⟨anchor, parts ++ [last]⟩ : Path) ≠ here := by simp [here]
  rw [text, if_neg notHere]
  cases parts with
  | nil => rfl
  | cons part rest =>
      rw [String.intercalate_append_of_ne_nil (by simp) (by simp), String.intercalate_singleton,
        if_neg (List.cons_ne_nil part rest)]

/-- Names of one size make paths of one size. -/
theorem size_text_of_size (anchor : Anchor) (parts : List String) {first second : String}
    (same : Utf8.size first.toList = Utf8.size second.toList) :
    Utf8.size (text ⟨anchor, parts ++ [first]⟩).toList =
      Utf8.size (text ⟨anchor, parts ++ [second]⟩).toList := by
  rw [text_concat, text_concat]
  split <;> simp only [String.toList_append, Utf8.size_append, same]

/-- The text of a path is no longer than that of a path below it. -/
theorem size_text_le (anchor : Anchor) (parts : List String) {last : String} (some' : last ≠ "") :
    Utf8.size (text ⟨anchor, parts⟩).toList ≤
      Utf8.size (text ⟨anchor, parts ++ [last]⟩).toList := by
  have positive : 1 ≤ Utf8.size last.toList := by
    cases characters : last.toList with
    | nil => exact absurd (String.toList_eq_nil_iff.1 characters) some'
    | cons first rest =>
        have length : 1 ≤ (Utf8.encodeCharacter first).length := by
          rw [Utf8.encodeCharacter]
          split
          · exact Nat.le_refl 1
          · split
            · simp
            · split <;> simp
        simp only [Utf8.size, Utf8.encode, List.flatMap_cons, List.length_append]
        omega
  rw [text_concat, text]
  split
  · rename_i isHere
    obtain ⟨rfl, rfl⟩ := Path.mk.inj isHere
    simpa [Utf8.size, Utf8.encode, anchorText, Utf8.encodeCharacter] using positive
  · split
    · rename_i none
      subst none
      simp [Utf8.size, Utf8.encode]
    · simp [Utf8.size, Utf8.encode]

section Text

variable {parts : List String}

/-- Slashes at the start of a text add no names. -/
theorem partsOf_anchorText (anchor : Anchor) (text : String) :
    partsOf (anchorText anchor ++ text) = partsOf text := by
  cases anchor <;> simp [partsOf, piecesOf, anchorText, Text.pieces]

/-- The text of an anchor tells it. -/
theorem anchorOf_anchorText (anchor : Anchor) {text : String}
    (head : ∀ c ∈ text.toList.head?, c ≠ '/') :
    anchorOf (anchorText anchor ++ text).toList = anchor := by
  rw [String.toList_append]
  cases cut : text.toList with
  | nil => cases anchor <;> rfl
  | cons c rest =>
      have differs : c ≠ '/' := head c (by rw [cut]; rfl)
      cases anchor <;> simp [anchorText, anchorOf, differs]

/-- Names that are put together with slashes are found again. -/
theorem partsOf_intercalate (noSlash : ∀ part ∈ parts, '/' ∉ part.toList)
    (notHere : ∀ part ∈ parts, FileSystem.isHere part = false) :
    partsOf ("/".intercalate parts) = parts := by
  by_cases none : parts = []
  · subst none
    rfl
  · have found : Text.pieces '/' (['/'].intercalate (parts.map String.toList)) =
        parts.map String.toList :=
      Text.pieces_intercalate (by simpa using none) (by simpa using noSlash)
    have pieces : piecesOf '/' ("/".intercalate parts) = parts := by
      rw [piecesOf, String.toList_intercalate]
      simpa [Function.comp_def] using congrArg (List.map String.ofList) found
    rw [partsOf, pieces, List.filter_eq_self]
    intro part member
    have kept := notHere part member
    rw [FileSystem.isHere, Bool.or_comm] at kept
    simpa using kept

/-- Joined names begin with no slash. -/
theorem head_intercalate (noSlash : ∀ part ∈ parts, '/' ∉ part.toList)
    (notHere : ∀ part ∈ parts, FileSystem.isHere part = false) :
    ∀ c ∈ ("/".intercalate parts).toList.head?, c ≠ '/' := by
  rw [String.toList_intercalate]
  cases parts with
  | nil => simp
  | cons first rest =>
      have nonempty : first.toList ≠ [] := by
        intro empty
        rw [String.toList_eq_nil_iff.1 empty] at notHere
        exact absurd (notHere "" List.mem_cons_self) (by decide)
      obtain ⟨c, others, cut⟩ := List.exists_cons_of_ne_nil nonempty
      have differs : c ≠ '/' := by
        rintro rfl
        exact noSlash first List.mem_cons_self (cut ▸ List.mem_cons_self)
      cases rest <;> simpa [cut] using differs

/-- A path whose parts neither hold slashes nor stay here is found again from its text. -/
theorem ofString_text_of_parts {path : Path}
    (plain : ∀ part ∈ path.parts, '/' ∉ part.toList ∧ FileSystem.isHere part = false) :
    ofString path.text = path := by
  have noSlash part member := (plain part member).1
  have notHere part member := (plain part member).2
  rw [text]
  split
  · rename_i isHere
    rw [isHere]
    rfl
  · rw [ofString, partsOf_anchorText, partsOf_intercalate noSlash notHere,
      anchorOf_anchorText _ (head_intercalate noSlash notHere)]

/-- A proper path is read back from its text. -/
theorem ofString_text {path : Path} (proper : path.IsProper) : ofString path.text = path :=
  ofString_text_of_parts fun part member => ⟨proper.noSlash part member, proper.notHere part member⟩

end Text

end Path

end AnnotatedMake
