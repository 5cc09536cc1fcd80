import AnnotatedMake.IndexCache
import AnnotatedMake.Proofs.Path

namespace AnnotatedMake

/-- A text ends as asked when something stands before the ending. -/
theorem endsText_iff {ending text : String} :
    endsText ending text = true ↔ ∃ front, text = front ++ ending := by
  rw [endsText, Text.before?, Option.isSome_map, Option.isSome_iff_exists]
  constructor
  · rintro ⟨rest, found⟩
    refine ⟨String.ofList rest.reverse, String.toList_inj.1 ?_⟩
    have cut := congrArg List.reverse (Text.after?_eq_some_iff.1 found)
    simpa using cut
  · rintro ⟨front, rfl⟩
    exact ⟨front.toList.reverse, Text.after?_eq_some_iff.2 (by simp)⟩

/-- A name with the ending of cache files is that of an entry. -/
theorem isEntryName_of_cacheEnding (front : String) : IsEntryName (front ++ cacheEnding) := by
  have long : 6 ≤ (front ++ cacheEnding).toList.length := by
    simp [cacheEnding]
  have differs (other : String) (short : other.toList.length < 6) :
      front ++ cacheEnding ≠ other := by
    rintro rfl
    omega
  have notDot := differs "." (by decide)
  have notEmpty := differs "" (by decide)
  exact ⟨by simp [FileSystem.isHere, notDot, notEmpty], differs ".." (by decide)⟩

/-- A name with the cache ending is one name. -/
theorem isOneName_of_cacheEnding {front : String} (noSlash : '/' ∉ (front ++ cacheEnding).toList) :
    IsOneName (front ++ cacheEnding) :=
  ⟨isEntryName_of_cacheEnding front, noSlash⟩

/-- A clean name with the cache ending is plain. -/
theorem isPlainName_of_cacheEnding {front : String} (noSlash : '/' ∉ front.toList)
    (noNull : Char.ofNat 0 ∉ front.toList) : IsPlainName (front ++ cacheEnding) where
  toIsEntryName := isEntryName_of_cacheEnding front
  noSlash := by simpa [cacheEnding] using noSlash
  noNull := by simpa [cacheEnding] using noNull

theorem size_cacheEnding : Utf8.size cacheEnding.toList = 6 := by decide

section Temporary

open FileSystem

/-- The characters of a number are digits. -/
theorem range_of_mem_toString {number : Nat} {c : Char} (member : c ∈ (toString number).toList) :
    48 ≤ c.toNat ∧ c.toNat ≤ 57 := by
  rw [Nat.toString_eq_repr, Nat.toList_repr] at member
  have digit := Nat.isDigit_of_mem_toDigits (by decide) (by decide) member
  simp only [Char.isDigit, Bool.and_eq_true, decide_eq_true_eq, ge_iff_le,
    UInt32.le_iff_toNat_le] at digit
  exact digit

/-- A number below the limit has at most eight digits. -/
theorem length_toString {number : Nat} (below : number < temporaryLimit) :
    (toString number).length ≤ 8 := by
  rw [Nat.toString_eq_repr]
  refine (Nat.length_repr_le_iff (by decide)).2 ?_
  have limit : temporaryLimit = 10000 := rfl
  omega

/-- Each ASCII character takes one byte. -/
theorem size_of_ascii {text : List Char} (ascii : ∀ c ∈ text, c.toNat < 0x80) :
    Utf8.size text = text.length := by
  induction text with
  | nil => rfl
  | cons c rest ih =>
      have first := ascii c List.mem_cons_self
      have others := ih fun other member => ascii other (List.mem_cons_of_mem c member)
      simp only [Utf8.size, Utf8.encode] at others
      simp [Utf8.size, Utf8.encode, Utf8.encodeCharacter, first, others]

/-- The characters before the ending of a temporary name. -/
def temporaryFront (count : Nat) : String :=
  "." ++ String.ofList (List.replicate (8 - (toString count).length) '0') ++ toString count

theorem temporaryName_eq (ending : String) (count : Nat) :
    temporaryName ending count = temporaryFront count ++ ending := rfl

/-- A temporary name begins with dots and digits only. -/
theorem mem_temporaryFront {count : Nat} {c : Char} (member : c ∈ (temporaryFront count).toList) :
    c = '.' ∨ 48 ≤ c.toNat ∧ c.toNat ≤ 57 := by
  simp only [temporaryFront, String.toList_append, String.toList_ofList, List.mem_append,
    List.mem_replicate] at member
  rcases member with (dot | ⟨_, rfl⟩) | digit
  · exact .inl (by simpa using dot)
  · exact .inr (by decide)
  · exact .inr (range_of_mem_toString digit)

/-- Temporary names take nine bytes and those of their ending. -/
theorem size_temporaryName (ending : String) {count : Nat} (below : count < temporaryLimit) :
    Utf8.size (temporaryName ending count).toList = 9 + Utf8.size ending.toList := by
  have front : Utf8.size (temporaryFront count).toList = 9 := by
    rw [size_of_ascii]
    · have digits := length_toString below
      simp only [temporaryFront, String.toList_append, String.toList_ofList, List.length_append,
        List.length_replicate, String.length_toList]
      have dot : ".".length = 1 := rfl
      omega
    · intro c member
      rcases mem_temporaryFront member with rfl | range
      · decide
      · omega
  rw [temporaryName_eq, String.toList_append, Utf8.size_append, front]

/-- The name of a temporary file is plain. -/
theorem isPlainName_temporary (count : Nat) : IsPlainName (temporaryName cacheEnding count) := by
  apply isPlainName_of_cacheEnding
  · intro member
    exact absurd (mem_temporaryFront member) (by decide)
  · intro member
    exact absurd (mem_temporaryFront member) (by decide)

/-- The name of a temporary file is short enough. -/
theorem isLongName_temporary {count : Nat} (below : count < temporaryLimit) :
    isLongName (temporaryName cacheEnding count) = false := by
  rw [isLongName, size_temporaryName cacheEnding below, size_cacheEnding]
  decide

end Temporary

section Key

/-- A hexadecimal digit is an ASCII letter or digit. -/
theorem hexDigit_range {value : Nat} (below : value < 16) :
    48 ≤ (Text.hexDigit value).toNat ∧ (Text.hexDigit value).toNat ≤ 102 := by
  have all : ∀ digit < 16,
      48 ≤ (Text.hexDigit digit).toNat ∧ (Text.hexDigit digit).toNat ≤ 102 := by decide
  exact all value below

/-- A hexadecimal text has hexadecimal digits only. -/
theorem hexText_range (width value : Nat) {c : Char} (member : c ∈ Text.hexText width value) :
    48 ≤ c.toNat ∧ c.toNat ≤ 102 := by
  induction width generalizing value with
  | zero => cases member
  | succ width ih =>
      rw [Text.hexText, List.mem_append, List.mem_singleton] at member
      rcases member with earlier | rfl
      · exact ih _ earlier
      · exact hexDigit_range (Nat.mod_lt _ (by decide))

/-- The digits of a digest are neither slashes nor null characters. -/
theorem range_of_mem_keyOf {marker : String} {resolved : Path} {c : Char}
    (member : c ∈ (IndexCache.keyOf marker resolved).toList) : 48 ≤ c.toNat ∧ c.toNat ≤ 102 := by
  rw [IndexCache.keyOf, String.toList_ofList] at member
  obtain ⟨word, _, inWord⟩ := List.mem_flatMap.1 (List.take_subset _ _ member)
  exact hexText_range 8 _ inWord

/-- The name of the cache file of a marker and a resolved path. -/
def IndexCache.nameOf (marker : String) (resolved : Path) : String :=
  keyOf marker resolved ++ cacheEnding

/-- Cache files of one name have one key. -/
theorem IndexCache.keyOf_eq_of_nameOf {marker other : String} {resolved path : Path}
    (same : nameOf marker resolved = nameOf other path) :
    keyOf marker resolved = keyOf other path := by
  have lists := congrArg String.toList same
  rw [nameOf, nameOf, String.toList_append, String.toList_append] at lists
  exact String.toList_inj.1 (List.append_cancel_right lists)

/-- The name of a cache file is plain. -/
theorem isPlainName_nameOf (marker : String) (resolved : Path) :
    IsPlainName (IndexCache.nameOf marker resolved) := by
  apply isPlainName_of_cacheEnding
  · intro member
    exact absurd (range_of_mem_keyOf member) (by decide)
  · intro member
    exact absurd (range_of_mem_keyOf member) (by decide)

/-- A hexadecimal text is as wide as asked. -/
theorem length_hexText (width value : Nat) : (Text.hexText width value).length = width := by
  induction width generalizing value with
  | zero => rfl
  | succ width ih => rw [Text.hexText, List.length_append, ih, List.length_singleton]

/-- The names of cache files are equally long. -/
theorem size_nameOf (marker : String) (resolved : Path) :
    Utf8.size (IndexCache.nameOf marker resolved).toList = 38 := by
  have digits : (IndexCache.keyOf marker resolved).toList.length = 32 := by
    simp [IndexCache.keyOf, Digest.hexOf, length_hexText]
  have ascii (c : Char) (member : c ∈ (IndexCache.keyOf marker resolved).toList) :
      c.toNat < 0x80 := by
    have range := range_of_mem_keyOf member
    omega
  rw [IndexCache.nameOf, String.toList_append, Utf8.size_append, size_of_ascii ascii, digits,
    size_cacheEnding]

/-- The name of a cache file is short enough. -/
theorem isLongName_nameOf (marker : String) (resolved : Path) :
    FileSystem.isLongName (IndexCache.nameOf marker resolved) = false := by
  rw [FileSystem.isLongName, size_nameOf]
  decide

/-- A name of another length is none of a cache file. -/
theorem nameOf_ne (marker : String) (resolved : Path) {other : String}
    (size : Utf8.size other.toList ≠ 38) : IndexCache.nameOf marker resolved ≠ other := by
  rintro rfl
  exact size (size_nameOf marker resolved)

end Key

end AnnotatedMake
