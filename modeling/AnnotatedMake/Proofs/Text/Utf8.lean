import AnnotatedMake.IndexCache

namespace AnnotatedMake

namespace Utf8

/-- A byte has the value it was made from. -/
theorem toNat_byte (value : Nat) (fits : value < 256) : (byte value).toNat = value := by
  simp [byte, Nat.mod_eq_of_lt fits]

section Scan

variable {a b c d : Nat}

/-- The bytes from 0x80 to 0xBF are tails. -/
theorem isTail_byte (above : 0x80 ≤ b) (below : b ≤ 0xBF) : isTail (byte b) = true := by
  have number := toNat_byte b (by omega)
  simp only [isTail, UInt8.le_iff_toNat_le, number, Bool.and_eq_true, decide_eq_true_eq]
  exact ⟨above, below⟩

/-- The second byte is held to the ranges of its first. -/
theorem continues_byte (first : a < 256) (above : 0x80 ≤ b) (below : b ≤ 0xBF)
    (long : a = 0xE0 → 0xA0 ≤ b) (surrogate : a = 0xED → b ≤ 0x9F)
    (longest : a = 0xF0 → 0x90 ≤ b) (last : a = 0xF4 → b ≤ 0x8F) :
    continues (byte a) (byte b) = true := by
  have number := toNat_byte b (by omega)
  have same (value : UInt8) : byte a = value ↔ a = value.toNat := by
    rw [← UInt8.toNat_inj, toNat_byte a first]
  simp only [continues, same, UInt8.le_iff_toNat_le, number]
  split
  · rename_i equal
    simpa using ⟨long equal, below⟩
  · split
    · rename_i equal
      simpa using ⟨above, surrogate equal⟩
    · split
      · rename_i equal
        simpa using ⟨longest equal, below⟩
      · split
        · rename_i equal
          simpa using ⟨above, last equal⟩
        · exact isTail_byte above below

/-- A byte below 0x80 is a character. -/
theorem scan_one (small : a < 0x80) (rest : Bytes) :
    scan (byte a :: rest) = some (Char.ofNat a) :: scan rest := by
  have number := toNat_byte a (by omega)
  have first : byte a < 0x80 := UInt8.lt_iff_toNat_lt.2 (by simpa [number] using small)
  rw [scan.eq_def]
  simp only [first, if_true, number]

/-- Two bytes in range are one character. -/
theorem scan_two (least : 0xC2 ≤ a) (most : a ≤ 0xDF) (above : 0x80 ≤ b) (below : b ≤ 0xBF)
    (rest : Bytes) :
    scan (byte a :: byte b :: rest) =
      some (Char.ofNat (a % 0x20 * 0x40 + b % 0x40)) :: scan rest := by
  have first := toNat_byte a (by omega)
  have second := toNat_byte b (by omega)
  have tail := isTail_byte above below
  have lead : ¬ byte a < 0x80 ∧ (0xC2 ≤ byte a && byte a ≤ 0xDF) = true := by
    simp only [UInt8.lt_iff_toNat_lt, UInt8.le_iff_toNat_le, first, Bool.and_eq_true,
      decide_eq_true_eq]
    exact ⟨by simp; omega, least, most⟩
  rw [scan.eq_def]
  simp only [lead, tail, if_true, if_false, tailBits, first, second]

/-- Three bytes in range are one character. -/
theorem scan_three (least : 0xE0 ≤ a) (most : a ≤ 0xEF)
    (second : continues (byte a) (byte b) = true) (fits : b ≤ 0xBF) (above : 0x80 ≤ c)
    (below : c ≤ 0xBF) (rest : Bytes) :
    scan (byte a :: byte b :: byte c :: rest) =
      some (Char.ofNat (a % 0x10 * 0x1000 + b % 0x40 * 0x40 + c % 0x40)) :: scan rest := by
  have numbers := And.intro (toNat_byte a (by omega))
    (And.intro (toNat_byte b (by omega)) (toNat_byte c (by omega)))
  have tail := isTail_byte above below
  have lead : ¬ byte a < 0x80 ∧ ¬ (0xC2 ≤ byte a && byte a ≤ 0xDF) = true ∧
      (0xE0 ≤ byte a && byte a ≤ 0xEF) = true := by
    simp only [UInt8.lt_iff_toNat_lt, UInt8.le_iff_toNat_le, numbers.1, Bool.and_eq_true,
      decide_eq_true_eq]
    exact ⟨by simp; omega, by simp; omega, least, most⟩
  rw [scan.eq_def]
  simp only [lead, second, tail, if_true, if_false, Bool.false_eq_true, tailBits, numbers]

/-- Four bytes in range are one character. -/
theorem scan_four (least : 0xF0 ≤ a) (most : a ≤ 0xF4)
    (second : continues (byte a) (byte b) = true) (fits : b ≤ 0xBF) (above : 0x80 ≤ c)
    (below : c ≤ 0xBF) (above' : 0x80 ≤ d) (below' : d ≤ 0xBF) (rest : Bytes) :
    scan (byte a :: byte b :: byte c :: byte d :: rest) =
      some (Char.ofNat (a % 0x08 * 0x40000 + b % 0x40 * 0x1000 + c % 0x40 * 0x40 + d % 0x40)) ::
        scan rest := by
  have numbers := And.intro (toNat_byte a (by omega))
    (And.intro (toNat_byte b (by omega))
      (And.intro (toNat_byte c (by omega)) (toNat_byte d (by omega))))
  have tails := And.intro (isTail_byte above below) (isTail_byte above' below')
  have lead : ¬ byte a < 0x80 ∧ ¬ (0xC2 ≤ byte a && byte a ≤ 0xDF) = true ∧
      ¬ (0xE0 ≤ byte a && byte a ≤ 0xEF) = true ∧ (0xF0 ≤ byte a && byte a ≤ 0xF4) = true := by
    simp only [UInt8.lt_iff_toNat_lt, UInt8.le_iff_toNat_le, numbers.1, Bool.and_eq_true,
      decide_eq_true_eq]
    exact ⟨by simp; omega, by simp; omega, by simp; omega, least, most⟩
  rw [scan.eq_def]
  simp only [lead, second, tails, if_true, if_false, Bool.false_eq_true, tailBits, numbers]

end Scan

/-- The bytes of a character are read as that character, whatever follows them. -/
theorem scan_encodeCharacter (c : Char) (rest : Bytes) :
    scan (encodeCharacter c ++ rest) = some c :: scan rest := by
  have code : Char.ofNat c.toNat = c := Char.ofNat_toNat c
  have valid : c.toNat < 0xD800 ∨ 0xDFFF < c.toNat ∧ c.toNat < 0x110000 := c.valid
  simp only [encodeCharacter]
  split
  · rename_i small
    rw [List.singleton_append, scan_one small, code]
  · split
    · rw [List.cons_append, List.singleton_append,
        scan_two (by omega) (by omega) (by omega) (by omega)]
      rw [show (0xC0 + c.toNat / 0x40) % 0x20 * 0x40 + (0x80 + c.toNat % 0x40) % 0x40 = c.toNat
        by omega, code]
    · split
      · rw [List.cons_append, List.cons_append, List.singleton_append,
          scan_three (by omega) (by omega) (continues_byte (by omega) (by omega) (by omega)
            (by omega) (by omega) (by omega) (by omega)) (by omega) (by omega) (by omega)]
        rw [show (0xE0 + c.toNat / 0x1000) % 0x10 * 0x1000 +
          (0x80 + c.toNat / 0x40 % 0x40) % 0x40 * 0x40 + (0x80 + c.toNat % 0x40) % 0x40 = c.toNat
          by omega, code]
      · rw [List.cons_append, List.cons_append, List.cons_append, List.singleton_append,
          scan_four (by omega) (by omega) (continues_byte (by omega) (by omega) (by omega)
            (by omega) (by omega) (by omega) (by omega)) (by omega) (by omega) (by omega)
            (by omega) (by omega)]
        rw [show (0xF0 + c.toNat / 0x40000) % 0x08 * 0x40000 +
          (0x80 + c.toNat / 0x1000 % 0x40) % 0x40 * 0x1000 +
          (0x80 + c.toNat / 0x40 % 0x40) % 0x40 * 0x40 + (0x80 + c.toNat % 0x40) % 0x40 = c.toNat
          by omega, code]

/-- What is encoded is scanned back without a fault. -/
theorem scan_encode (text : List Char) : scan (encode text) = text.map some := by
  induction text with
  | nil => rfl
  | cons c rest ih =>
      rw [encode, List.flatMap_cons, scan_encodeCharacter, List.map_cons]
      exact congrArg _ ih

/-- The bytes of a text are read as that text. -/
theorem decode?_encode (text : List Char) : decode? (encode text) = some text := by
  rw [decode?, scan_encode]
  induction text with
  | nil => rfl
  | cons c rest ih => simp [List.mapM_cons, ih]

end Utf8

/-- Without carriage returns no break is changed. -/
theorem Text.unifyBreaks_of_absent {text : List Char} (absent : '\r' ∉ text) :
    unifyBreaks text = text := by
  induction text with
  | nil => rfl
  | cons c rest ih =>
      have differs : c ≠ '\r' := fun same => absent (same ▸ List.mem_cons_self)
      have further := ih fun inside => absent (List.mem_cons_of_mem c inside)
      rw [unifyBreaks, if_neg differs, further]
      exact fun _ same => absurd same differs

/-- A file that was given a text without carriage returns has that text. -/
theorem textOf?_bytesOf {text : String} (absent : '\r' ∉ text.toList) :
    textOf? (bytesOf text) = some text := by
  rw [textOf?, bytesOf, Utf8.decode?_encode, Option.map_some, Text.unifyBreaks_of_absent absent,
    String.ofList_toList]

/-- The bytes of two texts stand one behind the other. -/
theorem bytesOf_append (first second : String) :
    bytesOf (first ++ second) = bytesOf first ++ bytesOf second := by
  simp [bytesOf, Utf8.encode]

end AnnotatedMake
