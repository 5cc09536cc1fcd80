namespace AnnotatedMake

abbrev Bytes := List UInt8

namespace Utf8

def byte (value : Nat) : UInt8 := UInt8.ofNat value

/-- The bytes of a character. -/
def encodeCharacter (c : Char) : Bytes :=
  let point := c.toNat
  if point < 0x80 then [byte point]
  else if point < 0x800 then [byte (0xC0 + point / 0x40), byte (0x80 + point % 0x40)]
  else if point < 0x10000 then
    [byte (0xE0 + point / 0x1000), byte (0x80 + point / 0x40 % 0x40), byte (0x80 + point % 0x40)]
  else
    [byte (0xF0 + point / 0x40000), byte (0x80 + point / 0x1000 % 0x40),
      byte (0x80 + point / 0x40 % 0x40), byte (0x80 + point % 0x40)]

def encode (text : List Char) : Bytes := text.flatMap encodeCharacter

/-- A byte that continues a character. -/
def isTail (b : UInt8) : Bool := 0x80 ≤ b && b ≤ 0xBF

/-- Whether a second byte may follow the first one of a longer character. -/
def continues (first second : UInt8) : Bool :=
  if first = 0xE0 then 0xA0 ≤ second && second ≤ 0xBF
  else if first = 0xED then 0x80 ≤ second && second ≤ 0x9F
  else if first = 0xF0 then 0x90 ≤ second && second ≤ 0xBF
  else if first = 0xF4 then 0x80 ≤ second && second ≤ 0x8F
  else isTail second

/-- The six bits that a continuing byte carries. -/
def tailBits (b : UInt8) : Nat := b.toNat % 0x40

/-- The characters of a byte string; each faulty stretch gives one `none`. -/
def scan : Bytes → List (Option Char)
  | [] => []
  | a :: rest =>
    if a < 0x80 then some (Char.ofNat a.toNat) :: scan rest
    else if 0xC2 ≤ a && a ≤ 0xDF then
      match rest with
      | [] => [none]
      | b :: rest' =>
        if isTail b then some (Char.ofNat (a.toNat % 0x20 * 0x40 + tailBits b)) :: scan rest'
        else none :: scan (b :: rest')
    else if 0xE0 ≤ a && a ≤ 0xEF then
      match rest with
      | [] => [none]
      | b :: rest' =>
        if continues a b then
          match rest' with
          | [] => [none]
          | c :: rest'' =>
            if isTail c then
              some (Char.ofNat (a.toNat % 0x10 * 0x1000 + tailBits b * 0x40 + tailBits c)) ::
                scan rest''
            else none :: scan (c :: rest'')
        else none :: scan (b :: rest')
    else if 0xF0 ≤ a && a ≤ 0xF4 then
      match rest with
      | [] => [none]
      | b :: rest' =>
        if continues a b then
          match rest' with
          | [] => [none]
          | c :: rest'' =>
            if isTail c then
              match rest'' with
              | [] => [none]
              | d :: rest''' =>
                if isTail d then
                  some (Char.ofNat (a.toNat % 0x08 * 0x40000 + tailBits b * 0x1000 +
                    tailBits c * 0x40 + tailBits d)) :: scan rest'''
                else none :: scan (d :: rest''')
            else none :: scan (c :: rest'')
        else none :: scan (b :: rest')
    else none :: scan rest

/-- The text of a byte string without faults. -/
def decode? (bytes : Bytes) : Option (List Char) := (scan bytes).mapM id

/-- The character that stands for a faulty stretch. -/
def replacement : Char := Char.ofNat 0xFFFD

/-- The text of a byte string, with a replacement for each faulty stretch. -/
def decodeReplacing (bytes : Bytes) : List Char :=
  (scan bytes).map fun found => found.getD replacement

/-- How many bytes a text takes. -/
def size (text : List Char) : Nat := (encode text).length

theorem size_append (front back : List Char) : size (front ++ back) = size front + size back := by
  rw [size, encode, List.flatMap_append, List.length_append]
  rfl

end Utf8

def bytesOf (text : String) : Bytes := Utf8.encode text.toList

end AnnotatedMake
