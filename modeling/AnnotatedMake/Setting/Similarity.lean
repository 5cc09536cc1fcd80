import Std.Data.HashMap

namespace AnnotatedMake.Similarity

/-- In a text of 200 characters or more, those that make up over a hundredth of it start no
block. -/
def popularIn (text : List Char) : List Char :=
  if 200 ≤ text.length then
    text.eraseDups.filter fun c => text.length / 100 + 1 < text.count c
  else []

/-- A common block: where it starts in either text, and its length. -/
structure Block where
  first : Nat
  second : Nat
  size : Nat
deriving DecidableEq, Repr

/-- The places of each character in a text by its code, popular characters left out. -/
def placesIn (popular text : List Char) : Std.HashMap Nat (List Nat) :=
  text.zipIdx.foldr (fun (c, place) known =>
    if popular.contains c then known
    else known.insert c.toNat (place :: known.getD c.toNat [])) ∅

/-- A common run: where it ends in the second text, and its length. -/
structure Run where
  last : Nat
  size : Nat
deriving DecidableEq, Repr

/-- The runs that end at the given places, each one longer than the run right before it. -/
def nextRuns : List Nat → List Run → List Run
  | [], _ => []
  | place :: places, [] => ⟨place, 1⟩ :: nextRuns places []
  | place :: places, run :: runs =>
    if run.last + 1 < place then nextRuns (place :: places) runs
    else if run.last + 1 = place then ⟨place, run.size + 1⟩ :: nextRuns places runs
    else ⟨place, 1⟩ :: nextRuns places (run :: runs)
termination_by places runs => places.length + runs.length

/-- The longest run of a place of the first text, if longer than the best so far. -/
def better (place : Nat) (best : Block) (runs : List Run) : Block :=
  runs.foldl (fun best run =>
    if best.size < run.size then ⟨place + 1 - run.size, run.last + 1 - run.size, run.size⟩
    else best) best

def longestFrom (places : Std.HashMap Nat (List Nat)) :
    List Char → Nat → List Run → Block → Block
  | [], _, _, best => best
  | c :: rest, place, runs, best =>
    let next := nextRuns (places.getD c.toNat []) runs
    longestFrom places rest (place + 1) next (better place best next)

/-- How many characters two texts have in common at their start. -/
def sharedStart : List Char → List Char → Nat
  | c :: first, other :: second => if c = other then sharedStart first second + 1 else 0
  | _, _ => 0

/-- A block made longer on both sides by every equal character, popular ones too. -/
def extend (first second : List Char) (block : Block) : Block :=
  let back := sharedStart (first.take block.first).reverse (second.take block.second).reverse
  let ahead := sharedStart (first.drop (block.first + block.size))
    (second.drop (block.second + block.size))
  ⟨block.first - back, block.second - back, block.size + back + ahead⟩

/-- The longest common block; of equally long ones the earliest in the first text, then in the
second. -/
def longest (popular first second : List Char) : Block :=
  extend first second (longestFrom (placesIn popular second) first 0 [] ⟨0, 0, 0⟩)

/-- The count of characters in matching blocks; each round takes a character off the first text. -/
def matchedWithin (popular : List Char) : Nat → List Char → List Char → Nat
  | 0, _, _ => 0
  | fuel + 1, first, second =>
    let block := longest popular first second
    if block.size = 0 then 0
    else
      matchedWithin popular fuel (first.take block.first) (second.take block.second) + block.size +
        matchedWithin popular fuel (first.drop (block.first + block.size))
          (second.drop (block.second + block.size))

/-- The count of characters in matching blocks of a candidate and the text it is compared with. -/
def matched (candidate asked : List Char) : Nat :=
  matchedWithin (popularIn asked) (candidate.length + 1) candidate asked

/-- A likeness as matched characters over all characters of both texts. -/
structure Likeness where
  matched : Nat
  total : Nat

/-- Whether twice the matched characters make up three fifths of all. -/
def Likeness.suffices (likeness : Likeness) : Bool :=
  likeness.total = 0 || 3 * likeness.total ≤ 10 * likeness.matched

/-- The order by share; two empty texts are fully alike. -/
def Likeness.less (one other : Likeness) : Bool :=
  let share (likeness : Likeness) :=
    if likeness.total = 0 then (1, 2) else (likeness.matched, likeness.total)
  (share one).1 * (share other).2 < (share other).1 * (share one).2

def likeness (candidate asked : String) : Likeness :=
  ⟨matched candidate.toList asked.toList, candidate.length + asked.length⟩

/-- The better of two rated candidates: the more alike, then the greater text. -/
def prefer (one other : Likeness × String) : Likeness × String :=
  if one.1.less other.1 then other
  else if other.1.less one.1 then one
  else if one.2 < other.2 then other else one

/-- The known text most like the one asked for, if any is alike enough. -/
def closest? (asked : String) (known : List String) : Option String :=
  let rated := (known.map fun candidate => (likeness candidate asked, candidate)).filter
    fun entry => entry.1.suffices
  match rated with
  | [] => none
  | first :: rest => some (rest.foldl prefer first).2

end AnnotatedMake.Similarity
