/-
This file models trees of directories, files and symbolic links.
A location is the names on the way from the root, none of them a link or a dot.
-/

import AnnotatedMake.Fault
import AnnotatedMake.Host.PlaceMap
import AnnotatedMake.Text.Piece
import AnnotatedMake.Text.Utf8

namespace AnnotatedMake

/-- What stands at a place, with the time of its last change in nanoseconds. -/
inductive Node where
  | directory (changed : Int)
  | file (content : Bytes) (changed : Int)
  | link (target : String)
  | sink
deriving DecidableEq, Repr

structure FileSystem where
  nodes : PlaceMap Node
deriving DecidableEq

/-- What a walk is for: a node itself, its target, or a file to be made. -/
inductive Purpose where
  | itself
  | target
  | creation
deriving DecidableEq, Repr

/-- Where a walk ends. -/
inductive Destination where
  | found (place : Location) (node : Node)
  | vacant (directory : Location) (name : String)
deriving DecidableEq, Repr

namespace FileSystem

/-- A root directory with nothing in it. -/
def empty : FileSystem := ⟨PlaceMap.empty.insert [] (.directory 0)⟩

instance : Inhabited FileSystem := ⟨empty⟩

def node? (files : FileSystem) (place : Location) : Option Node := files.nodes.get? place

def put (files : FileSystem) (place : Location) (node : Node) : FileSystem :=
  ⟨files.nodes.insert place node⟩

def drop (files : FileSystem) (place : Location) : FileSystem := ⟨files.nodes.erase place⟩

theorem node?_put (files : FileSystem) (place : Location) (node : Node) (other : Location) :
    (files.put place node).node? other = if other = place then some node else files.node? other :=
  PlaceMap.get?_insert files.nodes place node other

theorem node?_drop (files : FileSystem) (place other : Location) :
    (files.drop place).node? other = if other = place then none else files.node? other :=
  PlaceMap.get?_erase files.nodes place other

/-- The greatest count of bytes in a name. -/
def nameLimit : Nat := 255

def isLongName (name : String) : Bool := nameLimit < Utf8.size name.toList

/-- The names that a link adds to a walk; a trailing slash counts as an empty one. -/
def linkNames (target : String) : List String :=
  (piecesOf '/' target).filter (fun name => name ≠ "") ++ if endsText "/" target then [""] else []

/-- Whether a name stays in its directory. -/
def isHere (name : String) : Bool := name = "." || name = ""

/-- The directory that the target of a link starts from. -/
def linkStart (place : Location) (target : String) : Location :=
  if startsText "/" target then [] else place

/-- Walks from a directory along names and follows links while their allowance lasts. -/
def walk (files : FileSystem) (purpose : Purpose) (links : Nat) (place : Location)
    (names : List String) : Except Nat Destination :=
  match names with
  | [] =>
    match files.node? place with
    | some node => .ok (.found place node)
    | none => .error Fault.notFound
  | name :: rest =>
    match files.node? place with
    | some (.directory _) =>
      if isHere name then walk files purpose links place rest
      else if name = ".." then walk files purpose links place.dropLast rest
      else if purpose = .creation && rest = [""] then .error Fault.isDirectory
      else if isLongName name then .error Fault.nameTooLong
      else match files.node? (place ++ [name]) with
        | none => if rest.isEmpty then .ok (.vacant place name) else .error Fault.notFound
        | some (.link target) =>
          if rest.isEmpty && purpose = .itself then .ok (.found (place ++ [name]) (.link target))
          else match links with
            | 0 => .error Fault.tooManyLinks
            | left + 1 =>
              walk files purpose left (linkStart place target) (linkNames target ++ rest)
        | some _ => walk files purpose links (place ++ [name]) rest
    | some _ => .error Fault.notDirectory
    | none => .error Fault.notFound
termination_by (links, names.length)

/-- How many links a walk may follow. -/
def linkAllowance : Nat := 40

def lookUp (files : FileSystem) (purpose : Purpose) (start : Location) (names : List String) :
    Except Nat Destination :=
  files.walk purpose linkAllowance start names

/-- The directory that a walk leads to. -/
def enter (files : FileSystem) (start : Location) (names : List String) : Except Nat Location :=
  match files.lookUp .target start names with
  | .error number => .error number
  | .ok (.found place (.directory _)) => .ok place
  | .ok (.found _ _) => .error Fault.notDirectory
  | .ok (.vacant _ _) => .error Fault.notFound

/-- The last name of a walk, unless it ends at its start or goes up. -/
def lastName? (names : List String) : Option String :=
  names.getLast?.filter fun name => name ≠ ".."

/-- Marks a change in a directory. -/
def touch (files : FileSystem) (place : Location) (time : Int) : FileSystem :=
  match files.node? place with
  | some (.directory _) => files.put place (.directory time)
  | _ => files

/-- Adds a node under a name of a directory. -/
def add (files : FileSystem) (directory : Location) (name : String) (node : Node) (time : Int) :
    FileSystem :=
  (files.put (directory ++ [name]) node).touch directory time

/-- Takes the node at a place out of its directory. -/
def takeOut (files : FileSystem) (place : Location) (time : Int) : FileSystem :=
  (files.drop place).touch place.dropLast time

def read (files : FileSystem) (start : Location) (names : List String) : Except Nat Bytes :=
  match files.lookUp .target start names with
  | .error number => .error number
  | .ok (.found _ (.file content _)) => .ok content
  | .ok (.found _ .sink) => .ok []
  | .ok (.found _ _) => .error Fault.isDirectory
  | .ok (.vacant _ _) => .error Fault.notFound

/-- The node that a walk leads to, links followed. -/
def nodeAt (files : FileSystem) (start : Location) (names : List String) : Except Nat Node :=
  match files.lookUp .target start names with
  | .error number => .error number
  | .ok (.found _ node) => .ok node
  | .ok (.vacant _ _) => .error Fault.notFound

/-- Gives a file new content, made from the old one, or makes a file. -/
def write (files : FileSystem) (start : Location) (names : List String)
    (content : Bytes → Bytes) (time : Int) : Except Nat FileSystem :=
  match files.lookUp .creation start names with
  | .error number => .error number
  | .ok (.found place (.file old _)) => .ok (files.put place (.file (content old) time))
  | .ok (.found _ .sink) => .ok files
  | .ok (.found _ _) => .error Fault.isDirectory
  | .ok (.vacant directory name) => .ok (files.add directory name (.file (content []) time) time)

/-- Adds to the file at a place, if it is there. -/
def extend (files : FileSystem) (place : Location) (content : Bytes) (time : Int) : FileSystem :=
  match files.node? place with
  | some (.file old _) => files.put place (.file (old ++ content) time)
  | _ => files

def makeDirectory (files : FileSystem) (start : Location) (names : List String) (time : Int) :
    Except Nat FileSystem :=
  match files.enter start names.dropLast, lastName? names with
  | .error number, _ => .error number
  | .ok _, none => .error Fault.alreadyThere
  | .ok directory, some name =>
    if isLongName name then .error Fault.nameTooLong
    else match files.node? (directory ++ [name]) with
      | some _ => .error Fault.alreadyThere
      | none => .ok (files.add directory name (.directory time) time)

/-- Removes a file or a link. -/
def remove (files : FileSystem) (start : Location) (names : List String) (time : Int) :
    Except Nat FileSystem :=
  match files.lookUp .itself start names with
  | .error number => .error number
  | .ok (.found _ (.directory _)) => .error Fault.isDirectory
  | .ok (.found place _) => .ok (files.takeOut place time)
  | .ok (.vacant _ _) => .error Fault.notFound

/-- Moves a file or link onto a name, in place of a file or link that stands there. -/
def rename (files : FileSystem) (start : Location) (source : List String)
    (goalStart : Location) (goal : List String) (time : Int) : Except Nat FileSystem :=
  match files.enter start source.dropLast, files.enter goalStart goal.dropLast with
  | .error number, _ => .error number
  | _, .error number => .error number
  | .ok from', .ok into =>
    match lastName? source, lastName? goal with
    | some old, some new =>
      match files.node? (from' ++ [old]) with
      | none => .error Fault.notFound
      | some node =>
        if isLongName new then .error Fault.nameTooLong
        else match files.node? (into ++ [new]) with
          | some (.directory _) => .error Fault.isDirectory
          | _ => .ok ((files.takeOut (from' ++ [old]) time).add into new node time)
    | _, _ => .error Fault.isBusy

/-- The names in a directory. -/
def namesIn (files : FileSystem) (directory : Location) : List String :=
  files.nodes.keys.filterMap fun place =>
    if place.dropLast = directory then place.getLast? else none

/-- The names in the directory that a walk leads to. -/
def list (files : FileSystem) (start : Location) (names : List String) :
    Except Nat (List String) :=
  (files.enter start names).map files.namesIn

/-- The ending of a temporary name, from a count. -/
def temporaryName (ending : String) (count : Nat) : String :=
  let digits := toString count
  "." ++ String.ofList (List.replicate (8 - digits.length) '0') ++ digits ++ ending

/-- The first of the temporary names, from a count on, that a directory does not hold. -/
def vacantName? (files : FileSystem) (directory : Location) (ending : String) :
    Nat → Nat → Option String
  | 0, _ => none
  | left + 1, count =>
    let name := temporaryName ending count
    if (files.node? (directory ++ [name])).isNone then some name
    else files.vacantName? directory ending left (count + 1)

/-- How many temporary names are tried. -/
def temporaryLimit : Nat := 10000

/-- Makes an empty file under a name that its directory did not hold. -/
def createTemporary (files : FileSystem) (start : Location) (names : List String)
    (ending : String) (time : Int) : Except Nat (String × FileSystem) :=
  match files.enter start names with
  | .error number => .error number
  | .ok directory =>
    match files.vacantName? directory ending temporaryLimit 0 with
    | some name => .ok (name, files.add directory name (.file [] time) time)
    | none => .error Fault.alreadyThere

end FileSystem

end AnnotatedMake
