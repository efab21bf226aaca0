import ArgCheck.Table
import ArgCheck.Text.Fields

set_option autoImplicit false

/-!
# Files

The files and directories around a working directory. A path is followed part by part from the working
directory: an empty part and a single dot stay where they are, two dots go up, and a name goes down to
what has that name. Only a directory can be left along a path, whichever part comes next.
-/

namespace ArgCheck

/-- A place among directories: so many steps up from the working directory, and then down along names,
the last of which stands first. -/
structure Place where
  above : Nat
  names : List String
  deriving DecidableEq, Repr

namespace Place

def here : Place := ⟨0, []⟩

def child (place : Place) (name : String) : Place := ⟨place.above, name :: place.names⟩

def parent (place : Place) : Place :=
  match place.names with
  | [] => ⟨place.above + 1, []⟩
  | _ :: names => ⟨place.above, names⟩

/-- The place that a part of a path leads to. -/
def step (place : Place) (part : String) : Place :=
  if part = "" ∨ part = "." then place
  else if part = ".." then place.parent
  else place.child part

theorem parent_child (place : Place) (name : String) : (place.child name).parent = place := rfl

end Place

inductive FileContent where
  | bytes (content : ByteArray)
  | directory

def FileContent.isDirectory : FileContent → Bool
  | .directory => true
  | .bytes _ => false

structure Files where
  entries : Entries Place FileContent

namespace Files

def empty : Files := ⟨[]⟩

/-- The working directory and those above it are always there. -/
def content? (files : Files) (place : Place) : Option FileContent :=
  if place.names = [] then some .directory else files.entries.lookup place

def put (files : Files) (place : Place) (content : FileContent) : Files :=
  ⟨files.entries.insert place content⟩

def parts (path : String) : List String :=
  (Text.fields '/' path.toList).map String.ofList

/-- Writes a file or makes a directory, with the directories on the way to it. -/
def writeFrom (place : Place) (content : FileContent) : List String → Files → Files
  | [], files => files
  | [last], files => files.put (place.step last) content
  | part :: rest, files =>
    writeFrom (place.step part) content rest (files.put (place.step part) .directory)

def write (files : Files) (path : String) (content : FileContent) : Files :=
  writeFrom .here content (parts path) files

def ofList (contents : List (String × FileContent)) : Files :=
  contents.foldl (fun files entry => files.write entry.1 entry.2) empty

/-- One part of a path, if the place is a directory and the part leads to something. -/
def enter? (files : Files) (place : Place) (part : String) : Option Place :=
  if (files.content? place).any FileContent.isDirectory ∧
      (files.content? (place.step part)).isSome then
    some (place.step part)
  else none

/-- Longer paths are not followed. -/
def maxPathBytes : Nat := 4095

/-- What is at a path. Beyond the files that are known there is only the topmost directory. -/
def find? (files : Files) (path : String) : Option FileContent :=
  if path = "" ∨ maxPathBytes < path.utf8ByteSize then none
  else if path.toList.head? = some '/' then
    if (parts path).all fun part => part = "" ∨ part = "." ∨ part = ".." then some .directory
    else none
  else ((parts path).foldlM files.enter? .here).bind files.content?

def height (files : Files) : Nat := (files.entries.map fun entry => entry.1.above).foldl max 0

/-- The file of a name in the working directory, or else in the nearest directory above that has one. -/
def nearest? (files : Files) (name : String) : Option ByteArray :=
  (List.range (files.height + 1)).findSome? fun above =>
    match files.content? ⟨above, [name]⟩ with
    | some (.bytes content) => some content
    | _ => none

/-- What stands behind the last point of a file's name, if the point is not its first character. -/
def extension? (path : String) : Option String :=
  let name := (path.toList.reverse.takeWhile (· ≠ '/')).reverse
  let ending := name.reverse.takeWhile (· ≠ '.')
  if ending.length + 1 < name.length then some (String.ofList ending.reverse) else none

theorem content?_put (files : Files) (place other : Place) (content : FileContent)
    (h : other.names ≠ []) :
    (files.put place content).content? other =
      if place = other then some content else files.content? other := by
  simp only [content?, if_neg h, put, Entries.lookup_insert]

end Files

end ArgCheck
