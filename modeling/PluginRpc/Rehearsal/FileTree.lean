/-
A file tree for rehearsals.

The tree hangs below a working directory; a place in it is the list of
the names that lead there. Files hold bytes or the image of a module. A
path is followed segment by segment, and whatever a segment is looked up
in has to be a directory, even if the segment says "here". Above the
working directory there are only directories, in which nothing is found
and nothing is written. A path that is too long is not followed at all,
and a name that is too long is nowhere.
-/
import PluginRpc.Files
import PluginRpc.Plugin.Module

namespace PluginRpc.Rehearsal

/-- The modules of which there are images. -/
inductive Image where
  | greeter
  /-- A module without entries. -/
  | empty
deriving DecidableEq, Repr

/-- What is at a place. -/
inductive Node where
  | bytes (content : Payload)
  | image (image : Image)
  | directory
deriving DecidableEq, Repr

/-- A place in the tree, by the names that lead there. -/
abbrev Place := List String

/-- Where a path has led. -/
inductive Location where
  | within (place : Place)
  /-- Somewhere above the working directory. -/
  | above
deriving DecidableEq, Repr

/-- The tree, place by place. -/
structure FileTree where
  nodes : List (Place × Node)
deriving DecidableEq, Repr

namespace FileTree

def empty : FileTree := ⟨[]⟩

variable (t : FileTree)

/-- What is at a place; the working directory itself is always there. -/
def node? (place : Place) : Option Node :=
  if place = [] then some .directory else t.nodes.lookup place

def isDirectory : Location → Bool
  | .above => true
  | .within place => t.node? place == some .directory

/-- Follows a segment from where a path has led. -/
def follow? (l : Location) (segment : Path.Segment) : Option Location :=
  if t.isDirectory l then
    match l with
    | .above => if Path.isIdle segment || segment == Path.up then some .above else none
    | .within place =>
        if Path.isIdle segment then some l
        else if segment = Path.up then
          some (if place = [] then .above else .within place.dropLast)
        else
          let place := place ++ [String.ofList segment]
          (t.node? place).map fun _ => .within place
  else none

/-- How many bytes a path may have. -/
def pathLimit : Nat := 4095

/-- How many bytes a name may have. -/
def nameLimit : Nat := 255

/-- Whether there can be something with the name. -/
def isName (segment : Path.Segment) : Bool :=
  (String.ofList segment).utf8ByteSize ≤ nameLimit && !segment.contains (Char.ofNat 0)

/-- Where a path leads. -/
def locate? (path : Path) : Option Location :=
  if pathLimit < path.text.utf8ByteSize then none
  else
    match path.segments with
    | [[]] => none
    | [] :: rest => rest.foldlM t.follow? .above
    | segments => segments.foldlM t.follow? (.within [])

/-- The names of a directory's entries. -/
def names (place : Place) : List String :=
  t.nodes.filterMap fun (p, _) =>
    if p.dropLast = place then p.getLast? else none

/-- The image at a path. -/
def image? (path : Path) : Option Image :=
  match t.locate? path with
  | some (.within place) =>
      match t.node? place with
      | some (.image i) => some i
      | _ => none
  | _ => none

/-- The tree as a loader sees it. An image is no text. -/
def files : Files := fun path =>
  match t.locate? path with
  | none => .nothing
  | some .above => .directory []
  | some (.within place) =>
      match t.node? place with
      | none => .nothing
      | some (.bytes content) => .file (some content)
      | some (.image _) => .file none
      | some .directory => .directory (t.names place)

-- ============================================================== changes

/-- Something is put at a place, and takes the place of what was there. -/
def put (place : Place) (node : Node) : FileTree :=
  ⟨t.nodes.filter (fun (p, _) => p != place) ++ [(place, node)]⟩

/-- What is at a place and below it goes away. -/
def clear (place : Place) : FileTree :=
  ⟨t.nodes.filter fun (p, _) => p.take place.length != place⟩

/-- Follows a segment from a directory; a directory that is missing is
made. -/
def enter? : FileTree × Place → Path.Segment → Option (FileTree × Place)
  | (t, place), segment =>
      if Path.isIdle segment then some (t, place)
      else if segment = Path.up then
        if place = [] then none else some (t, place.dropLast)
      else if !isName segment then none
      else
        let place := place ++ [String.ofList segment]
        match t.node? place with
        | none => some (t.put place .directory, place)
        | some .directory => some (t, place)
        | some _ => none

/-- Something comes to a place, and what was there goes away. A directory
that is there already stays as it is. -/
def settle (place : Place) (node : Node) : FileTree :=
  if node = .directory ∧ t.node? place = some .directory then t
  else (t.clear place).put place node

/-- Whether something can be written to a path: it is not too long, and
ends in the name if a file is to come there. -/
def admits (path : Path) (node : Node) : Bool :=
  path.text.utf8ByteSize ≤ pathLimit &&
    (node == .directory || !path.segments.getLast?.any Path.isIdle)

/-- Writes to a path, and makes the directories on the way. -/
def write (path : Path) (node : Node) : FileTree :=
  if !admits path node then t else
  match path.components.head?, path.backwards with
  | some .root, _ => t
  | _, [] => t
  | _, last :: before =>
      match before.reverse.foldlM enter? (t, []) with
      | none => t
      | some (t, place) =>
          if last = Path.up || !isName last then t
          else t.settle (place ++ [String.ofList last]) node

/-- Removes what is at a path and below it. -/
def remove (path : Path) : FileTree :=
  match t.locate? path with
  | some (.within place) => t.clear place
  | _ => t

end FileTree

end PluginRpc.Rehearsal
