/-
Paths: what a path's text says, and what is cut from it.

A path is kept as the text it was given as, and that is how it is shown.
What it says are its components, between slashes: empty ones and those
that say "here" say nothing, except that a path may begin at the root or
here. Two paths with the same components are the same path, and paths
are ordered by their components.

The file name of a path is its last component that says something, if it
is a name. Behind the last dot of a file name is its extension; a name
whose only dot leads it has none.
-/
import PluginRpc.Text.Outline

namespace PluginRpc

/-- A path, as it is written. -/
structure Path where
  text : String
deriving DecidableEq, Repr

namespace Path

-- ============================================================ segments

/-- What stands between slashes. -/
abbrev Segment := List Char

/-- The segments of a text; there is one more than there are slashes. -/
def split : List Char → List Segment
  | [] => [[]]
  | c :: rest =>
      if c = '/' then [] :: split rest
      else
        match split rest with
        | [] => [[c]]
        | segment :: others => (c :: segment) :: others

/-- Segments with slashes between them. -/
def join : List Segment → List Char
  | [] => []
  | [segment] => segment
  | segment :: next :: rest => segment ++ '/' :: join (next :: rest)

theorem split_ne_nil (text : List Char) : split text ≠ [] := by
  cases text with
  | nil => simp [split]
  | cons c rest =>
    by_cases h : c = '/'
    · simp [split, h]
    · rw [split, if_neg h]
      split <;> simp

/-- Joining undoes splitting. -/
theorem join_split (text : List Char) : join (split text) = text := by
  induction text with
  | nil => rfl
  | cons c rest ih =>
    cases hs : split rest with
    | nil => exact absurd hs (split_ne_nil rest)
    | cons segment others =>
      rw [hs] at ih
      by_cases h : c = '/'
      · rw [split, if_pos h, hs, join, List.nil_append, ih, h]
      · rw [split, if_neg h, hs]
        cases others with
        | nil => exact congrArg (c :: ·) ih
        | cons next more => exact congrArg (c :: ·) ih

/-- The segment that says "here". -/
def here : Segment := ['.']

/-- The segment that leads upwards. -/
def up : Segment := ['.', '.']

/-- Whether a segment says nothing where it stands behind another one. -/
def isIdle (s : Segment) : Bool := s == [] || s == here

variable (p : Path)

def segments : List Segment := split p.text.toList

/-- The segments from the last one that says something, backwards. -/
def backwards : List Segment := p.segments.reverse.dropWhile isIdle

-- ========================================================== components

/-- What a segment says. -/
inductive Component where
  | root
  | current
  | parent
  | name (text : String)
deriving DecidableEq, Repr

namespace Component

/-- What a segment says behind another one. -/
def ofSegment? (s : Segment) : Option Component :=
  if isIdle s then none
  else if s = up then some parent
  else some (name (String.ofList s))

/-- The kinds of components in their order. -/
def rank : Component → Nat
  | root => 0
  | current => 1
  | parent => 2
  | name _ => 3

/-- By kind, and names by their text. -/
def order : Component → Component → Ordering
  | name a, name b => compare a b
  | a, b => compare a.rank b.rank

end Component

/-- The components of a path. -/
def components : List Component :=
  match p.segments with
  | [] => []
  | [[]] => []
  | first :: rest =>
      let later := rest.filterMap Component.ofSegment?
      if first = [] then .root :: later
      else if first = here then .current :: later
      else (Component.ofSegment? first).toList ++ later

/-- Whether two paths say the same. -/
def same (q : Path) : Bool := p.components == q.components

/-- Components are compared one by one; the shorter path comes first. -/
def orderComponents : List Component → List Component → Ordering
  | [], [] => .eq
  | [], _ :: _ => .lt
  | _ :: _, [] => .gt
  | a :: as, b :: bs => (a.order b).then (orderComponents as bs)

def order (q : Path) : Ordering := orderComponents p.components q.components

-- ========================================================== file names

/-- A file name as its stem and its extension. -/
def splitName (name : Segment) : Segment × Option Segment :=
  match name.reverse.dropWhile (· != '.') with
  | [] => (name, none)
  | [_] => (name, none)
  | _ :: stem =>
      (stem.reverse, some (name.reverse.takeWhile (· != '.')).reverse)

/-- The file name. -/
def fileName? : Option Segment :=
  match p.backwards with
  | [] => none
  | last :: _ => if last = up then none else some last

/-- The extension of the file name. -/
def extension? : Option Segment := p.fileName?.bind fun name => (splitName name).2

/-- The path with a new extension behind the stem of its file name; what
stood behind the file name is dropped. Without a file name the path stays
as it is. -/
def setExtension (extension : Segment) : Path :=
  match p.backwards with
  | [] => p
  | last :: before =>
      if last = up then p
      else
        let behind := if extension.isEmpty then [] else '.' :: extension
        ⟨String.ofList
          (join (before.reverse ++ [(splitName last).1 ++ behind]))⟩

/-- The path without as many characters at its end as its extension
has. -/
def cutExtension : Path :=
  match p.extension? with
  | none => p
  | some old =>
      ⟨String.ofList (p.text.toList.take (p.text.toList.length - old.length))⟩

/-- The path with another extension, or with one: the old extension is
cut off, and the new one is set on what is left. An extension is no
extension if there is a slash in it. -/
def withExtension? (extension : String) : Option Path :=
  if extension.toList.contains '/' then none
  else some (p.cutExtension.setExtension extension.toList)

-- ========================================================= directories

/-- An entry of a directory. -/
def child (name : String) : Path :=
  if p.text.isEmpty then ⟨name⟩
  else if p.text.toList.getLast? = some '/' then ⟨p.text ++ name⟩
  else ⟨p.text ++ "/" ++ name⟩

/-- What is shown of a path. -/
def outline : Outline := .quoted p.text

end Path

end PluginRpc
