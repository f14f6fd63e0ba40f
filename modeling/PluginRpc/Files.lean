/-
What is to be found at paths.

A loader looks at the file system and changes nothing in it. To it the
file system is a function: at a path there is nothing, or a file with a
content, or a directory with the names of its entries in whatever order
it lists them. A file may be one that cannot be read, and a directory one
that cannot be listed.
-/
import PluginRpc.Path
import PluginRpc.Text.Bytes

namespace PluginRpc

/-- What is at a path. -/
inductive Found where
  | nothing
  /-- A file, with its bytes unless it cannot be read. -/
  | file (content : Option Payload)
  | directory (names : List String)
  /-- A directory whose entries cannot be listed, and why. -/
  | unlisted (detail : String)
deriving DecidableEq, Repr

namespace Found

def isFile : Found → Bool
  | file _ => true
  | _ => false

/-- The text in a file that can be read and holds one. -/
def text? : Found → Option String
  | file content => content.bind Payload.text?
  | _ => none

end Found

/-- The file system, as it is looked at. -/
abbrev Files := Path → Found

/-- The wording of a failure that somebody else has put into words is not
known here; this stands in its place. -/
def foreignDetail : String := "<detail>"

end PluginRpc
