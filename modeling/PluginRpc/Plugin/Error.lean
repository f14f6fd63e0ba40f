/-
Stamps of builds, the entries of a module, and why a module was not
loaded.

A module and its host are built apart. Each result of a module's entries
begins with the stamp of the build that made it, and is looked at no
further unless the stamp is the host's own. The error of a module names
the module and the cause; a cause may be told without knowing the module.
-/
import PluginRpc.Config

namespace PluginRpc

-- ================================================================ stamps

/-- Which build made something. -/
structure AbiStamp where
  /-- The version of the binary interface. -/
  abi : UInt32
  /-- The version of the library. -/
  core : String
deriving DecidableEq, Repr

namespace AbiStamp

/-- The stamp of this build. -/
def current : AbiStamp := ⟨1, "0.1.0"⟩

def outline (s : AbiStamp) : Outline :=
  .record "AbiStamp"
    [("abi_version", .ofNat s.abi.toNat), ("core_version", .quoted s.core)]

end AbiStamp

-- =============================================================== entries

/-- The entries that a module may have. -/
inductive EntryPoint where
  | schema
  | clientFactory
deriving DecidableEq, Repr

/-- The name under which a module exports an entry. -/
def EntryPoint.symbol : EntryPoint → String
  | schema => "spark_udf_create_plugin_api"
  | clientFactory => "spark_udf_create_generic_client_factory"

-- ================================================================ errors

/-- What could not be opened, and why, in the words of whoever tried. -/
inductive Unopened where
  /-- A module. -/
  | file (detail : String)
  /-- A directory, to list its entries. -/
  | directory (detail : String)
deriving DecidableEq, Repr

/-- Why something was not loaded. -/
inductive LoadCause where
  /-- There is neither a file nor a directory. -/
  | invalidPath
  /-- What is there cannot be opened. -/
  | unopened (what : Unopened)
  | missingEntry (entry : EntryPoint)
  /-- The entry returned nothing: what it was to make failed. -/
  | nullEntry (entry : EntryPoint)
  /-- Another build made the entry's result. -/
  | foreignBuild (found : AbiStamp)
  | settings (e : ConfigError)
deriving DecidableEq, Repr

/-- Why the module or the directory at a path was not loaded. -/
structure LoadError where
  path : Path
  cause : LoadCause
deriving DecidableEq, Repr

namespace LoadError

/-- The error as it is shown. -/
def message (e : LoadError) : String :=
  let path := "`" ++ e.path.text ++ "`"
  match e.cause with
  | .invalidPath =>
      "plugin path " ++ path ++ " is neither a module file nor a directory"
  | .unopened (.file detail) =>
      "failed to open module " ++ path ++ ": " ++ detail
  | .unopened (.directory detail) =>
      "cannot scan plugin directory " ++ path ++ ": " ++ detail
  | .missingEntry entry =>
      "module " ++ path ++ " does not export `" ++ entry.symbol ++ "`"
  | .nullEntry entry =>
      "entry `" ++ entry.symbol ++ "` of module " ++ path ++ " returned null"
  | .foreignBuild found =>
      "module " ++ path ++ " was built against " ++ build found
        ++ ", host expects " ++ build .current
  | .settings cause =>
      "settings for module " ++ path ++ " are invalid: " ++ cause.message
where
  /-- A stamp within a message. -/
  build (s : AbiStamp) : String :=
    "abi " ++ toString s.abi.toNat ++ " / spark-udf " ++ s.core

end LoadError

/-- Only what the host's own build has made is taken from a module. -/
def AbiStamp.verify (s : AbiStamp) (path : Path) : Except LoadError Unit :=
  if s = current then .ok () else .error ⟨path, .foreignBuild s⟩

end PluginRpc
