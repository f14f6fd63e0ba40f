/-
Custody: which modules are open, and for whom.

What comes from a module may only be used while the module is open. So
everything that comes from it holds a share of it, and the module is
closed when the last share is given up: the loader's handle has one, the
plugin has one, its client factory has one, and each client has one.
Plugins and factories may be copied; all copies of one have a single
share between them, which is given up with the last copy. A plugin has a
copy of its factory in it.

For each module that was ever opened `Custody` keeps these counts. No
count is derived from another: they change only as copies are made and
given up.
-/
import PluginRpc.Path

namespace PluginRpc

/-- A module that was opened, by its number. -/
abbrev ModuleId := Nat

/-- The counts of one opened module. -/
structure Shares where
  /-- How many objects hold the module open. -/
  holders : Nat
  /-- How many copies there are of its plugin. -/
  plugins : Nat
  /-- How many copies there are of its client factory, the plugin's own
  among them. -/
  factories : Nat
deriving DecidableEq, Repr

namespace Shares

/-- A module that has just been opened, with the loader's handle. -/
def opened : Shares := ⟨1, 0, 0⟩

variable (s : Shares)

def isOpen : Bool := 0 < s.holders

/-- One more object holds the module. -/
def hold : Shares := { s with holders := s.holders + 1 }

/-- One object fewer holds the module. -/
def release : Shares := { s with holders := s.holders - 1 }

-- ============================================================= factories

/-- The factory is made. -/
def makeFactory : Shares := { s.hold with factories := 1 }

def copyFactory : Shares := { s with factories := s.factories + 1 }

/-- A copy of the factory is given up, and with the last one its
share. -/
def dropFactory : Shares :=
  let left := { s with factories := s.factories - 1 }
  if left.factories = 0 then left.release else left

-- =============================================================== plugins

/-- The plugin is made. -/
def makePlugin : Shares := { s.hold with plugins := 1 }

def copyPlugin : Shares := { s with plugins := s.plugins + 1 }

/-- A copy of the plugin is given up, and with the last one its share and
its copy of the factory, if it has one. -/
def dropPlugin (hasFactory : Bool) : Shares :=
  let left := { s with plugins := s.plugins - 1 }
  if left.plugins = 0 then
    (if hasFactory then left.dropFactory else left).release
  else left

end Shares

/-- All modules that were ever opened, by their number. -/
structure Custody where
  modules : List Shares
deriving DecidableEq, Repr

namespace Custody

def empty : Custody := ⟨[]⟩

variable (c : Custody)

/-- A module is opened. -/
def openModule : ModuleId × Custody := (c.modules.length, ⟨c.modules ++ [.opened]⟩)

/-- The counts of one module change. -/
def change (id : ModuleId) (f : Shares → Shares) : Custody :=
  ⟨c.modules.modify id f⟩

/-- How many objects hold a module. -/
def holders (id : ModuleId) : Nat :=
  match c.modules[id]? with
  | some s => s.holders
  | none => 0

/-- How many modules are open. -/
def live : Nat := c.modules.countP Shares.isOpen

end Custody

end PluginRpc
