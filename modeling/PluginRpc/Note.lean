/-
What the parties of a call report about themselves.

Handlers, responders and plugin entries may note what they are doing. The
notes of a run, in order, show which of them ran, what they were given
and in what order things happened; nothing a program does can depend on
them.
-/

namespace PluginRpc

/-- One report. -/
inductive Note where
  /-- The handler of a function began. -/
  | handler (function : String)
  /-- A handler took up a row with so many slots. -/
  | row (remaining : Nat)
  /-- A handler pushed a record, and whether the stream took it. -/
  | pushed (accepted : Bool)
  /-- A handler cancelled its call, and whether it was the first to. -/
  | cancel (first : Bool)
  /-- A responder took up one request of a method. -/
  | each (method text : String)
  /-- A responder was handed all requests of a method. -/
  | requests (method : String) (texts : List String)
  /-- A channel that supports nothing else made a unary call. -/
  | unaryOnly (method text : String)
  /-- A responder was told that no more replies are wanted. -/
  | unwanted
  /-- The schema entry of a plugin was called. -/
  | schemaEntry (plugin : Nat)
  /-- The factory entry of a plugin was called with a hint. -/
  | factoryEntry (hint : Option String)
deriving DecidableEq, Repr

end PluginRpc
