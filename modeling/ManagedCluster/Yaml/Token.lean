import ManagedCluster.Document.Basic

/-! # Tokens of YAML texts

A token is a scalar, a property of a node, or a mark of the structure. Blocks that are marked by
indentation alone have tokens for their start and end too.
-/

namespace ManagedCluster

namespace Yaml

inductive Token where
  | version (major minor : Nat)
  /-- Tags that start with the handle are short for ones that start with the bytes. -/
  | tagHandle (handle : String) (full : List UInt8)
  | documentStart
  | documentEnd
  | blockListStart
  | blockMapStart
  | blockEnd
  | flowListStart
  | flowListEnd
  | flowMapStart
  | flowMapEnd
  | blockEntry
  | flowEntry
  | key
  | value
  | alias (name : String)
  | anchor (name : String)
  | tag (handle : String) (suffix : List UInt8)
  | scalar (text : String) (style : ScalarStyle)
  deriving Repr, DecidableEq

end Yaml

end ManagedCluster
