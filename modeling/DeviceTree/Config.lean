/-
Configuration files: settings of the tree and of the log.

Every setting has a default.  The settings are checked in a fixed order: the root, the timeout of
the lock, the room in the cache.
-/
import DeviceTree.File
import DeviceTree.Options
import DeviceTree.Toml

namespace DeviceTree

/-- Settings of the tree. -/
structure TreeSettings where
  root : String
  lockTimeoutMillis : Nat
  cacheEnabled : Bool
  cacheCapacity : Nat
  deriving DecidableEq, Repr

/-- What a configuration file says. -/
structure Config where
  tree : TreeSettings
  /-- The filter of the log. -/
  logLevel : String
  deriving DecidableEq, Repr

namespace Config

open Toml

/-- The settings of a file that says nothing. -/
def standard : Config :=
  { tree := ⟨"device", 10000, true, 4096⟩, logLevel := "info" }

/-- Reads a setting of the tree. -/
def readTree (t : TreeSettings) (key : String) (v : Value) : Except Fault TreeSettings :=
  match key with
  | "root" => return { t with root := ← v.text }
  | "lock_timeout_ms" => return { t with lockTimeoutMillis := ← v.natural }
  | "cache_enabled" => return { t with cacheEnabled := ← v.boolean }
  | "cache_capacity" => return { t with cacheCapacity := ← v.natural }
  | _ => return t

/-- Reads a setting of the log. -/
def readLogging (level : String) (key : String) (v : Value) : Except Fault String :=
  match key with
  | "level" => v.text
  | _ => return level

/-- Reads a field of the whole document. -/
def read (c : Config) (key : String) (v : Value) : Except Fault Config :=
  match key with
  | "tree" =>
    let order := ["root", "lock_timeout_ms", "cache_enabled", "cache_capacity"]
    return { c with tree := ← v.record order readTree standard.tree }
  | "logging" =>
    return { c with logLevel := ← v.record ["level"] readLogging standard.logLevel }
  | _ => return c

/-- The settings that a value describes. -/
def ofValue (v : Value) : Except Fault Config :=
  v.record ["tree", "logging"] read standard

/-- Checks that a tree can be set up like this. -/
def validate (c : Config) : Except Error Config :=
  if !isIdentifier c.tree.root then .error (.badRoot c.tree.root)
  else if c.tree.lockTimeoutMillis = 0 then .error .zeroTimeout
  else if c.tree.cacheEnabled && c.tree.cacheCapacity = 0 then .error .zeroCapacity
  else .ok c

/-- The settings in a file. -/
def ofFile (file : File) : Except Error Config := do
  let text ← file.text
  match Toml.decode ofValue text with
  | .ok config => config.validate
  | .error defect => .error (.malformed file.name defect)

/-- The settings in a file, or the standard ones if there is no file. -/
def load (file : File) : Except Error Config :=
  if file.contents.isThere then ofFile file else .ok standard

/-- The options of a tree that is set up like this. -/
def options (c : Config) : Options :=
  { Options.standard with
    rootIdentifier := c.tree.root
    lockTimeout := .ofMillis c.tree.lockTimeoutMillis
    cacheEnabled := c.tree.cacheEnabled
    cacheCapacity := c.tree.cacheCapacity }

end Config

end DeviceTree
