/-
Options: how a tree is set up.
-/
import DeviceTree.AddressCache
import DeviceTree.Duration

namespace DeviceTree

/-- How a tree is set up. -/
structure Options where
  /-- The name of the root, which stands for a leading slash in addresses. -/
  rootIdentifier : String
  /-- How long an attempt to take the lock waits. -/
  lockTimeout : Duration
  cacheEnabled : Bool
  /-- How many resolutions are remembered at most. -/
  cacheCapacity : Nat
  /-- Whether the tree keeps counters. -/
  counting : Bool
  /-- Which resolution makes room for another. -/
  eviction : Eviction

/-- The options of a tree about which nothing was said. -/
def Options.standard : Options :=
  { rootIdentifier := "device"
    lockTimeout := .ofParts 10 0
    cacheEnabled := true
    cacheCapacity := 4096
    counting := false
    eviction := .oldest }

end DeviceTree
