/-
Questions to a store.  They change nothing, and need no lock.
-/
import DeviceTree.Arena.Search
import DeviceTree.Op
import DeviceTree.Store.Resolve

namespace DeviceTree.Store

/-- What the store tells about itself. -/
def info (s : Store) : TreeInfo :=
  { root := .root
    rootIdentifier := s.rootIdentifier
    size := s.arena.size
    cached := s.cache.entries.length
    cacheCapacity := s.cache.capacity
    cacheEnabled := s.cache.enabled }

/-- Something about a node that has to be there. -/
def about (s : Store) (id : NodeId) (f : Node → Answer) : Except Error Answer :=
  (s.arena.fetch id).map f

/-- The answer to a question. -/
def ask (s : Store) : Query → Except Error Answer
  | .child node identifier => .ok (.maybeNode (s.arena.childNamed node identifier))
  | .node id => .ok (.maybeSnapshot ((s.arena.get? id).map (Snapshot.mk id)))
  | .address node => s.about node fun n => .text n.address
  | .identifier node => s.about node fun n => .name n.identifier
  | .kind node => s.about node fun n => .kind n.kind
  | .parent node => s.about node fun n => .maybeNode n.parent
  | .attachment node => s.about node fun n => .maybeText n.attachment
  | .forward node => s.about node fun n => .references n.forward
  | .inverse node => s.about node fun n => .references n.inverse
  | .children node => s.about node fun n => .references n.children
  | .links node => s.about node fun n => .references n.links
  | .descendants node => s.about node fun _ => .nodes (s.arena.descendants node)
  | .contains node => .ok (.truth (s.arena.contains node))
  | .observerCount node =>
    .ok (.count ((s.arena.get? node).elim 0 fun n => n.observers.length))
  | .info => .ok (.info s.info)
  | .dump => .ok (.dump s.rootIdentifier s.arena.snapshots)
  | .counters => .ok (.counters s.counters)

/-- Checks the whole arena, while no writer is in. -/
def verify (s : Store) : Except Error Verdict × Store :=
  match s.lock.admitReader with
  | .error e => (.error e, s.count .refused)
  | .ok _ => (.ok (s.arena.verdict s.rootIdentifier), s)

end DeviceTree.Store
