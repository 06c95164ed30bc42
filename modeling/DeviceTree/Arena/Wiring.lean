/-
Wiring: making and unmaking one edge in the arena.

Both halves of an edge are put in or taken out together.  Nothing is checked here; the caller has
made sure that the edge may be made, or that it is there.

* **`attach`**, **`detach`** -- child edges, which also set the parent and the addresses below;
* **`link`**, **`unlink`** -- links, which leave parents and addresses alone.
-/
import DeviceTree.Address
import DeviceTree.Arena

namespace DeviceTree.Arena

/-- Gives the node at a place another address. -/
def setAddress (a : Arena) (id : NodeId) (address : String) : Arena :=
  a.modify id fun n => { n with address }

/-- Gives every node below a node its address, where `children` are the children of that node and
`base` is its address; `levels` bounds how deep the nodes lie below it. -/
def rebaseBelow : (levels : Nat) → (children : List NodeId) → (base : String) → Arena → Arena
  | 0, _, _, a => a
  | levels + 1, children, base, a =>
    children.foldr
      (fun child a =>
        match a.get? child with
        | none => a
        | some node =>
          let address := Address.join base node.identifier.text
          rebaseBelow levels node.childIds address (a.setAddress child address))
      a

/-- Gives every node below a node its address.  No path of child edges is longer than the arena
unless it runs in a circle. -/
def rebase (a : Arena) (children : List NodeId) (base : String) : Arena :=
  rebaseBelow a.slots.size children base a

/-- Makes `child` a child of `parent`, known there as `name`. -/
def attach (a : Arena) (parent child : NodeId) (name : Identifier) : Arena :=
  match a.get? parent, a.get? child with
  | some above, some below =>
    let (forward, inverse) := Reference.halves name parent child .child
    let address := Address.join above.address below.identifier.text
    let a := a.modify child fun n => { n.pushInverse inverse with parent := some parent, address }
    let a := a.rebase below.childIds address
    a.modify parent fun n => n.pushForward forward
  | _, _ => a

/-- Takes `child` from its parent.  Its address and those below it become stale. -/
def detach (a : Arena) (parent child : NodeId) : Arena :=
  let a := a.modify child fun n => { n.eraseInverse parent .child with parent := none }
  a.modify parent fun n => n.eraseForward child .child

/-- Makes a link from `source` to `target`, known there as `name`. -/
def link (a : Arena) (source target : NodeId) (name : Identifier) : Arena :=
  let (forward, inverse) := Reference.halves name source target .link
  let a := a.modify target fun n => n.pushInverse inverse
  a.modify source fun n => n.pushForward forward

/-- Unmakes the link from `source` to `target`. -/
def unlink (a : Arena) (source target : NodeId) : Arena :=
  let a := a.modify target fun n => n.eraseInverse source .link
  a.modify source fun n => n.eraseForward target .link

end DeviceTree.Arena
