import DeviceTree.Main
import DeviceTree.Proofs.Transparency
import DeviceTree.Proofs.Location
import DeviceTree.Proofs.Epoch
import DeviceTree.Proofs.Order
import DeviceTree.Proofs.FoldedStore
import DeviceTree.Proofs.FoldedTree
import DeviceTree.Proofs.FoldedManifest
import DeviceTree.Proofs.CaseBlind
import DeviceTree.Proofs.Batch
import DeviceTree.Proofs.Delivery
import DeviceTree.Proofs.Anchored
import DeviceTree.Proofs.Pairing
import DeviceTree.Proofs.Alias
import DeviceTree.Proofs.Places
import DeviceTree.Proofs.Spent
import DeviceTree.Proofs.Building
import DeviceTree.Proofs.Planted
import DeviceTree.Proofs.Tally
import DeviceTree.Proofs.Declared
import DeviceTree.Proofs.Spelled
import DeviceTree.Proofs.Admission
import DeviceTree.Proofs.Course
import DeviceTree.Proofs.Discipline
import DeviceTree.Proofs.Roster
import DeviceTree.Proofs.Totals
import DeviceTree.Proofs.Balance
import DeviceTree.Proofs.Conservation
import DeviceTree.Proofs.Return
import DeviceTree.Proofs.Clearing
import DeviceTree.Proofs.Composite
import DeviceTree.Proofs.Unlinking
import DeviceTree.Proofs.Caching
import DeviceTree.Proofs.Keys
import DeviceTree.Proofs.Preorder
import DeviceTree.Proofs.Printing
import DeviceTree.Proofs.Descendants
import DeviceTree.Proofs.Bubbling
