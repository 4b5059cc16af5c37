import PropertyReflection.Memory.Frame
import PropertyReflection.Workspace.Containers
import PropertyReflection.Workspace.Host
import PropertyReflection.Proofs.IdentityInMemory
import PropertyReflection.Proofs.LayoutSoundness
import PropertyReflection.Proofs.MapDictionary
import PropertyReflection.Proofs.OwnedBits
import PropertyReflection.Proofs.ReportedExtents
import PropertyReflection.Proofs.Scopes
import PropertyReflection.Proofs.SeparatePlaces
import PropertyReflection.Proofs.FaithfulCopy
import PropertyReflection.Proofs.SiblingIsolation
import PropertyReflection.Proofs.PairOrder
import PropertyReflection.Proofs.MapHistory
import PropertyReflection.Proofs.LayoutRuns
import PropertyReflection.Proofs.WordEnd
import PropertyReflection.Proofs.PropertyNames
import PropertyReflection.Proofs.Ancestors
import PropertyReflection.Proofs.GuardedCalls
import PropertyReflection.Proofs.MemoryContract
import PropertyReflection.Proofs.NestedCalls
import PropertyReflection.Proofs.UnpinnedPlacement
import PropertyReflection.Proofs.PackedLayout
import PropertyReflection.Proofs.RegistryRuns
import PropertyReflection.Proofs.BridgeRuns
import PropertyReflection.Proofs.PinnedRebuild
import PropertyReflection.Proofs.PinnedOrder
import PropertyReflection.Proofs.LeafAgreement
import PropertyReflection.Proofs.DefaultValues
import PropertyReflection.Proofs.StorageHistory
import PropertyReflection.Proofs.ByteComparison
import PropertyReflection.Proofs.ArrayAsList
import PropertyReflection.Proofs.BridgeStarts
import PropertyReflection.Proofs.FieldListing
import PropertyReflection.Proofs.EntryHashes
import PropertyReflection.Proofs.CopyCapacity
import PropertyReflection.Proofs.TextHashes
