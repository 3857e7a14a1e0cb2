import WarmStandby.Main
import WarmStandby.Proofs.BuddyLookup
import WarmStandby.Proofs.TaskCopies
import WarmStandby.Proofs.GenerationOutcomes
import WarmStandby.Proofs.BuddyDerivation
import WarmStandby.Proofs.ExpandedLayout
import WarmStandby.Sample
import WarmStandby.Wire.Serialized
import WarmStandby.Proofs.TaskOwners
import WarmStandby.Proofs.MergePushes
import WarmStandby.Proofs.MergeCollisions
import WarmStandby.Proofs.LayoutParts
import WarmStandby.Proofs.BatchMerge
import WarmStandby.Proofs.Provenance
import WarmStandby.Proofs.RepeatedExpansion
import WarmStandby.Proofs.WireRoundTrip
import WarmStandby.Proofs.NameGrammar
import WarmStandby.Proofs.TracedBuddies
import WarmStandby.Proofs.FirstOffence
import WarmStandby.Proofs.ByteOrder
import WarmStandby.Proofs.BuilderWalks
import WarmStandby.Proofs.StoredForms
import WarmStandby.Proofs.StoredExpansions
import WarmStandby.Proofs.StoredTexts
import WarmStandby.Proofs.KeyAgreement
import WarmStandby.Proofs.CollisionReports
import WarmStandby.Proofs.EventLog
import WarmStandby.Proofs.ReadBuddies
import WarmStandby.Proofs.SerializedLayouts
import WarmStandby.Proofs.ListBuilders
import WarmStandby.Proofs.RepeatedKeys
import WarmStandby.Proofs.OlderSpellings
import WarmStandby.Proofs.ContentsAndProvenance
import WarmStandby.Proofs.JobConfig
import WarmStandby.Proofs.CheckedDerivation
