import PackageAssay.Files.Listing
import PackageAssay.Main
import PackageAssay.ManagerConfiguration
import PackageAssay.Proofs.PackageRules
import PackageAssay.Proofs.RecordCodec
import PackageAssay.Proofs.Rewriting
import PackageAssay.Proofs.RuleGrammar
import PackageAssay.Proofs.SyncCodec
import PackageAssay.Proofs.ArchivePaths
import PackageAssay.Proofs.WrittenFiles
import PackageAssay.Proofs.PackageInfoLines
import PackageAssay.Proofs.PackageArchives
import PackageAssay.Proofs.FileHistory
import PackageAssay.Proofs.EntryStates
import PackageAssay.Proofs.ChangeDetection
import PackageAssay.Proofs.SavedBaselines
import PackageAssay.Proofs.TimelessRules
import PackageAssay.Proofs.CheckReports
import PackageAssay.Proofs.OtherPackages
import PackageAssay.Proofs.ByteOrder
import PackageAssay.Proofs.ManifestExpansion
import PackageAssay.Proofs.GatheredEntries
import PackageAssay.Proofs.WrittenEntries
import PackageAssay.Proofs.MirroredDirectories
import PackageAssay.Proofs.PublishedArchives
import PackageAssay.Proofs.RewrittenManifests
import PackageAssay.Proofs.JoinedFiles
import PackageAssay.Proofs.DescFailures
import PackageAssay.Proofs.PackageInfoCodec
import PackageAssay.Proofs.LossyText
import PackageAssay.Proofs.PackageInfoValues
import PackageAssay.Proofs.LogSearch
import PackageAssay.Proofs.NegatedRules
import PackageAssay.Proofs.ListedPackages
import PackageAssay.Proofs.FixtureContents
import PackageAssay.Proofs.ReferenceHistories
import PackageAssay.Proofs.TrackedFiles
