import DiskPrep.Host.Faults
import DiskPrep.Host.Scripted
import DiskPrep.Main
import DiskPrep.Notice
import DiskPrep.Proofs.Session.PartitionTrace
import DiskPrep.Proofs.Session.Refusals
import DiskPrep.Proofs.Report.DeviceReport
import DiskPrep.Proofs.Session.Listing
import DiskPrep.Proofs.Session.Waiver
import DiskPrep.Proofs.Session.WrittenDisks
import DiskPrep.Proofs.Session.ReleasedMounts
import DiskPrep.Proofs.Run.Relational
import DiskPrep.Proofs.Session.Lookup
import DiskPrep.Proofs.Session.Spelling
import DiskPrep.Proofs.Session.Labelling
import DiskPrep.Proofs.Session.FirstFailure
import DiskPrep.Proofs.Session.DryRun
import DiskPrep.Proofs.Session.Rehearsal
import DiskPrep.Proofs.Session.Offer
import DiskPrep.Proofs.Session.PartitionListing
import DiskPrep.Proofs.Report.MountRoundTrip
import DiskPrep.Proofs.Disk.Share
import DiskPrep.Proofs.Disk.Boundaries
import DiskPrep.Proofs.Session.ChosenDisk
import DiskPrep.Proofs.Session.QueryCommands
import DiskPrep.Proofs.Report.ReportGrammar
import DiskPrep.Proofs.Session.ToolRuns
import DiskPrep.Proofs.Session.DiskLines
import DiskPrep.Proofs.Report.ReleaseOrder
import DiskPrep.Proofs.Session.PartitionRelease
import DiskPrep.Proofs.Disk.Family
import DiskPrep.Proofs.Session.CompleteListing
import DiskPrep.Proofs.Run.Unmounts
import DiskPrep.Proofs.Preflight
import DiskPrep.Proofs.Settings
