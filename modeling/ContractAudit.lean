import ContractAudit.Audit
import ContractAudit.Catalog.Rows
import ContractAudit.CommandLine.Run
import ContractAudit.Main
import ContractAudit.Page.Visit
import ContractAudit.Regex.Outcomes
import ContractAudit.Proofs.Audit.Concatenation
import ContractAudit.Proofs.Catalog.Search
import ContractAudit.Proofs.CommandLine.ExitStatus
import ContractAudit.Proofs.Report.Faithful
import ContractAudit.Proofs.Report.RoundTrip
import ContractAudit.Proofs.Scan.Padding
import ContractAudit.Proofs.Scan.Placement
import ContractAudit.Proofs.Regex.LineEnds
import ContractAudit.Proofs.Regex.LineEndMatching
import ContractAudit.Proofs.Regex.LineEndSearch
import ContractAudit.Proofs.Scan.LineEnds
import ContractAudit.Proofs.Page.FileAudit
import ContractAudit.Proofs.CommandLine.Stages
import ContractAudit.Proofs.Fallible
import ContractAudit.Proofs.Scan.GasCategory
import ContractAudit.Proofs.CommandLine.Words
import ContractAudit.Proofs.CommandLine.Failures
import ContractAudit.Proofs.Finding.Buckets
import ContractAudit.Proofs.Report.Views
import ContractAudit.Proofs.Report.Characters
import ContractAudit.Proofs.Text.Utf8
import ContractAudit.Proofs.Audit.Origins
import ContractAudit.Proofs.Report.Saving
import ContractAudit.Proofs.Report.Unstyled
import ContractAudit.Proofs.CommandLine.SavedText
import ContractAudit.Proofs.CommandLine.Colors
import ContractAudit.Proofs.Scan.Independence
import ContractAudit.Proofs.FileTree.Reading
import ContractAudit.Proofs.Audit.Discovered
import ContractAudit.Proofs.Page.Session
import ContractAudit.Proofs.CommandLine.Listings
import ContractAudit.Proofs.CommandLine.Agreement
import ContractAudit.Proofs.Page.Labels
import ContractAudit.Proofs.Regex.Spelling
import ContractAudit.Proofs.Regex.Overlap
import ContractAudit.Proofs.Scan.Titles
import ContractAudit.Proofs.Scan.Unmasked
import ContractAudit.Proofs.Scan.ValueCalls
import ContractAudit.Proofs.Regex.Excerpt
import ContractAudit.Proofs.Scan.Excerpts
import ContractAudit.Proofs.FileTree.SourceText
import ContractAudit.Proofs.Catalog.Words
import ContractAudit.Proofs.Scan.Guards
import ContractAudit.Proofs.Scan.SourceLines
import ContractAudit.Proofs.Report.Lines
import ContractAudit.Proofs.Report.CodeBlocks
import ContractAudit.Proofs.Regex.Succession
import ContractAudit.Proofs.Scan.ZeroWrites
import ContractAudit.Proofs.Audit.Thresholds
import ContractAudit.Proofs.FileTree.Discovery
import ContractAudit.Proofs.Finding.SeverityNames
import ContractAudit.Proofs.Report.Alignment
import ContractAudit.Proofs.Catalog.Construction
import ContractAudit.Proofs.Catalog.Texts
