import CallMap.Main
import CallMap.Proofs.Segment
import CallMap.Proofs.LocalCall
import CallMap.Proofs.Contribution
import CallMap.Proofs.Writer
import CallMap.Proofs.Drawing
import CallMap.Proofs.Store
import CallMap.Proofs.Assembly
import CallMap.Proofs.Dangling
import CallMap.Proofs.Pass
import CallMap.Proofs.Provenance
import CallMap.Proofs.Framing
import CallMap.Proofs.Offence
import CallMap.Proofs.Rearrangement
import CallMap.Proofs.Boundary
import CallMap.Proofs.Library
import CallMap.Proofs.TableLinks
import CallMap.Proofs.Exhaustion
import CallMap.Proofs.Neighbours
import CallMap.Proofs.Enumeration
import CallMap.Proofs.FailedRun
import CallMap.Proofs.SmallLetters
import CallMap.Proofs.LineTokens
import CallMap.Proofs.NameResolution
import CallMap.Proofs.Scanning
import CallMap.Proofs.ReadBack
import CallMap.Proofs.MissingFlags
import CallMap.Proofs.SchemaShape
import CallMap.Proofs.MaximalMunch
import CallMap.Proofs.Extraction
import CallMap.Proofs.CallTarget
import CallMap.Proofs.LineLocality
import CallMap.Proofs.LinkRound
import CallMap.Proofs.SchemaEntry
import CallMap.Proofs.UsageHistory
import CallMap.Proofs.Orphans
import CallMap.Proofs.ExportFiles
import CallMap.Proofs.IdleLines
import CallMap.Proofs.MissingCalls
import CallMap.Proofs.Identifiers
import CallMap.Proofs.PassOrder
import CallMap.Proofs.Replay
import CallMap.Proofs.SmallTokens
import CallMap.Proofs.SmallRecords
import CallMap.Proofs.LetterCase
