import Tablekeep.Main
import Tablekeep.Server.Memory
import Tablekeep.Proofs.Backup.Constants
import Tablekeep.Proofs.Backup.Dates
import Tablekeep.Proofs.Backup.Guards
import Tablekeep.Proofs.Backup.Insertion
import Tablekeep.Proofs.Backup.Presentation
import Tablekeep.Proofs.Backup.Respelled
import Tablekeep.Proofs.Backup.RoundTrip
import Tablekeep.Proofs.Backup.Shape
import Tablekeep.Proofs.Backup.WellFormed
import Tablekeep.Proofs.Backup.Wrapper
import Tablekeep.Proofs.Check.Columns
import Tablekeep.Proofs.Check.Difference
import Tablekeep.Proofs.Check.Kinds
import Tablekeep.Proofs.Command.Connections
import Tablekeep.Proofs.Command.Destination
import Tablekeep.Proofs.Command.Guarded
import Tablekeep.Proofs.Command.Unscripted
import Tablekeep.Proofs.Definition.Reachable
import Tablekeep.Proofs.Definition.Refused
import Tablekeep.Proofs.Definition.Written
import Tablekeep.Proofs.Digest.Canonical
import Tablekeep.Proofs.Digest.Restoration
import Tablekeep.Proofs.Repository.Newest
import Tablekeep.Proofs.Repository.Recovery
import Tablekeep.Proofs.Repository.Selections
import Tablekeep.Proofs.Script.Determined
import Tablekeep.Proofs.Script.Layout
import Tablekeep.Proofs.Server.Waiting
