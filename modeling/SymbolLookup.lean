import SymbolLookup.Main
import SymbolLookup.Manifest
import SymbolLookup.Proofs.Bundle.Drafting
import SymbolLookup.Proofs.Bundle.Equivalence
import SymbolLookup.Proofs.Console.Transcript
import SymbolLookup.Proofs.Desk.Arrival
import SymbolLookup.Proofs.Desk.Broken
import SymbolLookup.Proofs.Desk.Depot
import SymbolLookup.Proofs.Desk.Fate
import SymbolLookup.Proofs.Desk.Immediate
import SymbolLookup.Proofs.Desk.Nesting
import SymbolLookup.Proofs.Desk.Overtaking
import SymbolLookup.Proofs.Desk.Phases
import SymbolLookup.Proofs.Desk.Reference
import SymbolLookup.Proofs.Desk.Reporting
import SymbolLookup.Proofs.Desk.Retry
import SymbolLookup.Proofs.Desk.Settlement
import SymbolLookup.Proofs.Desk.Shelter
import SymbolLookup.Proofs.Desk.SingleFlight
import SymbolLookup.Proofs.Desk.Stranding
import SymbolLookup.Proofs.Manifest.Rereading
import SymbolLookup.Proofs.Query.Matching
import SymbolLookup.Proofs.Query.Pruning
import SymbolLookup.Proofs.Query.Regrouping
import SymbolLookup.Proofs.Shard.Accounting
import SymbolLookup.Proofs.Shard.Carrying
import SymbolLookup.Proofs.Shard.Detection
import SymbolLookup.Proofs.Shard.Rereading
import SymbolLookup.Proofs.Source.Scanning
import SymbolLookup.Proofs.Web.Blank
import SymbolLookup.Shard.Writer
import SymbolLookup.Web.Service
import SymbolLookup.Web.Start
