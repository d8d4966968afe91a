import FarmRegistry.Geometry.Square
import FarmRegistry.Main
import FarmRegistry.Proofs.Cadastre.Refinement
import FarmRegistry.Proofs.Farm.Pairs
import FarmRegistry.Proofs.Geometry.Numbering
import FarmRegistry.Proofs.Geometry.Winding
import FarmRegistry.Proofs.Service.Backoff
import FarmRegistry.Proofs.Service.Budget
import FarmRegistry.Proofs.Service.Chronicle
import FarmRegistry.Proofs.Service.Commitment
import FarmRegistry.Proofs.Service.Conflicts
import FarmRegistry.Proofs.Service.Healing
import FarmRegistry.Proofs.Service.Independence
import FarmRegistry.Proofs.Service.Neighbours
import FarmRegistry.Proofs.Service.NoTrace
import FarmRegistry.Proofs.Service.Sequential
import FarmRegistry.Proofs.Service.Wording
import FarmRegistry.Proofs.Sql.Agreement
import FarmRegistry.Proofs.Sql.Farmers
import FarmRegistry.Proofs.Sql.Reconciliation
import FarmRegistry.Proofs.Store.Poison
import FarmRegistry.Proofs.Store.Snapshots
import FarmRegistry.Proofs.Totals.Differences
import FarmRegistry.Proofs.Totals.Reordering
import FarmRegistry.Proofs.Totals.Sequences
import FarmRegistry.Proofs.Wire.Envelopes
import FarmRegistry.Proofs.Wire.Requests
import FarmRegistry.Store.Rehearsal
import FarmRegistry.Wire.Journal
import FarmRegistry.Wire.Settings
