import Itineraries.Main
import Itineraries.Rebuild.Desk
import Itineraries.Rebuild.Session
import Itineraries.Timetable.Window
import Itineraries.Proofs.Coherence
import Itineraries.Proofs.Enumeration
import Itineraries.Proofs.Tickets
import Itineraries.Proofs.Freshness
import Itineraries.Proofs.Callers
import Itineraries.Proofs.Bursts
import Itineraries.Proofs.Accounts
import Itineraries.Proofs.Failures
import Itineraries.Proofs.Reordering
import Itineraries.Proofs.Removal
import Itineraries.Proofs.Refusals
import Itineraries.Proofs.Chronicle
import Itineraries.Proofs.Stages
import Itineraries.Proofs.Shutdown
import Itineraries.Proofs.Deadlines
import Itineraries.Proofs.InventoryFiles
import Itineraries.Proofs.Ranking
import Itineraries.Proofs.Connections
import Itineraries.Proofs.Names
import Itineraries.Proofs.Relaxation
import Itineraries.Proofs.Chronology
import Itineraries.Proofs.Building
import Itineraries.Proofs.Lookups
import Itineraries.Proofs.Storage
import Itineraries.Proofs.Recency
import Itineraries.Proofs.Signals
import Itineraries.Proofs.Keys
import Itineraries.Proofs.Windows
import Itineraries.Proofs.Printing
