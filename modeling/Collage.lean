import Collage.Main
import Collage.Proofs.Name.Normal
import Collage.Proofs.Resolution.Freshness
import Collage.Proofs.Resolution.Calm
import Collage.Proofs.Resolution.Composition
import Collage.Proofs.Resolution.Readings
import Collage.Proofs.Resolution.Termination
import Collage.Proofs.Resolution.Cycles
import Collage.Proofs.Resolution.Replay
import Collage.Proofs.Resolution.Twins
import Collage.Proofs.Session.Transparency
import Collage.Proofs.Artifact.Definitions
import Collage.Proofs.Directive.Spelling
import Collage.Proofs.Directive.Sightings
import Collage.Proofs.Distinct
import Collage.Proofs.Resolution.Recipe
import Collage.Cache.Graph
import Collage.Proofs.Cache.Graph
import Collage.Proofs.Cache.Layout
import Collage.Proofs.Resolution.Accounting
import Collage.Proofs.Directive.Seam
import Collage.Proofs.Resolution.Strip
import Collage.Proofs.Cache.Eviction
import Collage.Proofs.Cache.Reach
import Collage.Proofs.Resolution.Travel
import Collage.Proofs.Session.History
import Collage.Proofs.Session.Dating
import Collage.Proofs.Resolution.Tower
import Collage.Proofs.Session.Spelling
import Collage.Proofs.Lowering.Invocations
import Collage.Proofs.Lowering.Parts
import Collage.Proofs.Resolution.Agreement
import Collage.Proofs.Lowering.Tags
import Collage.Proofs.Resolution.Origin
import Collage.Proofs.Resolution.Recursion
import Collage.Proofs.Name.Canonical
import Collage.Proofs.Cache.Admission
import Collage.Proofs.Directive.Finding
import Collage.Proofs.Source.Containment
import Collage.Proofs.Artifact.Order
import Collage.Proofs.Lowering.Written
import Collage.Proofs.Resolution.Root
import Collage.Proofs.Resolution.Route
import Collage.Proofs.Report
import Collage.Proofs.Json.Numeral
import Collage.Proofs.Json.Quotation
import Collage.Proofs.Json.RoundTrip
import Collage.Proofs.Json.Doubles
import Collage.Proofs.Library.Sorting
import Collage.Proofs.Library.Amounts
import Collage.Proofs.Check
import Collage.Flight.Register
import Collage.Proofs.Flight
import Collage.Workbench
import Collage.Proofs.Workbench
import Collage.Directive.Buffer
import Collage.Proofs.Directive.Bytes
import Collage.Proofs.Resolution.Buffer
