import RouteTable.Main
import RouteTable.Manifest.Reload
import RouteTable.Pattern.Occurrence
import RouteTable.Proofs.Manifest.Resolution
import RouteTable.Proofs.Route.Lookup
import RouteTable.Route.Report
import RouteTable.Proofs.Route.Tags
import RouteTable.Proofs.Template.Segmentation
import RouteTable.Proofs.Manifest.Environment
import RouteTable.Proofs.Manifest.Reload
import RouteTable.Proofs.Route.FirstOccurrence
import RouteTable.Proofs.Route.Table
import RouteTable.Proofs.Route.Arrangement
import RouteTable.Proofs.Route.Combination
import RouteTable.Proofs.Route.Rejection
import RouteTable.Proofs.Wildcard.Request
import RouteTable.Proofs.Wildcard.CatchAll
import RouteTable.Proofs.Route.OwnPath
import RouteTable.Proofs.Template.Bytes
import RouteTable.Proofs.Template.Fault
import RouteTable.Proofs.Wildcard.Rejection
import RouteTable.Proofs.Path.Meet
import RouteTable.Proofs.Path.Grouping
import RouteTable.Proofs.Pattern.Protection
import RouteTable.Proofs.Route.Expansion
import RouteTable.Proofs.Template.Substitution
import RouteTable.Proofs.Route.Scope
import RouteTable.Proofs.Wildcard.Identity
import RouteTable.Proofs.Wildcard.Literal
import RouteTable.Proofs.Pattern.Anchored
import RouteTable.Proofs.Manifest.Changes
import RouteTable.Proofs.Manifest.Place
import RouteTable.Proofs.Manifest.Validation
