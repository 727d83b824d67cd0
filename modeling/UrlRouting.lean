import UrlRouting.Main
import UrlRouting.Proofs.Namespace.LocalPath
import UrlRouting.Proofs.Namespace.Outcome
import UrlRouting.Proofs.Namespace.Required
import UrlRouting.Proofs.Namespace.RoundTrip
import UrlRouting.Proofs.Namespace.Static
import UrlRouting.Proofs.Namespace.Suffix
import UrlRouting.Proofs.Percent.Restore
import UrlRouting.Proofs.Route.Separated
import UrlRouting.Proofs.Route.Validated
import UrlRouting.Proofs.RouteFile.Apply
import UrlRouting.Proofs.RouteFile.Json
