import PathRouting.Cache
import PathRouting.Main
import PathRouting.Proofs.Regex.Search
import PathRouting.Proofs.Unicode.CaseVariants
import PathRouting.Proofs.Regex.Code
import PathRouting.Proofs.Regex.Preference
import PathRouting.Proofs.Regex.Matching
import PathRouting.Proofs.Regex.Reading
import PathRouting.Proofs.Regex.Progress
import PathRouting.Proofs.Segment.Expression
import PathRouting.Proofs.Segment.Borders
import PathRouting.Proofs.Segment.Escaping
import PathRouting.Proofs.Template.Names
import PathRouting.Proofs.Text.Splitting
import PathRouting.Proofs.Route.Building
import PathRouting.Proofs.Segment.Cut
import PathRouting.Proofs.Segment.CutEnds
import PathRouting.Proofs.Dict
import PathRouting.Proofs.Segment.Values
import PathRouting.Proofs.Route.Match
import PathRouting.Proofs.Template.Components
import PathRouting.Proofs.Route.Outline
import PathRouting.Proofs.Segment.Components
import PathRouting.Proofs.Segment.FirstCut
import PathRouting.Proofs.Segment.Counting
import PathRouting.Proofs.Route.Components
import PathRouting.Proofs.Regex.Renumbering
import PathRouting.Proofs.Regex.Locality
import PathRouting.Proofs.Regex.LocalClasses
import PathRouting.Proofs.Regex.LocalParts
import PathRouting.Proofs.Template.Grammar
import PathRouting.Proofs.Text.Percent
import PathRouting.Proofs.Template.Substitution
import PathRouting.Proofs.Segment.Filling
import PathRouting.Proofs.Regex.Inside
import PathRouting.Proofs.Regex.Numbering
import PathRouting.Proofs.Regex.Enclosing
import PathRouting.Proofs.Regex.Alike
import PathRouting.Proofs.Regex.AlikeReadings
import PathRouting.Proofs.Segment.Constrained
import PathRouting.Proofs.Segment.Runs
import PathRouting.Proofs.Route.Constraints
import PathRouting.Proofs.Segment.Acceptance
import PathRouting.Proofs.Route.Acceptance
import PathRouting.Proofs.Route.Substitution
import PathRouting.Proofs.Route.Groups
import PathRouting.Proofs.Route.Borders
import PathRouting.Cache.Call
import PathRouting.Proofs.RouteTable.Precedence
import PathRouting.Proofs.Cache.Entries
import PathRouting.Proofs.Cache.EagerExpiry
import PathRouting.Cache.Section
import PathRouting.Proofs.Cache.Sections
import PathRouting.Proofs.Regex.Avoiding
import PathRouting.Proofs.Segment.Separated
import PathRouting.Proofs.Route.Loosening
import PathRouting.Proofs.Route.QueryValues
import PathRouting.Proofs.Route.Widening
import PathRouting.Proofs.Route.Faults
import PathRouting.Proofs.Template.OuterSlashes
import PathRouting.Proofs.Route.Defaults
import PathRouting.Run
import PathRouting.RouteTable.Call
import PathRouting.Proofs.Run
import PathRouting.Proofs.RouteTable.Registration
import PathRouting.Proofs.RouteTable.Matches
import PathRouting.Proofs.RouteTable.Relevance
import PathRouting.Proofs.Text.Query
import PathRouting.Proofs.Template.Rows
import PathRouting.Proofs.Route.Rows
import PathRouting.Proofs.RouteTable.MovedValues
import PathRouting.Service.Run
import PathRouting.Proofs.Service.History
import PathRouting.Proofs.Cache.Regions
import PathRouting.Proofs.Route.OwnPath
import PathRouting.Proofs.RouteTable.LiveRoutes
import PathRouting.Proofs.Text.LetterCase
import PathRouting.Proofs.Segment.LetterCase
import PathRouting.Proofs.RouteTable.LetterCase
import PathRouting.Proofs.Json.Scanning
import PathRouting.Proofs.Settings.Reading
import PathRouting.Proofs.Service.Reimport
import PathRouting.Proofs.Cache.Clearing
import PathRouting.Proofs.Segment.Unescaping
import PathRouting.Proofs.Template.Offences
import PathRouting.Proofs.Route.LastComponent
import PathRouting.Proofs.RoutesFile
import PathRouting.Proofs.Template.EscapedText
import PathRouting.Proofs.RouteTable.OuterSlashes
import PathRouting.Proofs.Settings.FrontEnds
