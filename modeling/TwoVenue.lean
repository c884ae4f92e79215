import TwoVenue.Main
import TwoVenue.Market.Curve
import TwoVenue.Proofs.Engine.Restraint
import TwoVenue.Proofs.Trade.Commitments
import TwoVenue.Proofs.Engine.Bookkeeping
import TwoVenue.Proofs.Engine.LifeCycle
import TwoVenue.Proofs.Trade.Ledger
import TwoVenue.Proofs.Engine.Outage
import TwoVenue.Proofs.Engine.Freshness
import TwoVenue.Proofs.Market.BooksText
import TwoVenue.Proofs.CommandLine.Completion
import TwoVenue.Proofs.Market.Greedy
import TwoVenue.Proofs.Settings.Variables
import TwoVenue.Proofs.Settings.Lines
import TwoVenue.Proofs.Binary64.Rounding
import TwoVenue.Proofs.Binary64.Shortest
import TwoVenue.Proofs.Json.Numbers
import TwoVenue.Proofs.Market.BooksNumbers
import TwoVenue.Proofs.Market.Impact
import TwoVenue.Proofs.Search.FlatDepth
import TwoVenue.Proofs.Trade.Margin
import TwoVenue.Proofs.Trade.Protection
import TwoVenue.Proofs.Search.BadLevels
import TwoVenue.Proofs.Trade.Pending
import TwoVenue.Proofs.Market.Normalization
import TwoVenue.Proofs.Engine.Safeguards
import TwoVenue.Proofs.Engine.Refusals
import TwoVenue.Proofs.Search.Calls
import TwoVenue.Proofs.Trade.Pending
