import ResolverWatch.Json.Parse
import ResolverWatch.Main
import ResolverWatch.Poller
import ResolverWatch.Proofs.Calendar.Civil
import ResolverWatch.Proofs.Config.Bounds
import ResolverWatch.Proofs.Config.Canonical
import ResolverWatch.Proofs.Config.Entries
import ResolverWatch.Proofs.Config.Settled
import ResolverWatch.Proofs.Decimal.Whole
import ResolverWatch.Proofs.Float.Fraction
import ResolverWatch.Proofs.Float.Monotone
import ResolverWatch.Proofs.Float.Sum
import ResolverWatch.Proofs.History.Figures
import ResolverWatch.Proofs.History.Sliding
import ResolverWatch.Proofs.History.Window
import ResolverWatch.Proofs.Json.Bare
import ResolverWatch.Proofs.Log.Account
import ResolverWatch.Proofs.Log.Chronology
import ResolverWatch.Proofs.Log.Files
import ResolverWatch.Proofs.Log.Second
import ResolverWatch.Proofs.Log.SetUp
import ResolverWatch.Proofs.Poller.Edges
import ResolverWatch.Proofs.Poller.Loop
import ResolverWatch.Proofs.Poller.Outage
import ResolverWatch.Proofs.Program.Escape
import ResolverWatch.Proofs.Program.Exit
import ResolverWatch.Proofs.Program.Replay
import ResolverWatch.Proofs.Program.StandardLine
import ResolverWatch.Proofs.Sample.BlockSearch
import ResolverWatch.Proofs.Scrape.Conservation
import ResolverWatch.Proofs.Scrape.LineEnds
import ResolverWatch.Proofs.Scrape.Locality
import ResolverWatch.Proofs.Scrape.Overflow
import ResolverWatch.Proofs.Scrape.Parts
import ResolverWatch.Proofs.Scrape.Report
import ResolverWatch.Proofs.Snapshot.Canonical
import ResolverWatch.Proofs.Snapshot.HitRatio
import ResolverWatch.Proofs.Snapshot.Marked
import ResolverWatch.Proofs.Text.Utf8
