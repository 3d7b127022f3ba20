import RequestLog.Bench.Script
import RequestLog.Bench.Tapes
import RequestLog.Gateway.Middleware
import RequestLog.Logger.Journal
import RequestLog.Registries
import RequestLog.Sink.FileLog
import RequestLog.Proofs.Breaks.Lines
import RequestLog.Proofs.Format.Canonical
import RequestLog.Proofs.Format.Grammar
import RequestLog.Proofs.Format.Naive
import RequestLog.Proofs.Format.Setup
import RequestLog.Proofs.Format.Spelling
import RequestLog.Proofs.Gateway.OneLine
import RequestLog.Proofs.Gateway.Paths
import RequestLog.Proofs.Gateway.RequestHeaders
import RequestLog.Proofs.Gateway.Status
import RequestLog.Proofs.Gateway.Transparency
import RequestLog.Proofs.Journal.Colours
import RequestLog.Proofs.Journal.Immediate
import RequestLog.Proofs.Journal.OneLine
import RequestLog.Proofs.Journal.Relogging
import RequestLog.Proofs.Journal.Stages
import RequestLog.Proofs.Logger.Setup
import RequestLog.Proofs.Registries
import RequestLog.Proofs.Sink.Opening
import RequestLog.Proofs.Sink.ReadBack
import RequestLog.Proofs.Sink.Recent
import RequestLog.Proofs.Notes.Delivery
import RequestLog.Proofs.Sink.Sessions
import RequestLog.Proofs.Time.IsoOrder
import RequestLog.Proofs.Token.Credentials
import RequestLog.Proofs.Token.Forwarding
import RequestLog.Proofs.Token.Names
import RequestLog.Proofs.Token.Presence
import RequestLog.Proofs.Token.UrlPath
import RequestLog.Proofs.Watch.Effects
