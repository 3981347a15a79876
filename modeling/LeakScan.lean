import LeakScan.Main
import LeakScan.Proofs.Finding.Coverage
import LeakScan.Proofs.Finding.Reference
import LeakScan.Proofs.Number.Numeral
import LeakScan.Proofs.Service.Upload
import LeakScan.Proofs.Session.Invariant
import LeakScan.Web.Api
import LeakScan.Proofs.Export.Csv
import LeakScan.Proofs.Json.Text
import LeakScan.Proofs.Json.Written
import LeakScan.Proofs.Export.Json
import LeakScan.Proofs.Session.Lifetime
import LeakScan.Proofs.Session.Registry
import LeakScan.Proofs.Json.Nesting
import LeakScan.Proofs.Repository.Walk
import LeakScan.Proofs.Service.Repository
import LeakScan.Proofs.Service.Question
import LeakScan.Proofs.Repository.Steady
import LeakScan.Proofs.Service.Independence
import LeakScan.Proofs.Repository.Collected
import LeakScan.Proofs.Service.Start
import LeakScan.Proofs.Service.Sensitive
import LeakScan.Proofs.Service.Offered
import LeakScan.Proofs.Service.Cap
import LeakScan.Proofs.Service.Local
import LeakScan.Proofs.Config.Load
import LeakScan.Proofs.Repository.Endless
import LeakScan.Proofs.Web.View
import LeakScan.Proofs.Command.Scan
import LeakScan.Proofs.Finding.Token
import LeakScan.Proofs.Repository.Reference
import LeakScan.Proofs.Repository.Expression
import LeakScan.Proofs.Repository.Malformed
import LeakScan.Proofs.Finding.Base64
import LeakScan.Proofs.Finding.Append
import LeakScan.Proofs.Finding.LineEnding
import LeakScan.Proofs.Finding.Bearer
import LeakScan.Proofs.Session.Outcome
import LeakScan.Proofs.Yaml.Keys
import LeakScan.Proofs.Yaml.Reorder
import LeakScan.Proofs.Number.Order
import LeakScan.Proofs.Config.Held
import LeakScan.Proofs.Config.Loaded
import LeakScan.Proofs.Config.Range
import LeakScan.Proofs.Config.Layers
import LeakScan.Proofs.Files.Order
import LeakScan.Proofs.Files.Relisted
import LeakScan.Proofs.Files.Batch
import LeakScan.Proofs.Repository.Extension
import LeakScan.Proofs.Repository.Spelling
import LeakScan.Proofs.Service.Progress
import LeakScan.Proofs.Finding.InTurn
import LeakScan.Proofs.Finding.Identifier
import LeakScan.Proofs.Service.Identifier
