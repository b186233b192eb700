import RecordSearch.Main
import RecordSearch.Http.Service
import RecordSearch.Record.Draft
import RecordSearch.Proofs.Attempt
import RecordSearch.Proofs.Store.Catalog
import RecordSearch.Proofs.Store.Identity
import RecordSearch.Proofs.Store.Search
import RecordSearch.Proofs.Service.Stages
import RecordSearch.Proofs.Text.Scan
import RecordSearch.Proofs.Text.Words
import RecordSearch.Proofs.Service.Excerpt
import RecordSearch.Proofs.Grammar.Rule
import RecordSearch.Proofs.Time.Printer
import RecordSearch.Proofs.Service.Interleaving
import RecordSearch.Proofs.Grammar.Leaves
import RecordSearch.Proofs.Grammar.Form
import RecordSearch.Proofs.Grammar.Operand
import RecordSearch.Proofs.Grammar.Extension
import RecordSearch.Proofs.Grammar.Simulation
import RecordSearch.Proofs.Grammar.Composition
import RecordSearch.Proofs.Grammar.Agreement
import RecordSearch.Proofs.Grammar.Single
import RecordSearch.Proofs.Service.Preparation
import RecordSearch.Proofs.Service.Lookup
import RecordSearch.Proofs.Filter.Dependence
import RecordSearch.Proofs.Service.Privacy
import RecordSearch.Proofs.Http.Writes
import RecordSearch.Proofs.Store.Sharing
import RecordSearch.Proofs.Store.Session
import RecordSearch.Proofs.Pattern.Like
import RecordSearch.Proofs.Pattern.Caseless
import RecordSearch.Proofs.Query.Dates
import RecordSearch.Proofs.Query.Presence
import RecordSearch.Proofs.Text.Layout
import RecordSearch.Proofs.Pattern.Glob
import RecordSearch.Proofs.Query.Prose
import RecordSearch.Proofs.Filter.Typing
import RecordSearch.Proofs.Query.Order
import RecordSearch.Proofs.Grammar.Reserved
import RecordSearch.Proofs.Grammar.Stamp
import RecordSearch.Proofs.Http.Payload
import RecordSearch.Proofs.Store.Reached
import RecordSearch.Proofs.Store.Stamped
import RecordSearch.Proofs.Url.Address
import RecordSearch.Proofs.Grammar.Abbreviation
import RecordSearch.Proofs.Service.Locators
import RecordSearch.Proofs.Registry.Declarations
import RecordSearch.Proofs.Registry.Views
import RecordSearch.Proofs.Record.Draft
import RecordSearch.Proofs.Extraction
import RecordSearch.Proofs.Grammar.Normal
