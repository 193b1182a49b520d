import DynamicForms.Draft.Autosaver
import DynamicForms.Draft.Drafts
import DynamicForms.Draft.Notebook
import DynamicForms.Draft.Storage
import DynamicForms.Entries
import DynamicForms.Json.Error
import DynamicForms.Json.Reader
import DynamicForms.Json.Writer
import DynamicForms.Lookup.Basic
import DynamicForms.Lookup.Channel
import DynamicForms.Lookup.Desk
import DynamicForms.Lookup.Dispatch
import DynamicForms.Lookup.Engine
import DynamicForms.Lookup.Remote
import DynamicForms.Lookup.Request
import DynamicForms.Lookup.Response
import DynamicForms.Lookup.Tables
import DynamicForms.Lookup.Worker
import DynamicForms.Number.Double
import DynamicForms.Number.Numeral
import DynamicForms.Number.Shortest
import DynamicForms.Number.Text
import DynamicForms.Path.Access
import DynamicForms.Path.Basic
import DynamicForms.Pattern.Character
import DynamicForms.Pattern.Error
import DynamicForms.Pattern.Escape
import DynamicForms.Pattern.Parse
import DynamicForms.Pattern.Search
import DynamicForms.Pattern.Source
import DynamicForms.Pattern.Syntax
import DynamicForms.Proofs.Draft.Autosaving
import DynamicForms.Proofs.Draft.Isolation
import DynamicForms.Proofs.Draft.Presence
import DynamicForms.Proofs.Draft.Record
import DynamicForms.Proofs.Draft.Storage
import DynamicForms.Proofs.Entries
import DynamicForms.Proofs.Json.Document
import DynamicForms.Proofs.Json.Numbers
import DynamicForms.Proofs.Json.RoundTrip
import DynamicForms.Proofs.Json.Serialisable
import DynamicForms.Proofs.Json.Strings
import DynamicForms.Proofs.Lookup.Alone
import DynamicForms.Proofs.Lookup.Books
import DynamicForms.Proofs.Lookup.Client
import DynamicForms.Proofs.Lookup.Commute
import DynamicForms.Proofs.Lookup.Currency
import DynamicForms.Proofs.Lookup.Disjoint
import DynamicForms.Proofs.Lookup.Effect
import DynamicForms.Proofs.Lookup.Encoding
import DynamicForms.Proofs.Lookup.Engine
import DynamicForms.Proofs.Lookup.Fade
import DynamicForms.Proofs.Lookup.Fresh
import DynamicForms.Proofs.Lookup.Journal
import DynamicForms.Proofs.Lookup.Keep
import DynamicForms.Proofs.Lookup.Key
import DynamicForms.Proofs.Lookup.Ledger
import DynamicForms.Proofs.Lookup.Matching
import DynamicForms.Proofs.Lookup.Mirror
import DynamicForms.Proofs.Lookup.Regression
import DynamicForms.Proofs.Lookup.Requests
import DynamicForms.Proofs.Lookup.Sheet
import DynamicForms.Proofs.Lookup.Start
import DynamicForms.Proofs.Lookup.Status
import DynamicForms.Proofs.Lookup.Steady
import DynamicForms.Proofs.Lookup.Step
import DynamicForms.Proofs.Lookup.Tandem
import DynamicForms.Proofs.Lookup.Telling
import DynamicForms.Proofs.Lookup.Turn
import DynamicForms.Proofs.Number.Rounding
import DynamicForms.Proofs.Number.Shortest
import DynamicForms.Proofs.Path.Access
import DynamicForms.Proofs.Path.Document
import DynamicForms.Proofs.Path.Lens
import DynamicForms.Proofs.Path.Segments
import DynamicForms.Proofs.Path.Shuffle
import DynamicForms.Proofs.Schema.Addresses
import DynamicForms.Proofs.Schema.Checksum
import DynamicForms.Proofs.Schema.Editing
import DynamicForms.Proofs.Schema.FirstOffender
import DynamicForms.Proofs.Schema.Grammar
import DynamicForms.Proofs.Schema.Identifiers
import DynamicForms.Proofs.Schema.Recheck
import DynamicForms.Proofs.Schema.Reread
import DynamicForms.Proofs.Schema.Respelling
import DynamicForms.Proofs.Schema.RoundTrip
import DynamicForms.Proofs.Schema.Walk
import DynamicForms.Proofs.Session.Cleared
import DynamicForms.Proofs.Session.ErrorTree
import DynamicForms.Proofs.Session.Following
import DynamicForms.Proofs.Session.Hidden
import DynamicForms.Proofs.Session.Keep
import DynamicForms.Proofs.Session.Listening
import DynamicForms.Proofs.Session.Mounting
import DynamicForms.Proofs.Session.Outcome
import DynamicForms.Proofs.Session.Restored
import DynamicForms.Proofs.Session.Resubmit
import DynamicForms.Proofs.Session.Shown
import DynamicForms.Proofs.Session.Submit
import DynamicForms.Proofs.Session.Unaided
import DynamicForms.Proofs.Session.Untouched
import DynamicForms.Proofs.Store.Document
import DynamicForms.Proofs.Store.Keep
import DynamicForms.Proofs.Store.Mirror
import DynamicForms.Proofs.Store.Missed
import DynamicForms.Proofs.Store.News
import DynamicForms.Proofs.Store.Overlap
import DynamicForms.Proofs.Store.Reaction
import DynamicForms.Proofs.Store.Relate
import DynamicForms.Proofs.Store.Run
import DynamicForms.Proofs.Store.Script
import DynamicForms.Proofs.Store.Skipped
import DynamicForms.Proofs.Store.Write
import DynamicForms.Proofs.Timer.Timeline
import DynamicForms.Proofs.Validation.Again
import DynamicForms.Proofs.Validation.Filled
import DynamicForms.Proofs.Validation.FirstPass
import DynamicForms.Proofs.Validation.Fits
import DynamicForms.Proofs.Validation.Known
import DynamicForms.Proofs.Validation.MissingGroups
import DynamicForms.Proofs.Validation.Precedence
import DynamicForms.Proofs.Validation.Required
import DynamicForms.Proofs.Validation.SecondPass
import DynamicForms.Proofs.Value.Alike
import DynamicForms.Proofs.Value.Distinct
import DynamicForms.Proofs.Value.Document
import DynamicForms.Proofs.Value.Equality
import DynamicForms.Proofs.Value.Order
import DynamicForms.Proofs.Value.Shuffle
import DynamicForms.Proofs.Visibility.Consistency
import DynamicForms.Proofs.Visibility.Dependency
import DynamicForms.Proofs.Visibility.Monotone
import DynamicForms.Proofs.Visibility.Pass
import DynamicForms.Proofs.Visibility.Passes
import DynamicForms.Proofs.Visibility.Pristine
import DynamicForms.Proofs.Visibility.Prune
import DynamicForms.Proofs.Visibility.Pruned
import DynamicForms.Proofs.Visibility.Refresh
import DynamicForms.Proofs.Visibility.Registered
import DynamicForms.Proofs.Visibility.Retention
import DynamicForms.Proofs.Visibility.Surroundings
import DynamicForms.Proofs.Visibility.Sweep
import DynamicForms.Proofs.Visibility.Twins
import DynamicForms.Proofs.Visibility.Veiled
import DynamicForms.Proofs.Visibility.Visible
import DynamicForms.Proofs.Visibility.Watched
import DynamicForms.Schema.Basic
import DynamicForms.Schema.Decode
import DynamicForms.Schema.Document
import DynamicForms.Schema.Editor
import DynamicForms.Schema.Error
import DynamicForms.Schema.FormId
import DynamicForms.Schema.Parse
import DynamicForms.Schema.Shape
import DynamicForms.Schema.Walk
import DynamicForms.Service.Request
import DynamicForms.Service.Routes
import DynamicForms.Session.Basic
import DynamicForms.Session.Life
import DynamicForms.Session.View
import DynamicForms.Settings
import DynamicForms.Store.Basic
import DynamicForms.Store.Run
import DynamicForms.Store.Script
import DynamicForms.Text.Blank
import DynamicForms.Text.Case
import DynamicForms.Text.CharName
import DynamicForms.Text.CharSet
import DynamicForms.Text.Digit
import DynamicForms.Text.Identifier
import DynamicForms.Text.Printable
import DynamicForms.Text.Quoted
import DynamicForms.Text.WordChar
import DynamicForms.Timer.Agenda
import DynamicForms.Timer.Debouncer
import DynamicForms.Validation.Build
import DynamicForms.Validation.Check
import DynamicForms.Validation.RuleCheck
import DynamicForms.Validation.Validator
import DynamicForms.Value.Basic
import DynamicForms.Value.Display
import DynamicForms.Value.Equality
import DynamicForms.Visibility.Condition
import DynamicForms.Visibility.Prune
import DynamicForms.Visibility.Tracker
import DynamicForms.Visibility.Visible
