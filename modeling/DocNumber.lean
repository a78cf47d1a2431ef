import DocNumber.Calendar.Day
import DocNumber.Calendar.Instant
import DocNumber.Calendar.Written
import DocNumber.Decimal.Binary64
import DocNumber.Decimal.Numeral
import DocNumber.Decimal.Power
import DocNumber.Decimal.Shortest
import DocNumber.Fault.Kind
import DocNumber.Fault.Refusal
import DocNumber.Fault.Reply
import DocNumber.Fields.Issue
import DocNumber.Fields.Read
import DocNumber.Http.App
import DocNumber.Http.Body
import DocNumber.Http.Cors
import DocNumber.Http.Health
import DocNumber.Http.Message
import DocNumber.Http.Query
import DocNumber.Http.Route
import DocNumber.Issuing.Call
import DocNumber.Issuing.Deadline
import DocNumber.Issuing.Pool
import DocNumber.Issuing.Service
import DocNumber.Json.Plain
import DocNumber.Json.Reader
import DocNumber.Json.Value
import DocNumber.Json.Writer
import DocNumber.Main
import DocNumber.Proofs.Calendar.Midnight
import DocNumber.Proofs.Calendar.Order
import DocNumber.Proofs.Calendar.Reading
import DocNumber.Proofs.Calendar.Twofold
import DocNumber.Proofs.Decimal.Rounding
import DocNumber.Proofs.Decimal.Shortest
import DocNumber.Proofs.Fields
import DocNumber.Proofs.Http.Answers
import DocNumber.Proofs.Http.Astray
import DocNumber.Proofs.Issuing.Agreement
import DocNumber.Proofs.Issuing.Allocation
import DocNumber.Proofs.Issuing.Attempts
import DocNumber.Proofs.Issuing.Course
import DocNumber.Proofs.Issuing.Coverage
import DocNumber.Proofs.Issuing.Ending
import DocNumber.Proofs.Issuing.Failures
import DocNumber.Proofs.Issuing.Invariant
import DocNumber.Proofs.Issuing.Ledger
import DocNumber.Proofs.Issuing.Moves
import DocNumber.Proofs.Issuing.Numbers
import DocNumber.Proofs.Issuing.Order
import DocNumber.Proofs.Issuing.Padding
import DocNumber.Proofs.Issuing.Pages
import DocNumber.Proofs.Issuing.Reachable
import DocNumber.Proofs.Issuing.Resolution
import DocNumber.Proofs.Issuing.Separation
import DocNumber.Proofs.Issuing.Succession
import DocNumber.Proofs.Issuing.TemplateFaults
import DocNumber.Proofs.Issuing.Undisturbed
import DocNumber.Proofs.Issuing.Uniqueness
import DocNumber.Proofs.Issuing.Widths
import DocNumber.Proofs.Json.Spelling
import DocNumber.Proofs.Request
import DocNumber.Proofs.Rule.Choice
import DocNumber.Proofs.Rule.Codes
import DocNumber.Proofs.Rule.Draft
import DocNumber.Proofs.Rule.Governing
import DocNumber.Proofs.Rule.Normal
import DocNumber.Proofs.Rule.Respelling
import DocNumber.Proofs.Rule.Usable
import DocNumber.Proofs.Seed.Insertion
import DocNumber.Proofs.Seed.Reading
import DocNumber.Proofs.Seed.Requests
import DocNumber.Proofs.Seed.Stopping
import DocNumber.Proofs.Seed.Writing
import DocNumber.Proofs.Store.Admission
import DocNumber.Proofs.Store.Agreement
import DocNumber.Proofs.Store.Bound
import DocNumber.Proofs.Store.Catalogue
import DocNumber.Proofs.Store.Counter
import DocNumber.Proofs.Store.Overflow
import DocNumber.Proofs.Store.Search
import DocNumber.Proofs.Store.Valid
import DocNumber.Proofs.Template.Alignment
import DocNumber.Proofs.Template.Dependence
import DocNumber.Proofs.Template.Grammar
import DocNumber.Proofs.Template.Joining
import DocNumber.Proofs.Template.Limit
import DocNumber.Proofs.Template.Order
import DocNumber.Proofs.Template.Text
import DocNumber.Proofs.Text.Blank
import DocNumber.Proofs.Text.Digits
import DocNumber.Request
import DocNumber.Rule.Basic
import DocNumber.Rule.Choice
import DocNumber.Rule.Draft
import DocNumber.Rule.Fields
import DocNumber.Schema.Database
import DocNumber.Schema.Revision
import DocNumber.Schema.Script
import DocNumber.Schema.Tables
import DocNumber.Seed.Arguments
import DocNumber.Seed.Command
import DocNumber.Seed.Fault
import DocNumber.Seed.Files
import DocNumber.Seed.Insert
import DocNumber.Seed.Rows
import DocNumber.Settings.Basic
import DocNumber.Settings.Dotenv
import DocNumber.Store.Edit
import DocNumber.Store.Engine
import DocNumber.Store.Memory
import DocNumber.Store.Note
import DocNumber.Store.Page
import DocNumber.Store.Scope
import DocNumber.Store.State
import DocNumber.Store.Table
import DocNumber.Template.Fault
import DocNumber.Template.Parse
import DocNumber.Template.Render
import DocNumber.Template.Token
import DocNumber.Text.Blank
import DocNumber.Text.Digits
import DocNumber.Text.Path
import DocNumber.Text.Printable
import DocNumber.Text.Quoted
import DocNumber.Text.Utf8
