import RelativeTime.Adapter
import RelativeTime.Bindings
import RelativeTime.Calendar
import RelativeTime.Calendar.Periods
import RelativeTime.CommandLine.Arguments
import RelativeTime.CommandLine.Evaluate
import RelativeTime.CommandLine.Log
import RelativeTime.CommandLine.Outcome
import RelativeTime.Config
import RelativeTime.Dotenv
import RelativeTime.Expression.Datum
import RelativeTime.Expression.Form
import RelativeTime.Expression.ParseError
import RelativeTime.Expression.Resolved
import RelativeTime.Expression.Tokens
import RelativeTime.Locale
import RelativeTime.Main
import RelativeTime.Moment.Arithmetic
import RelativeTime.Moment.Basic
import RelativeTime.Moment.Iso
import RelativeTime.Parser
import RelativeTime.Proofs.CommandLine.Arguments
import RelativeTime.Proofs.CommandLine.Endings
import RelativeTime.Proofs.CommandLine.Expressions
import RelativeTime.Proofs.CommandLine.OpenSettings
import RelativeTime.Proofs.CommandLine.OptionsInFront
import RelativeTime.Proofs.CommandLine.OptionsOrVariables
import RelativeTime.Proofs.CommandLine.Output
import RelativeTime.Proofs.Config.Aliases
import RelativeTime.Proofs.Config.Extension
import RelativeTime.Proofs.Expression.Acceptance
import RelativeTime.Proofs.Expression.Faults
import RelativeTime.Proofs.Expression.Fields
import RelativeTime.Proofs.Expression.Reading
import RelativeTime.Proofs.Expression.Resolving
import RelativeTime.Proofs.Expression.RoundTrip
import RelativeTime.Proofs.Expression.Validation
import RelativeTime.Proofs.Locale.AnyOrder
import RelativeTime.Proofs.Locale.Synonyms
import RelativeTime.Proofs.Moment.AdditionLimits
import RelativeTime.Proofs.Moment.CalendarAddition
import RelativeTime.Proofs.Moment.CalendarRounding
import RelativeTime.Proofs.Moment.ClockAddition
import RelativeTime.Proofs.Moment.ClockRounding
import RelativeTime.Proofs.Moment.Enclosure
import RelativeTime.Proofs.Moment.FirstReading
import RelativeTime.Proofs.Moment.Idempotence
import RelativeTime.Proofs.Moment.Limits
import RelativeTime.Proofs.Moment.LocalForm
import RelativeTime.Proofs.Moment.MonthSteps
import RelativeTime.Proofs.Moment.Normalization
import RelativeTime.Proofs.Moment.RoundingLimits
import RelativeTime.Proofs.Moment.UnitScales
import RelativeTime.Proofs.Parser.Agreement
import RelativeTime.Proofs.Parser.ConsecutivePeriods
import RelativeTime.Proofs.Parser.Dialogue
import RelativeTime.Proofs.Parser.LaterClock
import RelativeTime.Proofs.Parser.NestedRounding
import RelativeTime.Proofs.Parser.Range
import RelativeTime.Proofs.Parser.RangeOfOne
import RelativeTime.Proofs.Parser.Refusal
import RelativeTime.Proofs.Parser.SteadyClock
import RelativeTime.Proofs.Parser.ZeroOffset
import RelativeTime.Proofs.Parser.ZoneErrors
import RelativeTime.Proofs.Session.Isolation
import RelativeTime.Proofs.Settings.ListReading
import RelativeTime.Proofs.Settings.LocaleList
import RelativeTime.Proofs.Settings.Valid
import RelativeTime.Proofs.Settings.Variables
import RelativeTime.Proofs.Stamp.CalendarRounding
import RelativeTime.Proofs.Stamp.ClockRounding
import RelativeTime.Proofs.Stamp.SteadyRounding
import RelativeTime.Proofs.Stamp.Truncation
import RelativeTime.Proofs.Stamp.WallReading
import RelativeTime.Proofs.Unit.Limits
import RelativeTime.Proofs.Unit.Nesting
import RelativeTime.Proofs.Unit.PeriodStarts
import RelativeTime.Proofs.Unit.Periods
import RelativeTime.Proofs.Unit.Shifting
import RelativeTime.Proofs.Unit.WallPeriods
import RelativeTime.Proofs.Zone.Changes
import RelativeTime.Proofs.Zone.HourlyChanges
import RelativeTime.Proofs.Zone.LocalTime
import RelativeTime.Proofs.Zone.MarkedReadings
import RelativeTime.Proofs.Zone.Readings
import RelativeTime.Proofs.Zone.Showings
import RelativeTime.Proofs.Zone.Table
import RelativeTime.Run
import RelativeTime.Session
import RelativeTime.Settings
import RelativeTime.Stamp.Arithmetic
import RelativeTime.Stamp.Basic
import RelativeTime.Stamp.Iso
import RelativeTime.Text.Blank
import RelativeTime.Text.CodeRange
import RelativeTime.Text.Decimal
import RelativeTime.Text.DecimalDigit
import RelativeTime.Text.Iso
import RelativeTime.Text.Numeral
import RelativeTime.Text.Printable
import RelativeTime.Text.Quoted
import RelativeTime.Text.Scan
import RelativeTime.Text.Uppercase
import RelativeTime.Text.Word
import RelativeTime.TimeAdapter
import RelativeTime.TimeError
import RelativeTime.Unit
import RelativeTime.Unit.Checked
import RelativeTime.UnitTable
import RelativeTime.Zone.Basic
import RelativeTime.Zone.Key
import RelativeTime.Zone.Local
import RelativeTime.Zone.Database
import RelativeTime.Zone.Recent
import RelativeTime.Zone.Offset
import RelativeTime.Zone.YearlyRule
