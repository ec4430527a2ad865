import RecordFilter.Config
import RecordFilter.Dump
import RecordFilter.Proofs.Compilation
import RecordFilter.Proofs.Resolution
import RecordFilter.Proofs.Meaning
import RecordFilter.Proofs.Outcome
import RecordFilter.Proofs.Confinement
import RecordFilter.Proofs.Grammar
import RecordFilter.Proofs.RoundTrip
import RecordFilter.Proofs.Scope
import RecordFilter.Proofs.Kinds
import RecordFilter.Proofs.Typing
import RecordFilter.Proofs.Registration
import RecordFilter.Proofs.Nesting
import RecordFilter.Proofs.Composition
import RecordFilter.Proofs.Admission
import RecordFilter.Proofs.Algebra
import RecordFilter.Proofs.Applicability
import RecordFilter.Proofs.ValueOrder
import RecordFilter.Proofs.OperatorLaws
import RecordFilter.Proofs.FinalSigma
import RecordFilter.Proofs.Search
import RecordFilter.Proofs.Shape
import RecordFilter.Proofs.Blame
import RecordFilter.Proofs.IntegerLiteral
import RecordFilter.Proofs.Display
import RecordFilter.Proofs.EnumLiteral
import RecordFilter.Proofs.JsonTokens
import RecordFilter.Proofs.JsonDocument
import RecordFilter.Proofs.ConfigText
import RecordFilter.Proofs.DayNumber
import RecordFilter.Proofs.UniversalTime
import RecordFilter.Proofs.InstantText
import RecordFilter.Proofs.InstantLiteral
import RecordFilter.Proofs.LayoutApart
import RecordFilter.Proofs.InstantLayout
import RecordFilter.Proofs.DateTimeForms
import RecordFilter.Proofs.Equality
import RecordFilter.Proofs.LowerAscii
import RecordFilter.Proofs.NormalForm
import RecordFilter.Proofs.Spellings
import RecordFilter.Proofs.Keywords
