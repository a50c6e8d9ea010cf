import RecordSearch.Derive
import RecordSearch.Describe
import RecordSearch.Example.Item
import RecordSearch.Number.Numeral
import RecordSearch.Search.OptionsText
import RecordSearch.Proofs.Calls
import RecordSearch.Proofs.Kinds
import RecordSearch.Proofs.Outcome
import RecordSearch.Proofs.Validation
import RecordSearch.Proofs.KindSafety
import RecordSearch.Proofs.Overriding
import RecordSearch.Proofs.Sources
import RecordSearch.Proofs.DeclarationOrder
import RecordSearch.Proofs.Contributions
import RecordSearch.Proofs.PagingOrder
import RecordSearch.Proofs.ReportingTime
import RecordSearch.Proofs.SingleField
import RecordSearch.Proofs.FieldDependence
import RecordSearch.Proofs.Rounding
import RecordSearch.Proofs.NumberOrder
import RecordSearch.Proofs.Calendar
import RecordSearch.Proofs.SeveralFields
import RecordSearch.Proofs.Inactivity
import RecordSearch.Proofs.TextConstraints
import RecordSearch.Proofs.EnumConstraints
import RecordSearch.Proofs.CollectionConstraints
import RecordSearch.Proofs.MissingValues
import RecordSearch.Proofs.Opposites
import RecordSearch.Proofs.Ranges
import RecordSearch.Proofs.AbsentOperands
import RecordSearch.Proofs.ClauseDivision
import RecordSearch.Proofs.Conversions
import RecordSearch.Proofs.NumberEquality
import RecordSearch.Proofs.Nesting
import RecordSearch.Proofs.NormalForm
import RecordSearch.Proofs.RawNames
import RecordSearch.Proofs.DerivedAccessors
import RecordSearch.Proofs.DerivedDescriptors
import RecordSearch.Proofs.SplitAttributes
import RecordSearch.Proofs.RefusedItems
import RecordSearch.Proofs.ConstantWords
