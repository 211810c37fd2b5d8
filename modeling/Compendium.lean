import Compendium.Http.Service
import Compendium.Proofs.Http.Answers
import Compendium.Proofs.Listing.Accepted
import Compendium.Proofs.Lookup.Traffic
import Compendium.Proofs.Paging.Partition
import Compendium.Proofs.QueryParams.Grouping
import Compendium.Proofs.Relational.Quantifiers
import Compendium.Proofs.Request.Mistakes
import Compendium.Proofs.Statement.Alignment
import Compendium.Proofs.Statement.Blocks
import Compendium.Proofs.Statement.Shape
import Compendium.Proofs.Paging.Ranges
import Compendium.Proofs.Http.Reports
import Compendium.Proofs.Relational.Columns
import Compendium.Proofs.Relational.Joins
import Compendium.Proofs.Relational.FanOut
import Compendium.Proofs.Relational.DrivingTable
import Compendium.Proofs.Statement.Scope
import Compendium.Proofs.Request.Reordering
import Compendium.Proofs.Lookup.Loading
import Compendium.Proofs.Lookup.AllOrNothing
import Compendium.Proofs.Http.InternalErrors
import Compendium.Proofs.Request.WellFormed
import Compendium.Proofs.Request.Lists
import Compendium.Proofs.Request.CommaLists
import Compendium.Proofs.Statement.Unambiguous
import Compendium.Proofs.Request.Spellings
import Compendium.Proofs.Listing.Faults
import Compendium.Proofs.Statement.Selecting
import Compendium.Proofs.Statement.Patterns
import Compendium.Proofs.Paging.Numerals
import Compendium.Proofs.Relational.SortValues
import Compendium.Proofs.Statement.SharedLabels
