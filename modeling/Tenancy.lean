import Tenancy.Store.Batch
import Tenancy.Entity.Copy
import Tenancy.Schema.Registry
import Tenancy.Proofs.Catalog.Injection
import Tenancy.Proofs.Catalog.Loading
import Tenancy.Proofs.Query.Grouping
import Tenancy.Proofs.Query.RoundTrip
import Tenancy.Proofs.Store.OneByOne
import Tenancy.Proofs.Store.Retry
import Tenancy.Proofs.Entity.Gate
import Tenancy.Proofs.Entity.Storage
import Tenancy.Proofs.Calendar.Accepted
import Tenancy.Proofs.Calendar.Civil
import Tenancy.Proofs.Calendar.Date
import Tenancy.Proofs.Calendar.Day
import Tenancy.Proofs.Calendar.Plain
import Tenancy.Proofs.Calendar.Texts
import Tenancy.Proofs.Calendar.Zoned
import Tenancy.Proofs.Catalog.Interleaving
import Tenancy.Proofs.Catalog.Sharing
import Tenancy.Proofs.Catalog.Eviction
import Tenancy.Proofs.Schema.References
import Tenancy.Proofs.Store.Refusal
import Tenancy.Proofs.Query.Assembly
import Tenancy.Proofs.Catalog.Records
import Tenancy.Proofs.Query.LeftColumns
import Tenancy.Proofs.Catalog.Tables
import Tenancy.Proofs.Catalog.SelectList
import Tenancy.Proofs.Entity.Copying
import Tenancy.Proofs.Entity.Identity
import Tenancy.Proofs.Field.Truncation
import Tenancy.Proofs.Store.Staged
import Tenancy.Proofs.Field.Numerals
import Tenancy.Proofs.Field.Canonical
import Tenancy.Proofs.Schema.Building
import Tenancy.Proofs.Query.Steps
