import FluentSql.Text.Hex
import FluentSql.Text.Quoted
import FluentSql.Text.Utf8
import FluentSql.Decimal.Rounding
import FluentSql.Decimal.Layout
import FluentSql.Json.Printer
import FluentSql.Json.Parser
import FluentSql.Statement.Draft
import FluentSql.ResultSet
import FluentSql.Options.Reading
import FluentSql.Session
import FluentSql.MySql.Gateway
import FluentSql.Proofs.Statement.Grammar
import FluentSql.Proofs.Statement.Complete
import FluentSql.Proofs.Statement.Records
import FluentSql.Proofs.Statement.Lists
import FluentSql.Proofs.Statement.Texts
import FluentSql.Proofs.Session.Run
import FluentSql.Proofs.Session.Sent
import FluentSql.Proofs.Session.Branches
import FluentSql.Proofs.MySql.Select
import FluentSql.Proofs.Members
import FluentSql.Proofs.MySql.Crash
import FluentSql.Proofs.MySql.Names
import FluentSql.Proofs.MySql.Cells
import FluentSql.Proofs.MySql.WriteBack
import FluentSql.Proofs.Json.Nested
import FluentSql.Proofs.Json.RoundTrip
import FluentSql.Proofs.Json.Embedded
import FluentSql.Proofs.MySql.Documents
import FluentSql.Proofs.Password
import FluentSql.Proofs.Json.Extent
import FluentSql.Proofs.MySql.Binary
import FluentSql.Proofs.Statement.Unambiguous
import FluentSql.Proofs.Statement.Sorted
import FluentSql.Proofs.Statement.Forms
import FluentSql.Proofs.Literal.Texts
import FluentSql.Proofs.Literal.Equality
import FluentSql.Proofs.Decimal.Numbers
import FluentSql.Proofs.Json.Equality
import FluentSql.Proofs.MySql.Temporal
import FluentSql.Proofs.MySql.Written
import FluentSql.Proofs.ResultSet
import FluentSql.Proofs.Options.Named
import FluentSql.Proofs.Options.Settings
import FluentSql.Proofs.Options.Positional
