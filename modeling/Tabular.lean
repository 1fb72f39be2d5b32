import Tabular.Main
import Tabular.Host.Memory
import Tabular.Database.Execute
import Tabular.SaveFile.Decode
import Tabular.SaveFile.Encode
import Tabular.Table.Relation
import Tabular.Proofs.Column
import Tabular.Proofs.Sheet
import Tabular.Proofs.Table.Refinement
import Tabular.Proofs.Table.Keyed
import Tabular.Proofs.Number.Digits
import Tabular.Proofs.Number.ReadBack
import Tabular.Proofs.Text.Lines
import Tabular.Proofs.Token.Spelling
import Tabular.Proofs.Token.Names
import Tabular.Proofs.Table.Built
import Tabular.Proofs.SaveFile.Made
import Tabular.Proofs.Database.Reachable
import Tabular.Proofs.SaveFile.Written
import Tabular.Proofs.SaveFile.Literal
import Tabular.Proofs.SaveFile.RoundTrip
import Tabular.Proofs.Database.Restore
import Tabular.Proofs.Token.Written
import Tabular.Proofs.Statement.Spelling
import Tabular.Proofs.Statement.Accepted
import Tabular.Proofs.Statement.Reads
import Tabular.Proofs.Condition
import Tabular.Proofs.Table.Relation
import Tabular.Proofs.Database.Answer
import Tabular.Proofs.Table.Overwrite
import Tabular.Proofs.Typing
import Tabular.Proofs.Database.Update
import Tabular.Proofs.SaveFile.Settled
import Tabular.Proofs.Token.Content
import Tabular.Proofs.SaveFile.Normal
import Tabular.Proofs.Database.Effect
import Tabular.Proofs.Database.Transfer
import Tabular.Proofs.Database.Frame
import Tabular.Proofs.Table.Rekeyed
import Tabular.Proofs.Table.Stored
import Tabular.Proofs.Table.Made
import Tabular.Proofs.Text.Bytes
import Tabular.Proofs.Console.Line
import Tabular.Proofs.Console.Session
import Tabular.Proofs.Directory
import Tabular.Proofs.Script
import Tabular.Proofs.Text.Typed
import Tabular.Proofs.CommandLine
import Tabular.Proofs.Table.Join
import Tabular.Proofs.Table.Removal
import Tabular.Proofs.Database.Delete
import Tabular.Proofs.Table.Batch
import Tabular.Proofs.Database.Insert
import Tabular.Proofs.SaveFile.Titles
import Tabular.Proofs.Database.Names
import Tabular.Proofs.Condition.Groups
import Tabular.Proofs.Table.Pushdown
import Tabular.Proofs.Table.Filling
import Tabular.Proofs.Database.Filling
import Tabular.Proofs.Table.Mates
import Tabular.Proofs.Database.Exchange
import Tabular.Proofs.Value
import Tabular.Proofs.Condition.Order
import Tabular.Proofs.Token.Parted
import Tabular.Proofs.Kind
import Tabular.Proofs.Database.Create
import Tabular.Proofs.SaveFile.Broken
import Tabular.Proofs.SaveFile.Passes
import Tabular.Proofs.SaveFile.Refused
import Tabular.Proofs.Number.Integer
import Tabular.Proofs.Column.Edits
import Tabular.Proofs.Console.Failing
import Tabular.Proofs.Statement.EndMark
