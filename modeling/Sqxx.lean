import Sqxx.Framework.Runs
import Sqxx.Framework.Ownership
import Sqxx.Error
import Sqxx.Datatypes
import Sqxx.Sqlite.Statements
import Sqxx.Statement.Object
import Sqxx.Sqlite.Values
import Sqxx.Statement.Columns
import Sqxx.Statement.DoneFlag
import Sqxx.Function.Callback
import Sqxx.Statement.Values
import Sqxx.Function.Scalar
import Sqxx.Framework.Interleaving
import Sqxx.Function.Aggregate
import Sqxx.Function.Registration
import Sqxx.Backup
import Sqxx.Connection.Object
import Sqxx.Connection.Handles
import Sqxx.Connection.Handlers
import Sqxx.Connection.Registered
import Sqxx.Connection.Zombies
import Sqxx.Connection.Leaks
import Sqxx.Framework.RawOwners
import Sqxx.Lifetimes
import Sqxx.Connection.Exec
import Sqxx.Connection.SqlText
import Sqxx.Statement.Copying
import Sqxx.Function.Values
import Sqxx.Statement.Schema
import Sqxx.Statement.Rows
import Sqxx.Function.StateLifetime
import Sqxx.Connection.Collations
import Sqxx.Blob.Position
import Sqxx.Blob.Seeking
import Sqxx.Blob.Draining
import Sqxx.Config.Object
import Sqxx.Config.Settings
import Sqxx.Config.Startup
import Sqxx.Callbacks.Handlers
import Sqxx.Callbacks.Boundary
import Sqxx.Connection.Atomicity
import Sqxx.Sqlite.Parameters
import Sqxx.Statement.Parameters
import Sqxx.Framework.Loops
import Sqxx.Statement.Iteration
import Sqxx.Backup.Steps
import Sqxx.Blob.Writing
import Sqxx.Blob.Seekable
import Sqxx.Connection.ExecMessages
import Sqxx.Framework.Calls
import Sqxx.Statement.Overloads
import Sqxx.Callable.Traits
import Sqxx.Config.LogHandlers
import Sqxx.Connection.Reentrancy
import Sqxx.Framework.Refinement
import Sqxx.Function.Registry
import Sqxx.Statement.Bindings
import Sqxx.Function.Query
import Sqxx.Blob.File
import Sqxx.Framework.Devices
import Sqxx.Function.AggregateStates
import Sqxx.Function.AggregateQuery
import Sqxx.Framework.Dialogues
import Sqxx.Framework.Sorting
import Sqxx.Connection.OnDemand
import Sqxx.Connection.CollationOrder
import Sqxx.Sqlite.Work
import Sqxx.Connection.LibraryWork
import Sqxx.Connection.Transactions
