import WarehouseAccounting.Instrumental
import WarehouseAccounting.Foundations.MachineIntegers
import WarehouseAccounting.Foundations.Serializer
import WarehouseAccounting.Foundations.Template
import WarehouseAccounting.Foundations.Merge
import WarehouseAccounting.Foundations.Paging
import WarehouseAccounting.Foundations.Resumption
import WarehouseAccounting.Foundations.LexicalPath
import WarehouseAccounting.Foundations.Json
import WarehouseAccounting.Foundations.Decimal
import WarehouseAccounting.Foundations.Relational
import WarehouseAccounting.Foundations.Acceptance
import WarehouseAccounting.Foundations.RowLocality
import WarehouseAccounting.Foundations.SnapshotIsolation
import WarehouseAccounting.DbConnector.ProductDefinitions
import WarehouseAccounting.DbConnector.Query.Condition
import WarehouseAccounting.DbConnector.Query.QueryOptions
import WarehouseAccounting.DbConnector.Query.QueryManager
import WarehouseAccounting.DbConnector.Query.QueriesIterator
import WarehouseAccounting.DbConnector.Query.Placeholders
import WarehouseAccounting.DbConnector.Query.Reuse
import WarehouseAccounting.DbConnector.Query.QueriesLoops
import WarehouseAccounting.DbConnector.Query.Query
import WarehouseAccounting.DbConnector.Connection
import WarehouseAccounting.DbConnector.PreparedStatements
import WarehouseAccounting.DbConnector.ConnectionPool
import WarehouseAccounting.DbConnector.PoolRuns
import WarehouseAccounting.DbConnector.DbManager
import WarehouseAccounting.DbConnector.Transaction
import WarehouseAccounting.DbConnector.Script
import WarehouseAccounting.DbConnector.Chain
import WarehouseAccounting.DbConnector.Retry
import WarehouseAccounting.DbConnector.Commit
import WarehouseAccounting.DbConnector.Statements
import WarehouseAccounting.DbConnector.InitializeTables
import WarehouseAccounting.DbConnector.Sql
import WarehouseAccounting.DbConnector.Reading
import WarehouseAccounting.DbConnector.CountText
import WarehouseAccounting.DbConnector.NameResolution
import WarehouseAccounting.TaskManager.Tasks.Product
import WarehouseAccounting.TaskManager.Tasks.WarehouseItem
import WarehouseAccounting.TaskManager.Tasks.Invoice
import WarehouseAccounting.TaskManager.Tasks.Warehouse
import WarehouseAccounting.TaskManager.Tasks.ProductsTasks
import WarehouseAccounting.TaskManager.Tasks.Lists
import WarehouseAccounting.TaskManager.Tasks.ReportsByPeriod
import WarehouseAccounting.TaskManager.RetryTransparency
import WarehouseAccounting.TaskManager.StockStatements
import WarehouseAccounting.TaskManager.StockPrograms
import WarehouseAccounting.TaskManager.StockEffects
import WarehouseAccounting.TaskManager.InvoiceEffects
import WarehouseAccounting.TaskManager.StockProgress
import WarehouseAccounting.TaskManager.StockPointwise
import WarehouseAccounting.TaskManager.StockRequests
import WarehouseAccounting.TaskManager.StockLedger
import WarehouseAccounting.TaskManager.StockPositive
import WarehouseAccounting.TaskManager.StockConcurrency
import WarehouseAccounting.TaskManager.ReportedFailures
import WarehouseAccounting.TaskManager.ReportFiles
import WarehouseAccounting.TaskManager.Responses
import WarehouseAccounting.TaskManager.Views
import WarehouseAccounting.TaskManager.Listings
import WarehouseAccounting.TaskManager.Details
import WarehouseAccounting.TaskManager.DetailAndList
import WarehouseAccounting.TaskManager.Tasks.Filter
import WarehouseAccounting.TaskManager.ProductScope
import WarehouseAccounting.TaskManager.Subjects
import WarehouseAccounting.TaskManager.ListAndSize
import WarehouseAccounting.TaskManager.FilterEnforcement
import WarehouseAccounting.TaskManager.MatchingRows
import WarehouseAccounting.TaskManager.PagedLists
import WarehouseAccounting.TaskManager.WorkersManager
import WarehouseAccounting.Services.DocumentManager
import WarehouseAccounting.Webserver.Session
import WarehouseAccounting.Webserver.Listener
import WarehouseAccounting.Webserver.Requests
import WarehouseAccounting.TaskManager.Tasks.ProductsBodies
import WarehouseAccounting.Front.InvoiceMaster
import WarehouseAccounting.TaskManager.CreationStatements
import WarehouseAccounting.TaskManager.ArrivalStatements
import WarehouseAccounting.TaskManager.ProductsCreation
import WarehouseAccounting.TaskManager.CreationRequests
import WarehouseAccounting.TaskManager.Tasks.CollectedValues
import WarehouseAccounting.DbConnector.Query.RawQueries
import WarehouseAccounting.Utilities.Hash
import WarehouseAccounting.TaskManager.Credentials
import WarehouseAccounting.Webserver.QueryStrings
import WarehouseAccounting.DbConnector.ConnectionStrings
import WarehouseAccounting.DbConnector.DatabaseCreation
import WarehouseAccounting.StringConverters
import WarehouseAccounting.Services.Tokens
import WarehouseAccounting.Services.DateProvider
import WarehouseAccounting.Services.Authorizer
import WarehouseAccounting.Foundations.Lockstep
import WarehouseAccounting.DbConnector.PairedChains
import WarehouseAccounting.TaskManager.PostedOperations
import WarehouseAccounting.TaskManager.PeriodReports
import WarehouseAccounting.TaskManager.PeriodConsumers
import WarehouseAccounting.TaskManager.PeriodFigures
import WarehouseAccounting.TaskManager.PeriodIsolation
import WarehouseAccounting.TaskManager.PostedRuns
import WarehouseAccounting.TaskManager.CurrentReports
import WarehouseAccounting.Services.TraceWriter
import WarehouseAccounting.Services.Tracer
import WarehouseAccounting.TaskManager.CreatedRows
import WarehouseAccounting.TaskManager.Logins
import WarehouseAccounting.TaskManager.CreatedWarehouses
import WarehouseAccounting.TaskManager.InvoiceHistory
import WarehouseAccounting.TaskManager.RecordedInvoices
import WarehouseAccounting.Foundations.OrderedMap
import WarehouseAccounting.Settings
import WarehouseAccounting.Services.Environment
import WarehouseAccounting.Services.SettingsProvider
import WarehouseAccounting.Services.StartUp
import WarehouseAccounting.TaskManager.QueueMonitor
import WarehouseAccounting.TaskManager.QueueWakeups
