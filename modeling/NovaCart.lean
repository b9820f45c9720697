import NovaCart.Schemes.Outcome
import NovaCart.Schemes.Table
import NovaCart.Schemes.Run
import NovaCart.Schemes.Batch
import NovaCart.Schemes.Locks
import NovaCart.Schemes.Periods
import NovaCart.Schemes.Decimals
import NovaCart.Schemes.Ranking
import NovaCart.Schema
import NovaCart.Catalogue
import NovaCart.Store
import NovaCart.Lifecycle
import NovaCart.Refunds
import NovaCart.Webhooks
import NovaCart.Payments
import NovaCart.Sales
import NovaCart.System
import NovaCart.Frames
import NovaCart.Inversions
import NovaCart.Footprints
import NovaCart.CallFootprints
import NovaCart.Transitions
import NovaCart.Processes
import NovaCart.StockLaw
import NovaCart.Integrity
import NovaCart.Bindings
import NovaCart.Disputes
import NovaCart.Money
import NovaCart.RefundSteps
import NovaCart.Overlap
import NovaCart.Finality
import NovaCart.Totals
import NovaCart.Payouts
import NovaCart.Credits
import NovaCart.RefundReports
import NovaCart.Jobs
import NovaCart.Stranded
import NovaCart.Conservation
import NovaCart.StockRuns
import NovaCart.ExactlyOnce
import NovaCart.LockPaths
import NovaCart.Accounts
import NovaCart.Sessions
import NovaCart.AccountLinks
import NovaCart.Revocation
import NovaCart.Staff
import NovaCart.RoleManagers
import NovaCart.Gateways
import NovaCart.GatewayRuns
import NovaCart.Checkouts
import NovaCart.CheckoutRuns
import NovaCart.Queue
import NovaCart.QueueRuns
import NovaCart.StoreCurrency
import NovaCart.Invoicing
import NovaCart.InvoiceRuns
import NovaCart.InvoiceReversal
import NovaCart.Returns
import NovaCart.ReturnRuns
import NovaCart.Coupons
import NovaCart.CouponRuns
import NovaCart.TaxMaster
import NovaCart.TaxMasterRuns
import NovaCart.WebhookEvidence
import NovaCart.Caching
import NovaCart.CacheRuns
import NovaCart.Announcements
import NovaCart.OrderMoves
import NovaCart.OrderRuns
import NovaCart.StockRelease
import NovaCart.ReceivedMoney
import NovaCart.Schedules
import NovaCart.DemoGateway
import NovaCart.DemoGatewaySteps
import NovaCart.DemoGatewayRuns
import NovaCart.CurrencyReviews
import NovaCart.Schemes.Columns
import NovaCart.Schemes.Components
import NovaCart.Schemes.Texts
import NovaCart.PlainText
import NovaCart.ProductReviews
import NovaCart.ProductReviewRuns
import NovaCart.Categories
import NovaCart.CategoryRuns
import NovaCart.GstCalc
import NovaCart.Allocation
import NovaCart.GstLaws
import NovaCart.TaxEngine
import NovaCart.TaxReadiness
import NovaCart.OrderTotals
import NovaCart.OrderArithmetic
import NovaCart.SiteConfig
import NovaCart.SiteConfigRuns
import NovaCart.StockLedger
import NovaCart.LedgerRuns
import NovaCart.PriceRange
import NovaCart.PriceRangeRuns
import NovaCart.SalesReport
import NovaCart.ReportFigures
import NovaCart.ReportedSuccess
import NovaCart.TaxApprovals
import NovaCart.Carts
import NovaCart.CartRuns
import NovaCart.CartAdditions
import NovaCart.CartMerge
import NovaCart.Addresses
import NovaCart.PriceRefresh
import NovaCart.PayableOrders
import NovaCart.LargestRemainder
import NovaCart.Words
import NovaCart.Secrets
import NovaCart.ReportDays
import NovaCart.Recovery
import NovaCart.RecoveryRuns
import NovaCart.GatewayModes
import NovaCart.Combinations
import NovaCart.CombinationLaws
import NovaCart.CombinationCreation
import NovaCart.CompleteCombinations
