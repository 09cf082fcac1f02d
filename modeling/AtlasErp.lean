import AtlasErp.Accounting.AccountGroups
import AtlasErp.Accounting.Approval
import AtlasErp.Accounting.ArInvoices
import AtlasErp.Accounting.Balance
import AtlasErp.Accounting.ClosedPeriods
import AtlasErp.Accounting.ClosingHistory
import AtlasErp.Accounting.Documents
import AtlasErp.Accounting.DoubleAmounts
import AtlasErp.Accounting.FiscalCalendar
import AtlasErp.Accounting.InvoiceBridge
import AtlasErp.Accounting.InvoiceInLedger
import AtlasErp.Accounting.JournalLines
import AtlasErp.Accounting.Ledger
import AtlasErp.Accounting.LedgerInvariants
import AtlasErp.Accounting.LedgerWrites
import AtlasErp.Accounting.PaymentSchedule
import AtlasErp.Accounting.PaymentTerms
import AtlasErp.Accounting.Receipts
import AtlasErp.Accounting.Reversals
import AtlasErp.Ads.Audience
import AtlasErp.Ads.BilledOnce
import AtlasErp.Ads.Billing
import AtlasErp.Ads.CampaignStatus
import AtlasErp.Ads.ClosingSessions
import AtlasErp.Ads.DailyMetrics
import AtlasErp.Ads.EmailBatches
import AtlasErp.Ads.EmailMessaging
import AtlasErp.Ads.EmailSuppressions
import AtlasErp.Ads.InvoicePayments
import AtlasErp.Ads.Model
import AtlasErp.Ads.Moderation
import AtlasErp.Ads.ReviewQueue
import AtlasErp.Ads.Sessions
import AtlasErp.Ads.Spend
import AtlasErp.Ads.SpendSessions
import AtlasErp.Ads.TrackedOnce
import AtlasErp.Billing.BillingCycle
import AtlasErp.Billing.BillingPeriods
import AtlasErp.Billing.ChargeLedger
import AtlasErp.Billing.ChargeSessions
import AtlasErp.Billing.ClosedMonth
import AtlasErp.Billing.CollectedInFull
import AtlasErp.Billing.FiscalDocuments
import AtlasErp.Billing.InvoiceTexts
import AtlasErp.Billing.InvoiceTotals
import AtlasErp.Billing.InvoicedOnce
import AtlasErp.Billing.Invoicing
import AtlasErp.Billing.IssuedLines
import AtlasErp.Billing.Model
import AtlasErp.Billing.PaymentSessions
import AtlasErp.Billing.Payments
import AtlasErp.Billing.ReceivableBooks
import AtlasErp.Common.Basics
import AtlasErp.Common.DocumentNumbering
import AtlasErp.Common.EventInbox
import AtlasErp.Common.Numbers
import AtlasErp.Coverage.Confluence
import AtlasErp.Coverage.CoreEvents
import AtlasErp.Coverage.Eligibility
import AtlasErp.Coverage.FourEyes
import AtlasErp.Coverage.Model
import AtlasErp.Coverage.NoDoubleBenefit
import AtlasErp.Coverage.NoticeDecision
import AtlasErp.Coverage.OverdueSweep
import AtlasErp.Coverage.Recovery
import AtlasErp.Coverage.RecoveryLedger
import AtlasErp.Coverage.RecoverySessions
import AtlasErp.Coverage.Review
import AtlasErp.Coverage.Scheduling
import AtlasErp.Coverage.Settlement
import AtlasErp.Coverage.System
import AtlasErp.Coverage.TrueStatus
import AtlasErp.Coverage.WrittenOff
import AtlasErp.Fiscal.AnnulledInvoices
import AtlasErp.Fiscal.Annulment
import AtlasErp.Fiscal.Batches
import AtlasErp.Fiscal.CanonicalAmounts
import AtlasErp.Fiscal.Contingency
import AtlasErp.Fiscal.Copies
import AtlasErp.Fiscal.Cuf
import AtlasErp.Fiscal.CufDecoding
import AtlasErp.Fiscal.Dispatch
import AtlasErp.Fiscal.Emission
import AtlasErp.Fiscal.EventCodes
import AtlasErp.Fiscal.FacturaXml
import AtlasErp.Fiscal.FormulasSin
import AtlasErp.Fiscal.IssuedNumbers
import AtlasErp.Fiscal.MontoLiteral
import AtlasErp.Fiscal.Montos
import AtlasErp.Fiscal.MontosExactos
import AtlasErp.Fiscal.Numbering
import AtlasErp.Fiscal.OfflineEvents
import AtlasErp.Fiscal.OfflineXml
import AtlasErp.Fiscal.PackageVerdicts
import AtlasErp.Fiscal.Packages
import AtlasErp.Fiscal.PaqueteTar
import AtlasErp.Fiscal.ProcessorSteps
import AtlasErp.Fiscal.Processors
import AtlasErp.Fiscal.Regeneration
import AtlasErp.Fiscal.TakenNumbers
import AtlasErp.Lib.Bits
import AtlasErp.Lib.Chars
import AtlasErp.Lib.Checked
import AtlasErp.Lib.Civil
import AtlasErp.Lib.Claims
import AtlasErp.Lib.Decimal
import AtlasErp.Lib.Fields
import AtlasErp.Lib.Forest
import AtlasErp.Lib.Gf256
import AtlasErp.Lib.Grouping
import AtlasErp.Lib.Hex
import AtlasErp.Lib.Interleave
import AtlasErp.Lib.Months
import AtlasErp.Lib.Newest
import AtlasErp.Lib.Radix
import AtlasErp.Lib.ReadCommitted
import AtlasErp.Lib.Runs
import AtlasErp.Lib.Script
import AtlasErp.Lib.Table
import AtlasErp.Lib.Tiles
import AtlasErp.Lib.Versions
import AtlasErp.Lib.Workers
import AtlasErp.Lib.Xml
import AtlasErp.Merchants.ActivationGate
import AtlasErp.Merchants.BranchSessions
import AtlasErp.Merchants.Branches
import AtlasErp.Merchants.CaseProgress
import AtlasErp.Merchants.CustomerStatus
import AtlasErp.Merchants.Onboarding
import AtlasErp.Merchants.OnboardingRequests
import AtlasErp.Merchants.OneOpenCase
import AtlasErp.Money.Cents
import AtlasErp.Money.DecimalAmount
import AtlasErp.Money.DoubleArithmetic
import AtlasErp.Money.Doubles
import AtlasErp.Money.NumberTexts
import AtlasErp.Money.ReadBack
import AtlasErp.Money.RoundedDivision
import AtlasErp.Outbox.Buried
import AtlasErp.Outbox.Consumer
import AtlasErp.Outbox.Delivery
import AtlasErp.Outbox.LatestState
import AtlasErp.Outbox.Leases
import AtlasErp.Outbox.Relay
import AtlasErp.Outbox.Signature
import AtlasErp.Outbox.StaleWorkers
import AtlasErp.Pricing.ApprovalDecisions
import AtlasErp.Pricing.CreditDecisions
import AtlasErp.Pricing.MdrProjection
import AtlasErp.Pricing.MdrRules
import AtlasErp.Pricing.MdrSessions
import AtlasErp.Purchases.Conservation
import AtlasErp.Purchases.Consumers
import AtlasErp.Purchases.Mdr
import AtlasErp.Purchases.Register
import AtlasErp.Purchases.RuleOrder
import AtlasErp.Qr.Codewords
import AtlasErp.Qr.Matrix
import AtlasErp.Qr.Placement
import AtlasErp.Qr.Reader
import AtlasErp.Qr.ReedSolomon
import AtlasErp.Rating.Account
import AtlasErp.Rating.Portfolio
import AtlasErp.Rating.PortfolioSweep
import AtlasErp.Rating.Scale
import AtlasErp.Sales.Deals
import AtlasErp.Sales.OneDeal
import AtlasErp.Segments.NumericFacts
import AtlasErp.Segments.RuleEngine
