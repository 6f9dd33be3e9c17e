import KeepGateway.Cel.AlertFields
import KeepGateway.Cel.Alternatives
import KeepGateway.Cel.CelAstConverter
import KeepGateway.Cel.CelToSql
import KeepGateway.Cel.Conjunction
import KeepGateway.Cel.ContextIndependence
import KeepGateway.Cel.ConverterEffects
import KeepGateway.Cel.EnumFilters
import KeepGateway.Cel.Equalities
import KeepGateway.Cel.EventFilters
import KeepGateway.Cel.FilterConditions
import KeepGateway.Cel.HasOperator
import KeepGateway.Cel.LineBreaks
import KeepGateway.Cel.MappedFields
import KeepGateway.Cel.MapperVisits
import KeepGateway.Cel.MethodCalls
import KeepGateway.Cel.Negation
import KeepGateway.Cel.ParsedNodes
import KeepGateway.Cel.PathRoundTrip
import KeepGateway.Cel.PropertiesMapper
import KeepGateway.Cel.ReportedFailures
import KeepGateway.Cel.ShownAlerts
import KeepGateway.Cel.SqlProviders
import KeepGateway.Cel.StringLiterals
import KeepGateway.Cel.StructuralAst
import KeepGateway.Cel.WildcardLookup
import KeepGateway.Deduplication.AlertDeduplicator
import KeepGateway.Deduplication.DirectoryAgreement
import KeepGateway.Deduplication.DirectoryProvisioning
import KeepGateway.Deduplication.EnvironmentAgreement
import KeepGateway.Deduplication.FileOrders
import KeepGateway.Deduplication.Fingerprints
import KeepGateway.Deduplication.HourlyDistribution
import KeepGateway.Deduplication.IgnoredFields
import KeepGateway.Deduplication.Overview
import KeepGateway.Deduplication.OverviewAgreement
import KeepGateway.Deduplication.OverviewListing
import KeepGateway.Deduplication.Provisioning
import KeepGateway.Deduplication.Reconciliation
import KeepGateway.Deduplication.RecordedEvents
import KeepGateway.Deduplication.RuleLookups
import KeepGateway.Deduplication.RuleRequests
import KeepGateway.Deduplication.Statistics
import KeepGateway.Deduplication.StatisticsFlag
import KeepGateway.EnrichmentRules.EntityWriter
import KeepGateway.EnrichmentRules.Extraction
import KeepGateway.EnrichmentRules.FirstRow
import KeepGateway.EnrichmentRules.Mapping
import KeepGateway.Enrichments.AlertHistory
import KeepGateway.Enrichments.Batch
import KeepGateway.Enrichments.BatchAgreement
import KeepGateway.Enrichments.ConcurrentEnrichments
import KeepGateway.Enrichments.Conversion
import KeepGateway.Enrichments.Dismissal
import KeepGateway.Enrichments.DocumentAgreement
import KeepGateway.Enrichments.ElasticDocument
import KeepGateway.Enrichments.IncidentEnrichment
import KeepGateway.Enrichments.LastAlert
import KeepGateway.Enrichments.LegacyKeys
import KeepGateway.Enrichments.MergeLaw
import KeepGateway.Enrichments.NewestOccurrence
import KeepGateway.Enrichments.Normalization
import KeepGateway.Enrichments.ReadBack
import KeepGateway.Enrichments.RouteDismissal
import KeepGateway.Enrichments.StoredAttributes
import KeepGateway.Facets.EnumOptions
import KeepGateway.Facets.FacetOptions
import KeepGateway.Facets.FacetsQueryBuilder
import KeepGateway.Facets.JoinedFilters
import KeepGateway.Identity.ApiKeyUsage
import KeepGateway.Identity.KeycloakAuthVerifier
import KeepGateway.Identity.OrganisationTenants
import KeepGateway.Identity.OwnOrganisation
import KeepGateway.Identity.RepeatedGrants
import KeepGateway.Identity.ResourcePermissions
import KeepGateway.Incidents.Aggregates
import KeepGateway.Incidents.AiSuggestion
import KeepGateway.Incidents.ChangeStatus
import KeepGateway.Incidents.CreationRaces
import KeepGateway.Incidents.CurrentAlerts
import KeepGateway.Incidents.DistinctNumbers
import KeepGateway.Incidents.EdgeAlerts
import KeepGateway.Incidents.Edit
import KeepGateway.Incidents.Merge
import KeepGateway.Incidents.MergeSafety
import KeepGateway.Incidents.Resolution
import KeepGateway.Incidents.ResolvingRoutes
import KeepGateway.Incidents.RunningNumbers
import KeepGateway.Incidents.Split
import KeepGateway.Ingestion.Answers
import KeepGateway.Ingestion.Endpoints
import KeepGateway.Ingestion.TenantRouting
import KeepGateway.Lib.Buckets
import KeepGateway.Lib.Calendar
import KeepGateway.Lib.Concatenations
import KeepGateway.Lib.Dict
import KeepGateway.Lib.DistinctRows
import KeepGateway.Lib.EventStream
import KeepGateway.Lib.Except
import KeepGateway.Lib.ExpandedRows
import KeepGateway.Lib.FirstMatch
import KeepGateway.Lib.Interleaved
import KeepGateway.Lib.JsonMembers
import KeepGateway.Lib.JsonText
import KeepGateway.Lib.JsonUnique
import KeepGateway.Lib.LikePatterns
import KeepGateway.Lib.Run
import KeepGateway.Lib.RunningExtreme
import KeepGateway.Lib.Separated
import KeepGateway.Lib.SharedLog
import KeepGateway.Lib.SortedKeys
import KeepGateway.Lib.Spans
import KeepGateway.Lib.SqlConditions
import KeepGateway.Lib.StackEffect
import KeepGateway.Lib.Templates
import KeepGateway.Lib.Trails
import KeepGateway.Listing.AlertIsolation
import KeepGateway.Listing.BatchEnrichment
import KeepGateway.Listing.IncidentIsolation
import KeepGateway.Listing.OwnLiveRows
import KeepGateway.Listing.Paging
import KeepGateway.Listing.Queries
import KeepGateway.Listing.SharedFingerprints
import KeepGateway.Listing.Totals
import KeepGateway.Metrics.FreshGauges
import KeepGateway.Operators.Creation
import KeepGateway.Operators.Credentials
import KeepGateway.Operators.Grafana
import KeepGateway.Operators.Kong
import KeepGateway.Operators.KongEffects
import KeepGateway.Operators.Provisioning
import KeepGateway.Operators.ProvisioningEffects
import KeepGateway.Operators.Rollback
import KeepGateway.Presets.OwnTags
import KeepGateway.Presets.RejectedRequests
import KeepGateway.Presets.TagIsolation
import KeepGateway.Producers.EventSubscriber
import KeepGateway.Producers.RetryBudget
import KeepGateway.Producers.StartUp
import KeepGateway.Producers.StartedOnce
import KeepGateway.Providers.Distribution
import KeepGateway.Providers.HourlyAlerts
import KeepGateway.Reports.Durations
import KeepGateway.Reports.IncidentReports
import KeepGateway.Reports.Recurring
import KeepGateway.Rules.CoercedConjunctions
import KeepGateway.Rules.ComparisonScan
import KeepGateway.Rules.CountedHits
import KeepGateway.Rules.FilterAlerts
import KeepGateway.Rules.FreeWords
import KeepGateway.Rules.KeptLiterals
import KeepGateway.Rules.LiteralReading
import KeepGateway.Rules.PiecewiseComparisons
import KeepGateway.Rules.PiecewiseWords
import KeepGateway.Rules.PointwiseFilter
import KeepGateway.Rules.PreprocessCel
import KeepGateway.Rules.RuleDistribution
import KeepGateway.Rules.SanitizePayload
import KeepGateway.Rules.StringTokens
import KeepGateway.Rules.Substitutions
import KeepGateway.Rules.TypeCoercion
import KeepGateway.Search.RawSql
import KeepGateway.Search.SimultaneousParams
import KeepGateway.Sse.Broadcaster
import KeepGateway.Sse.BroadcasterDelivery
import KeepGateway.Sse.ConnectionState
import KeepGateway.Sse.EventText
import KeepGateway.Sse.Fanout
import KeepGateway.Sse.FanoutDelivery
import KeepGateway.Sse.FanoutOrder
import KeepGateway.Sse.LiveDelivery
import KeepGateway.Sse.LiveFeed
import KeepGateway.Providers.Lifecycle
import KeepGateway.Tenants.AccessIsolation
import KeepGateway.Tenants.ApiKeys
import KeepGateway.Tenants.DefaultApiKeys
import KeepGateway.Tenants.LastAdministrator
import KeepGateway.Tenants.SecretAgreement
import KeepGateway.Tenants.SecretManager
import KeepGateway.Tenants.SingleTenant
