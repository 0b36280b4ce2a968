import AIRuntime.RoutingAgreement
import AIRuntime.TenantIsolation
import AIRuntime.EntitlementSafety
import AIRuntime.QuotaOvershoot
import AIRuntime.ReplayFidelity
import AIRuntime.RecordStability
import AIRuntime.KeyRotation
import AIRuntime.KeyRaces
import AIRuntime.StreamAgreement
import AIRuntime.ToolCallUnits
import AIRuntime.CostAttribution
import AIRuntime.ProviderSse
import AIRuntime.SynthesizedIds
import AIRuntime.CacheFingerprints
import AIRuntime.MetricsExposition
import AIRuntime.RequestTelemetry
import AIRuntime.BucketExpiry
import AIRuntime.QuotaWaits
import AIRuntime.AccessRuns
import AIRuntime.PromptCalls
