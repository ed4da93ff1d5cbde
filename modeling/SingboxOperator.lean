import SingboxOperator.Lib.GoMap
import SingboxOperator.Lib.Lists
import SingboxOperator.Lib.Digest
import SingboxOperator.Lib.Json
import SingboxOperator.Lib.GoStrings
import SingboxOperator.Lib.Value
import SingboxOperator.Lib.Changes
import SingboxOperator.Lib.Runs
import SingboxOperator.Lib.Reconcile
import SingboxOperator.Lib.WriteOnce
import SingboxOperator.Api
import SingboxOperator.Engine.Config
import SingboxOperator.Engine.Compute
import SingboxOperator.Engine.Spec
import SingboxOperator.Engine.Routing
import SingboxOperator.Engine.Denial
import SingboxOperator.Engine.Dependence
import SingboxOperator.Engine.Identity
import SingboxOperator.Engine.Separation
import SingboxOperator.Engine.Inert
import SingboxOperator.Engine.InactivePolicies
import SingboxOperator.Controller.Collect
import SingboxOperator.Controller.View
import SingboxOperator.Controller.Targets
import SingboxOperator.Controller.References
import SingboxOperator.Controller.Credentials
import SingboxOperator.Controller.ListOrder
import SingboxOperator.Controller.PolicyStatus
import SingboxOperator.Controller.Access
import SingboxOperator.Controller.Metering
import SingboxOperator.Controller.Relay
import SingboxOperator.Controller.PolicyReconciler
import SingboxOperator.Controller.UserReconciler
import SingboxOperator.Controller.UserStatus
import SingboxOperator.Controller.ActiveNodes
import SingboxOperator.Controller.Acceptance
import SingboxOperator.Controller.Surroundings
import SingboxOperator.Controller.Watches
import SingboxOperator.Controller.WakeUp
import SingboxOperator.Controller.SecretWakeUp
import SingboxOperator.Controller.Trigger
import SingboxOperator.Controller.PolicyRuns
import SingboxOperator.Controller.TornReads
import SingboxOperator.Controller.NodePasses
import SingboxOperator.Controller.ConfigRuns
import SingboxOperator.Controller.PassesEnd
import SingboxOperator.Controller.AcceptanceRuns
import SingboxOperator.Controller.NodeHealth
import SingboxOperator.Controller.Pod
import SingboxOperator.Controller.RelayCredential
import SingboxOperator.Controller.Rollout
import SingboxOperator.Controller.RolloutPasses
import SingboxOperator.Controller.Interrupted
import SingboxOperator.ApiServer.ClientConfig
import SingboxOperator.ApiServer.Template
import SingboxOperator.ApiServer.Paths
import SingboxOperator.ApiServer.Resolution
import SingboxOperator.ApiServer.Advertised
import SingboxOperator.ApiServer.Outbounds
import SingboxOperator.ApiServer.Availability
import SingboxOperator.ApiServer.Merge
import SingboxOperator.ApiServer.Rejects
import SingboxOperator.ApiServer.Legacy
import SingboxOperator.ApiServer.ManagedDNS
import SingboxOperator.ApiServer.PolicyTraffic
import SingboxOperator.ApiServer.Endpoint
import SingboxOperator.ApiServer.Deployed
import SingboxOperator.ApiServer.ServerTLS
import SingboxOperator.Webhook.Validation
import SingboxOperator.Webhook.Admitted
import SingboxOperator.Webhook.AdmissionRuns
import SingboxOperator.Usage.Collector
import SingboxOperator.Usage.CounterNames
import SingboxOperator.Usage.Delivery
import SingboxOperator.Usage.Elasticsearch
import SingboxOperator.Usage.Discovery
import SingboxOperator.Usage.Attribution
import SingboxOperator.Usage.Aggregation
import SingboxOperator.Usage.DataStream
