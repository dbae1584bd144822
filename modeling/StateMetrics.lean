import StateMetrics.Admission.Scope
import StateMetrics.Api.Exchange
import StateMetrics.Main
import StateMetrics.Proofs.Block.Checked
import StateMetrics.Proofs.Block.Extent
import StateMetrics.Proofs.Block.Neighbours
import StateMetrics.Proofs.Block.OrderedMap
import StateMetrics.Proofs.Block.Range
import StateMetrics.Proofs.Block.RoundTrip
import StateMetrics.Proofs.Distinction
import StateMetrics.Proofs.Fragment
import StateMetrics.Proofs.Framing
import StateMetrics.Proofs.Reconcile.Convergence
import StateMetrics.Proofs.Reconcile.DocumentWrites
import StateMetrics.Proofs.Reconcile.Footprint
import StateMetrics.Proofs.Reconcile.Gauge
import StateMetrics.Proofs.Reconcile.Memory
import StateMetrics.Proofs.Reconcile.Readiness
import StateMetrics.Proofs.Reconcile.Rest
import StateMetrics.Proofs.Reconcile.Retries
import StateMetrics.Proofs.Reconcile.Targets
import StateMetrics.Proofs.Reconcile.Undisturbed
import StateMetrics.Proofs.Transition
import StateMetrics.Reconcile.Entry
import StateMetrics.Resource
import StateMetrics.Selector.Reading
import StateMetrics.Store.Bench
import StateMetrics.Store.Trial
import StateMetrics.Proofs.Reconcile.Retries
