import ServiceTunnel.Simulation.Cloud
import ServiceTunnel.Simulation.Cluster
import ServiceTunnel.Simulation.Fault
import ServiceTunnel.Simulation.Planned

/-!
# ServiceTunnel.Simulation.World

**Running the operator's programs over values.** A world is a cloud and a cluster, with rules by
which calls fail, a time that machines take to start, and changes by others that wait for the
operator to look at a Service. Every call is noted before anything else happens.
-/

namespace ServiceTunnel

namespace ProviderCall

/-- The name of a call in the log and in rules. -/
def name : ProviderCall → String
  | .ensureApp .. => "ensure_app"
  | .deleteApp .. => "delete_app"
  | .createMachine .. => "create_machine"
  | .getMachine .. => "get_machine"
  | .updateMachine .. => "update_machine"
  | .deleteMachine .. => "delete_machine"
  | .waitForMachine .. => "wait_for_machine"
  | .allocateIp .. => "allocate_ipv4"
  | .releaseIp .. => "release_ip"
  | .listIps .. => "list_ips"

end ProviderCall

namespace WorkloadCall

/-- The name of a call in the log and in rules. -/
def name : WorkloadCall → String
  | .applyConfigMap .. => "apply_config_map"
  | .applyDeployment .. => "apply_deployment"
  | .deleteDeployment .. => "delete_deployment"
  | .deleteConfigMap .. => "delete_config_map"

end WorkloadCall

namespace ServiceCall

/-- The name of a call in the log and in rules. -/
def name : ServiceCall → String
  | .get .. => "get"
  | .setFinalizers .. => "set_finalizers"
  | .patchAnnotations .. => "patch_annotations"
  | .patchIngress .. => "patch_ingress"

end ServiceCall

namespace Simulation

open Kube

/-- Everything around the operator. -/
structure World where
  cloud : Cloud := {}
  cluster : Cluster := {}
  providerRules : List (Rule ProviderError) := []
  clusterRules : List (Rule OperatorError) := []
  /-- How many milliseconds a machine takes to start. -/
  startDelay : Nat := 0
  /-- Changes by others that wait for look-ups of a Service. -/
  hooks : List (Planned ObjectKey Cluster.Change) := []
  /-- The calls made, in order. -/
  log : List Call := []

namespace World

instance : Inhabited World := ⟨{}⟩

/-- Whether the call takes longer than `limit` milliseconds. -/
def exceeds (w : World) (limit : Nat) : ProviderCall → Bool
  | .waitForMachine .. => limit < w.startDelay
  | _ => false

/-- The error with which a call to the provider fails, if a rule says so. -/
def consultProvider (w : World) (name : String) : Option ProviderError × World :=
  let (fault, rules) := Rule.consult name w.providerRules
  (fault, { w with providerRules := rules })

/-- The error with which a call to the cluster fails, if a rule says so. -/
def consultCluster (w : World) (name : String) : Option OperatorError × World :=
  let (fault, rules) := Rule.consult name w.clusterRules
  (fault, { w with clusterRules := rules })

/-- Lets the cloud answer a call. -/
def answerProvider (w : World) (c : ProviderCall) : Except ProviderError c.Result × World :=
  let (r, cloud) := w.cloud.perform c
  (r, { w with cloud := cloud })

/-- Answers a call to the provider. -/
def performProvider (w : World) (c : ProviderCall) : Except ProviderError c.Result × World :=
  match w.consultProvider c.name with
  | (some e, w) => (.error e, w)
  | (none, w) => w.answerProvider c

/-- Answers a call to the provider, unless it takes longer than `limit` milliseconds. -/
def performWithin (w : World) (limit : Nat) (c : ProviderCall) :
    Option (Except ProviderError c.Result) × World :=
  match w.consultProvider c.name with
  | (some e, w) => (some (.error e), w)
  | (none, w) =>
    if w.exceeds limit c then (none, w)
    else
      let (r, w) := w.answerProvider c
      (some r, w)

/-- Makes the changes that are due at a look-up of `key`. -/
def fireHooks (w : World) (key : ObjectKey) : World :=
  let (due, hooks) := Planned.occur key w.hooks
  { w with hooks := hooks, cluster := due.foldl (·.change key ·) w.cluster }

/-- Answers a call about a Service. -/
def performService (w : World) (c : ServiceCall) : Except OperatorError c.Result × World :=
  match w.consultCluster c.name with
  | (some e, w) => (.error e, w)
  | (none, w) =>
    let (r, cluster) := w.cluster.performService c
    let w := { w with cluster := cluster }
    match c with
    | .get ns name => (r, w.fireHooks ⟨ns, name⟩)
    | _ => (r, w)

/-- Answers a call about the client of a tunnel. -/
def performWorkload (w : World) (c : WorkloadCall) : Except OperatorError Unit × World :=
  match w.consultCluster c.name with
  | (some e, w) => (.error e, w)
  | (none, w) => (.ok (), { w with cluster := w.cluster.performWorkload c })

/-- Notes a call. -/
def note (w : World) (c : Call) : World := { w with log := w.log ++ [c] }

/-- Notes a call and answers it. -/
def perform (c : Call) (w : World) : c.Reply × World :=
  match c with
  | .provider c => (w.note (.provider c)).performProvider c
  | .providerWithin limit c => (w.note (.providerWithin limit c)).performWithin limit c
  | .workload c => (w.note (.workload c)).performWorkload c
  | .service c => (w.note (.service c)).performService c

/-- Runs a program of the operator. -/
def run {α : Type} (w : World) (p : Operation α) : α × World := p.run perform w

end World

end Simulation

end ServiceTunnel
