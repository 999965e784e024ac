/-
# The description that a request works with

A request works with the description in the file that it names, or with the default one, and its
own values take the place of those (`effective_iff`).  The file is checked as it is, before any
value is replaced, so a file that is refused is refused for every request; and since a request gives
positive limits only, the result passes the same check (`cluster_effective`).
-/
import NodeDemand.Proofs.Candidates
import NodeDemand.Proofs.Cluster.Settings
import NodeDemand.Proofs.Lookup
import NodeDemand.Proofs.Options.Limits
import NodeDemand.Proofs.Source.StateFilter

namespace NodeDemand

/-! ### Jobs of a cluster -/

namespace Cluster

variable {cluster : Cluster} {job : Job}

/-- A job is one for a cluster if it is within the limits that are set, and if it is pending for
one of the reasons that select jobs, of which there may be none. -/
structure Admits (cluster : Cluster) (job : Job) : Prop where
  /-- A node can give the CPUs that the job needs on each node. -/
  slots : ∀ most, cluster.maxSlots = some most → job.cpusMinPerNode.toNat ≤ most.toNat
  /-- The cluster can give the nodes. -/
  nodes : ∀ most, cluster.maxNodes = some most → job.nodes.toNat ≤ most.toNat
  /-- The pending reason is listed, or is one of waiting for resources where these count. -/
  reason : cluster.pendingReasons = [] ∧ cluster.resourceReasons = false ∨
    job.pendingReason ∈ cluster.pendingReasons ∨
    cluster.resourceReasons = true ∧ job.pendingReason ∈ NodeDemand.resourceReasons

lemma mem_reasons_iff {reason : String} : reason ∈ cluster.reasons ↔
    reason ∈ cluster.pendingReasons ∨
      cluster.resourceReasons = true ∧ reason ∈ NodeDemand.resourceReasons := by
  cases h : cluster.resourceReasons <;> simp [reasons, h]

lemma reasons_eq_nil_iff : cluster.reasons = [] ↔
    cluster.pendingReasons = [] ∧ cluster.resourceReasons = false := by
  cases h : cluster.resourceReasons <;> simp [reasons, h, NodeDemand.resourceReasons]

lemma accepts_criteria_iff : cluster.criteria.accepts job = true ↔ cluster.Admits job := by
  rw [Criteria.accepts_iff]
  by_cases hnil : cluster.reasons = []
  · have hnone : cluster.criteria.reasons = none := by simp [criteria, hnil]
    constructor
    · exact fun h => ⟨h.slots, h.nodes, .inl (reasons_eq_nil_iff.1 hnil)⟩
    · refine fun h => ⟨h.slots, h.nodes, fun reasons hreasons => ?_⟩
      exact absurd (hnone.symm.trans hreasons) (by simp)
  · have hsome : cluster.criteria.reasons = some cluster.reasons := by simp [criteria, hnil]
    constructor
    · exact fun h => ⟨h.slots, h.nodes, .inr (mem_reasons_iff.1 (h.reason _ hsome hnil))⟩
    · refine fun h => ⟨h.slots, h.nodes, fun reasons hreasons _ => ?_⟩
      obtain rfl := Option.some.inj (hsome.symm.trans hreasons)
      exact mem_reasons_iff.2 (h.reason.resolve_left (mt reasons_eq_nil_iff.2 hnil))

/-! ### The file -/

lemma load_of_text {world : World} {path text : String} (htext : world.readText path = .ok text) :
    load world path = (read text).mapError .cluster := by
  rw [load, htext]
  rfl

lemma load_eq_ok_iff {world : World} {path : String} : load world path = .ok cluster ↔
    ∃ text, world.readText path = .ok text ∧ read text = .ok cluster := by
  rw [load, bind_eq_ok_iff]
  simp only [mapError_eq_ok_iff]

end Cluster

namespace PendingRequest

variable {world : World} {request : PendingRequest} {path text : String}
  {entries : Toml.Entries} {cluster : Cluster}

/-- The entries that count for a request are those of the file that it names; without a file there
are none. -/
inductive Consults (world : World) (request : PendingRequest) : Toml.Entries → Prop
  | nothing (hconfig : request.config = none) : Consults world request []
  | file {path text : String} {entries : Toml.Entries} (hconfig : request.config = some path)
      (htext : world.readText path = .ok text) (hentries : Toml.read text = some entries) :
      Consults world request entries

/-- The description has the values of a request, of entries, or the default ones, in this order.
Reasons replace those of the entries, if there are any. -/
structure Effective (request : PendingRequest) (entries : Toml.Entries) (cluster : Cluster) :
    Prop where
  limit : ∀ limit, cluster.limit? limit =
    (request.limit? limit).or (entries.value? Cluster.countValue? limit.name)
  gpusPerNode : cluster.gpusPerNode =
    (request.gpusPerNode.or (entries.value? Cluster.signedValue? "gpus_per_node")).getD 0
  pendingReasons : cluster.pendingReasons =
    if request.reasons = [] then (entries.value? Cluster.textValues? "pending_reasons").getD []
    else request.reasons
  resourceReasons : cluster.resourceReasons = true ↔ request.resourceReasons = true ∨
    entries.value? Cluster.booleanValue? "resource_reasons" = some true
  invalidFields : cluster.invalidFields =
    (request.invalidFields.or (entries.value? Cluster.policyValue? "invalid_fields")).getD .reject

lemma effective_override (request : PendingRequest) (entries : Toml.Entries) :
    request.Effective entries (request.override (Cluster.overlay {} entries)) where
  limit limit := by
    cases limit <;>
      simp [override, Cluster.limit?, limit?, Cluster.overlay, Cluster.Limit.name]
  gpusPerNode := by simp [override, Cluster.overlay, Option.getD_or]
  pendingReasons := by simp [override, Cluster.overlay]
  resourceReasons := by
    simp [override, Cluster.overlay, or_comm, Option.getD_eq_iff]
  invalidFields := by simp [override, Cluster.overlay, Option.getD_or]

lemma Effective.unique {cluster' : Cluster} (h : request.Effective entries cluster)
    (h' : request.Effective entries cluster') : cluster = cluster' := by
  obtain ⟨nodeSlots, gpus, maxSlots, maxNodes, reasons, resource, policy⟩ := cluster
  rw [Cluster.mk.injEq]
  exact ⟨(h.limit .nodeSlots).trans (h'.limit .nodeSlots).symm,
    h.gpusPerNode.trans h'.gpusPerNode.symm, (h.limit .maxSlots).trans (h'.limit .maxSlots).symm,
    (h.limit .maxNodes).trans (h'.limit .maxNodes).symm,
    h.pendingReasons.trans h'.pendingReasons.symm,
    Bool.eq_iff_iff.2 (h.resourceReasons.trans h'.resourceReasons.symm),
    h.invalidFields.trans h'.invalidFields.symm⟩

/-- A request replaces values of the description that entries give. -/
lemma effective_iff : request.Effective entries cluster ↔
    request.override (Cluster.overlay {} entries) = cluster := by
  constructor
  · exact fun h => (effective_override request entries).unique h
  · rintro rfl
    exact effective_override request entries

/-! ### The result -/

lemma cluster_of_config_eq_none (hconfig : request.config = none) :
    request.cluster world = .ok (request.override {}) := by
  rw [cluster, baseCluster, hconfig]
  rfl

lemma cluster_of_config (hconfig : request.config = some path) :
    request.cluster world = (Cluster.load world path).map request.override := by
  rw [PendingRequest.cluster, baseCluster, hconfig]

lemma cluster_of_text (hconfig : request.config = some path)
    (htext : world.readText path = .ok text) :
    request.cluster world = ((Cluster.read text).mapError .cluster).map request.override := by
  rw [cluster_of_config hconfig, Cluster.load_of_text htext]

lemma cluster_eq_error_iff {failure : Failure} : request.cluster world = .error failure ↔
    ∃ path, request.config = some path ∧ Cluster.load world path = .error failure := by
  cases hconfig : request.config with
  | none => simp [cluster_of_config_eq_none hconfig]
  | some path =>
    rw [cluster_of_config hconfig]
    cases hload : Cluster.load world path <;> simp [hload, Except.map]

lemma cluster_eq_ok_iff : request.cluster world = .ok cluster ↔
    ∃ entries, request.Consults world entries ∧ Cluster.Describes entries ∧
      request.Effective entries cluster := by
  simp only [effective_iff]
  constructor
  · intro h
    cases hconfig : request.config with
    | none =>
      rw [cluster_of_config_eq_none hconfig, Except.ok.injEq] at h
      exact ⟨[], .nothing hconfig, .nil, h⟩
    | some path =>
      rw [cluster_of_config hconfig, map_eq_ok_iff] at h
      obtain ⟨described, hload, hoverride⟩ := h
      obtain ⟨text, htext, hread⟩ := Cluster.load_eq_ok_iff.1 hload
      obtain ⟨entries, hentries, hdescribes, rfl⟩ := Cluster.read_eq_ok_iff.1 hread
      exact ⟨entries, .file hconfig htext hentries, hdescribes, hoverride⟩
  · rintro ⟨entries, hconsults, hdescribes, rfl⟩
    cases hconsults with
    | nothing hconfig => exact cluster_of_config_eq_none hconfig
    | file hconfig htext hentries =>
      rw [cluster_of_text hconfig htext,
        Cluster.read_eq_ok_iff.2 ⟨entries, hentries, hdescribes, rfl⟩]
      rfl

/-- A file that does not describe a cluster is refused whatever the request gives. -/
lemma exists_cluster_eq_error (hconfig : request.config = some path)
    (htext : world.readText path = .ok text) (hentries : Toml.read text = some entries)
    (h : ¬ Cluster.Describes entries) : ∃ error, request.cluster world = .error (.cluster error) := by
  rw [cluster_of_text hconfig htext]
  cases hread : Cluster.read text with
  | error error => exact ⟨error, rfl⟩
  | ok described =>
    obtain ⟨entries', hentries', hdescribes, -⟩ := Cluster.read_eq_ok_iff.1 hread
    obtain rfl := Option.some.inj (hentries.symm.trans hentries')
    exact absurd hdescribes h

/-- The limits of the result are those of the request, which are positive, or those of the file,
which have been checked. -/
lemma Effective.zeroLimit?_eq_none (h : request.Effective entries cluster)
    (hlimits : request.HasPositiveLimits) (hdescribes : Cluster.Describes entries) :
    cluster.zeroLimit? = none := by
  refine Cluster.zeroLimit?_eq_none_iff.2 fun limit hzero => ?_
  rw [h.limit limit, Option.or_eq_some_iff] at hzero
  obtain hgiven | ⟨-, hfile⟩ := hzero
  · exact hlimits limit hgiven
  · exact hdescribes.value?_ne_zero limit hfile

/-- **The description that a request works with.**  A request fails exactly if it names a file whose
description cannot be loaded, with the same failure.  Otherwise it works with its own values, where
it gives any, then those of the file, then the default ones; its reasons replace those of the file
if there are any, and waiting for resources counts if the request or the file says so.

A file in which a limit is zero or a key is not known is refused whatever the request gives in its
place.  The result passes the check of a description though only the file has been checked, and its
criteria accept the jobs that are within the limits and pending for one of the reasons. -/
theorem cluster_effective (world : World) (request : PendingRequest)
    (hlimits : request.HasPositiveLimits) :
    (∀ failure, request.cluster world = .error failure ↔
      ∃ path, request.config = some path ∧ Cluster.load world path = .error failure) ∧
    (∀ cluster, request.cluster world = .ok cluster ↔
      ∃ entries, request.Consults world entries ∧ Cluster.Describes entries ∧
        request.Effective entries cluster) ∧
    (∀ path text entries, request.config = some path → world.readText path = .ok text →
      Toml.read text = some entries →
      ((∃ limit : Cluster.Limit, (limit.name, Toml.Value.integer 0) ∈ entries) →
        ∃ error, request.cluster world = .error (.cluster error)) ∧
      ((∃ e ∈ entries, e.1 ∉ Cluster.keys) →
        request.cluster world = .error (.cluster .malformed))) ∧
    (∀ cluster, request.cluster world = .ok cluster →
      cluster.zeroLimit? = none ∧
      ∀ job, cluster.criteria.accepts job = true ↔ cluster.Admits job) := by
  refine ⟨fun failure => cluster_eq_error_iff, fun cluster => cluster_eq_ok_iff, ?_, ?_⟩
  · intro path text entries hconfig htext hentries
    constructor
    · rintro ⟨limit, hzero⟩
      refine exists_cluster_eq_error hconfig htext hentries fun hdescribes => ?_
      exact hdescribes.positive limit
        ((lookup_eq_some_iff_mem (Toml.distinct_read hentries)).2 hzero)
    · rintro ⟨e, he, hunknown⟩
      rw [cluster_of_text hconfig htext,
        Cluster.read_eq_malformed hentries fun h => hunknown (h e he).mem_keys]
      rfl
  · intro cluster hcluster
    obtain ⟨entries, -, hdescribes, heffective⟩ := cluster_eq_ok_iff.1 hcluster
    exact ⟨heffective.zeroLimit?_eq_none hlimits hdescribes, fun job => Cluster.accepts_criteria_iff⟩

/-- A description of a cluster with licences to wait for. -/
def licensedCluster : String :=
  "node_slots = 4\ngpus_per_node = 2\nmax_nodes = 10\npending_reasons = [\"Licenses\"]\n"

/-- A world in which every file holds that description. -/
def licensedWorld : World where
  file _ := .ok (Utf8.encode licensedCluster)
  run _ := .error .notFound

/-- A request that gives larger nodes without graphics processors. -/
def largeNodes : PendingRequest where
  config := some "cluster"
  nodeSlots := some 48
  gpusPerNode := some (-1)
  resourceReasons := true

/-- The description that this request works with in that world. -/
def largeCluster : Cluster where
  nodeSlots := some 48
  gpusPerNode := -1
  maxNodes := some 10
  pendingReasons := ["Licenses"]
  resourceReasons := true

/-- Some values come from the command line, and the others from the file. -/
theorem cluster_effective_largeNodes :
    Options.read {} ["pending", "--config", "cluster", "--node-slots", "48", "--gpus-per-node",
      "-1", "--resource-reasons"] = .ok { request := .pending largeNodes } ∧
    largeNodes.HasPositiveLimits ∧
    largeNodes.cluster licensedWorld = .ok largeCluster ∧
    largeCluster.zeroLimit? = none ∧
    ∀ job, largeCluster.criteria.accepts job = true ↔ largeCluster.Admits job := by
  have hread : Options.read {} ["pending", "--config", "cluster", "--node-slots", "48",
      "--gpus-per-node", "-1", "--resource-reasons"] =
        .ok { request := .pending largeNodes } := by decide +kernel
  have hlimits := Options.hasPositiveLimits_of_read hread rfl
  have htext : licensedWorld.readText "cluster" = .ok licensedCluster :=
    Source.readText_encode (by decide) rfl
  have hcluster : largeNodes.cluster licensedWorld = .ok largeCluster := by
    rw [cluster_of_text rfl htext]
    decide +kernel
  exact ⟨hread, hlimits, hcluster,
    (cluster_effective licensedWorld largeNodes hlimits).2.2.2 _ hcluster⟩

end PendingRequest

end NodeDemand
