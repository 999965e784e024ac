/-
# Jobs read back from JSON

Whatever the jobs are, the value that is printed for them is read as the same jobs, also if another
program put the members of its objects in another order.

* `JobState.ofJson?_of_same`, `Tres.ofJson?_of_same` and `Job.ofJson?_of_same` say so of a state, a
  map of resources and a job;
* `json_faithful` puts this together for what the program prints.
-/
import NodeDemand.Proofs.Json.Reordering
import NodeDemand.Proofs.Result
import NodeDemand.Proofs.Tres.Map
import NodeDemand.Report.Basic

namespace NodeDemand

variable {w : Json}

/-! ### States and resources -/

/-- No code of an unknown state is taken for the name of a known one, because it stands in an
object. -/
lemma JobState.ofJson?_of_same {state : JobState} (h : Json.Same state.toJson w) :
    ofJson? w = some state := by
  cases state with
  | unknown code =>
    have hcode : ∀ m ∈ [("Unknown", Json.text code)], ∀ v, Json.Same m.2 v → v = m.2 := by
      intro m hm v hv
      obtain rfl := List.mem_singleton.1 hm
      exact hv.eq_text
    obtain ⟨ns, rfl, hperm⟩ := Json.Same.exists_perm h hcode
    rw [List.perm_singleton.1 hperm]
    exact ofJson?_toJson (unknown code)
  | _ =>
    rw [Json.Same.eq_text h]
    rfl

lemma Tres.ofJson?_of_same {t : Tres} (h : Json.Same t.toJson w) : ofJson? w = some t := by
  have hcount : ∀ m ∈ t.entries.map fun e => (e.1, Json.ofCount e.2),
      ∀ v, Json.Same m.2 v → v = m.2 := by
    intro m hm v hv
    obtain ⟨e, -, rfl⟩ := List.mem_map.1 hm
    exact hv.eq_ofCount
  obtain ⟨ns, rfl, hperm⟩ := Json.Same.exists_perm h hcount
  -- the members are those of some items, and these are the entries in another order
  have hentries : List.Forall₂ (fun m e => m = (e.1, Json.ofCount e.2))
      (t.entries.map fun e => (e.1, Json.ofCount e.2)) t.entries := by
    rw [List.forall₂_map_left_iff, List.forall₂_same]
    exact fun _ _ => rfl
  obtain ⟨items, hitems, hperm⟩ := List.perm_comp_forall₂ hperm hentries
  have hread : ns.mapM ofMember? = some items := by
    refine mapM_eq_some_of_forall₂ (hitems.imp ?_)
    rintro _ e rfl
    rw [ofMember?, Json.count?_ofCount]
    rfl
  rw [ofJson?, hread, Option.map_some, ofList_eq_of_perm hperm]

/-! ### Jobs -/

namespace Job

/-- The attributes of a job as values, in order. -/
def values (job : Job) : List Json :=
  [.text job.id, job.state.toJson, .ofCount job.nodes, .ofCount job.cpusTotal, .ofCount job.tasks,
    .ofCount job.cpusPerTask, .ofCount job.cpusMinPerNode, .text job.pendingReason,
    job.tresPerJob.toJson, job.tresPerTask.toJson, job.tresPerNode.toJson]

/-- A job is written as an object that binds the name of each attribute to its value. -/
lemma exists_members (job : Job) : ∃ ms, job.toJson = .object ms ∧ (ms.map Prod.fst).Nodup ∧
    List.Forall₂ (fun name v => ms.lookup name = some v) memberNames job.values := by
  refine ⟨_, rfl, ?_, ?_⟩
  · simp only [List.map_cons, List.map_nil]
    decide
  · simp [memberNames, values, List.lookup_cons]

lemma ofValues?_of_same {job : Job} {vs : List Json} (h : List.Forall₂ Json.Same job.values vs) :
    ofValues? vs = some job := by
  obtain - | ⟨hid, - | ⟨hstate, - | ⟨hnodes, - | ⟨hcpus, - | ⟨htasks, - | ⟨hperTask, - |
    ⟨hperNode, - | ⟨hreason, - | ⟨hjob, - | ⟨htask, - | ⟨hnode, ⟨⟩⟩⟩⟩⟩⟩⟩⟩⟩⟩⟩⟩ := h
  obtain rfl := hid.eq_text
  obtain rfl := hnodes.eq_ofCount
  obtain rfl := hcpus.eq_ofCount
  obtain rfl := htasks.eq_ofCount
  obtain rfl := hperTask.eq_ofCount
  obtain rfl := hperNode.eq_ofCount
  obtain rfl := hreason.eq_text
  simp only [ofValues?, Json.text?_text, Json.count?_ofCount, JobState.ofJson?_of_same hstate,
    Tres.ofJson?_of_same hjob, Tres.ofJson?_of_same htask, Tres.ofJson?_of_same hnode]
  rfl

lemma ofJson?_of_same {job : Job} (h : Json.Same job.toJson w) : ofJson? w = some job := by
  obtain ⟨ms, hjob, hnodup, hvalues⟩ := job.exists_members
  rw [hjob] at h
  obtain ⟨ns, rfl, vs, hvs, hsame⟩ := h.exists_lookups hnodup hvalues
  rw [ofJson?, hvs, Option.bind_some, ofValues?_of_same hsame]

end Job

/-! ### What is printed -/

namespace Report

/-- The list of jobs that a value is. -/
def readJobs? : Json → Option (List Job)
  | .array elements => elements.mapM Job.ofJson?
  | _ => none

/-- The list of pending jobs that a value is, with the number of nodes that it states. -/
def readPending? : Json → Option (List Job × UInt64)
  | .object members => do
    let jobs ← (members.lookup "jobs").bind readJobs?
    let nodes ← (members.lookup "required_nodes").bind Json.count?
    return (jobs, nodes)
  | _ => none

variable {jobs : List Job}

lemma readJobs?_of_same (h : Json.Same (jobsJson jobs) w) : readJobs? w = some jobs := by
  obtain ⟨vs, rfl, hvs⟩ := Json.Same.exists_array h
  rw [List.forall₂_map_left_iff] at hvs
  exact mapM_eq_some_of_forall₂ (hvs.imp fun _ _ hv => Job.ofJson?_of_same hv).flip

lemma readPending?_of_same (h : Json.Same (pendingJson jobs) w) :
    readPending? w = some (jobs, Requirement.totalNodes jobs) := by
  obtain ⟨ns, rfl, hlookup⟩ := Json.Same.exists_lookup h (by simp)
  obtain ⟨v, hv, hlist⟩ := hlookup "jobs" (jobsJson jobs) (by simp)
  obtain ⟨n, hn, hcount⟩ :=
    hlookup "required_nodes" (.ofCount (Requirement.totalNodes jobs)) (by simp [List.lookup_cons])
  have hjobs : (ns.lookup "jobs").bind readJobs? = some jobs := by
    rw [hv, Option.bind_some, readJobs?_of_same hlist]
  have hnodes : (ns.lookup "required_nodes").bind Json.count? =
      some (Requirement.totalNodes jobs) := by
    rw [hn, Option.bind_some, hcount.eq_ofCount, Json.count?_ofCount]
  rw [readPending?, hjobs, hnodes]
  rfl

/-- **JSON is read back as what was printed.**  What is printed for a list of jobs is a value that
is read as that list, in order, and what is printed for pending jobs is one that is read as them and
the number of nodes that they need together.  The order of the members does not matter, neither for
reading nor for telling lists apart: the values of two lists are the same only if the lists are. -/
theorem json_faithful (colored : Bool) (jobs : List Job) :
    (Form.json.jobs colored jobs = .silent (printedJson (jobsJson jobs)) ∧
      ∀ w, Json.Same (jobsJson jobs) w → readJobs? w = some jobs) ∧
    (Form.json.pending colored jobs = .silent (printedJson (pendingJson jobs)) ∧
      ∀ w, Json.Same (pendingJson jobs) w →
        readPending? w = some (jobs, Requirement.totalNodes jobs)) ∧
    ∀ others, (Json.Same (jobsJson jobs) (jobsJson others) ↔ jobs = others) ∧
      (Json.Same (pendingJson jobs) (pendingJson others) ↔ jobs = others) := by
  refine ⟨⟨rfl, fun w => readJobs?_of_same⟩, ⟨rfl, fun w => readPending?_of_same⟩, ?_⟩
  intro others
  refine ⟨⟨fun h => ?_, ?_⟩, ⟨fun h => ?_, ?_⟩⟩
  -- the value of the others is read as both lists
  · have hothers := readJobs?_of_same (.refl (jobsJson others))
    rw [readJobs?_of_same h, Option.some.injEq] at hothers
    exact hothers
  · rintro rfl
    exact .refl _
  · have hothers := readPending?_of_same (.refl (pendingJson others))
    rw [readPending?_of_same h, Option.some.injEq, Prod.mk.injEq] at hothers
    exact hothers.1
  · rintro rfl
    exact .refl _

/-- A job in an unknown state that has the code of a known one. -/
def oddJob : Job :=
  { id := "79"
    state := .unknown "PD"
    nodes := Count.greatest
    tresPerJob := Tres.ofList [("gpu", 4), ("license/matlab", 0)] }

/-- The job as a value whose members are in reverse order. -/
def oddJson : Json :=
  .object
    [("tres_per_task", .object []),
      ("tres_per_node", .object []),
      ("tres_per_job", .object [("license/matlab", .integer 0), ("gpu", .integer 4)]),
      ("tasks", .integer 0),
      ("state", .object [("Unknown", .text "PD")]),
      ("pending_reason", .text ""),
      ("nodes", .integer 18446744073709551615),
      ("id", .text "79"),
      ("cpus_total", .integer 0),
      ("cpus_per_task", .integer 0),
      ("cpus_min_per_node", .integer 0)]

theorem json_faithful_oddJob :
    Json.Same (jobsJson [oddJob]) (.array [oddJson]) ∧
      readJobs? (.array [oddJson]) = some [oddJob] := by
  have hmap : Json.Same oddJob.tresPerJob.toJson
      (.object [("license/matlab", .integer 0), ("gpu", .integer 4)]) :=
    .object (.swap _ _ _) rfl (List.forall₂_same.2 fun v _ => .refl v)
  have hjob : Json.Same oddJob.toJson oddJson :=
    .object (List.reverse_perm _).symm rfl
      (.cons (.refl _) (.cons (.refl _) (.cons hmap (List.forall₂_same.2 fun v _ => .refl v))))
  have hjobs : Json.Same (jobsJson [oddJob]) (.array [oddJson]) := .array (.cons hjob .nil)
  exact ⟨hjobs, (json_faithful false [oddJob]).1.2 _ hjobs⟩

end Report

end NodeDemand
