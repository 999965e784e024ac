/-
# What a document says about a cluster

A document describes a cluster if each of its keys is that of a setting, with a value that the
setting takes (`IsSetting`), and if no limit is zero.  No key occurs twice in a document, so the
order of the entries does not matter: what is described is what look-up finds under each key, or
the default (`read_eq_ok_iff`).
-/
import NodeDemand.Proofs.Toml.DistinctKeys
import NodeDemand.Cluster.Reader

namespace NodeDemand.Cluster

open NodeDemand.Toml

variable {base cluster : Cluster} {entries : Entries} {key : String} {v : Value}

/-! ### Values -/

lemma countValue?_eq_some_iff {n : UInt64} : countValue? v = some n ↔ v = .integer n.toNat := by
  cases v with
  | integer m =>
    simp only [countValue?, Option.ite_none_right_eq_some, Option.some.injEq, Value.integer.injEq]
    constructor
    · rintro ⟨⟨hnonneg, hlt⟩, rfl⟩
      rw [UInt64.toNat_ofNat_of_lt' (by omega), Int.toNat_of_nonneg hnonneg]
    · rintro rfl
      have hlt := n.toNat_lt_size
      exact ⟨⟨by omega, by omega⟩, by simp⟩
  | _ => simp [countValue?]

lemma signedValue?_eq_some_iff {n : Int64} : signedValue? v = some n ↔ v = .integer n.toInt := by
  cases v with
  | integer m =>
    simp only [signedValue?, Option.ite_none_right_eq_some, Option.some.injEq,
      Value.integer.injEq]
    constructor
    · rintro ⟨⟨hlow, hhigh⟩, rfl⟩
      exact (Int64.toInt_ofInt_of_le hlow (Int.lt_add_one_of_le hhigh)).symm
    · rintro rfl
      exact ⟨⟨n.minValue_le_toInt, n.toInt_le⟩, Int64.ofInt_toInt n⟩
  | _ => simp [signedValue?]

lemma textValue?_eq_some_iff {text : String} : textValue? v = some text ↔ v = .text text := by
  cases v <;> simp [textValue?]

lemma textValues?_eq_some_iff {texts : List String} :
    textValues? v = some texts ↔ v = .array (texts.map .text) := by
  cases v with
  | array vs =>
    rw [textValues?, Value.array.injEq]
    induction vs generalizing texts with
    | nil => simp [@eq_comm _ ([] : List String)]
    | cons v vs ih =>
      simp only [List.mapM_cons, Option.bind_eq_bind, Option.bind_eq_some_iff, ih,
        textValue?_eq_some_iff]
      cases texts <;> simp
  | _ => simp [textValues?]

lemma booleanValue?_eq_some_iff {b : Bool} : booleanValue? v = some b ↔ v = .boolean b := by
  cases v <;> simp [booleanValue?]

/-! ### Settings -/

/-- The names of the settings. -/
def keys : List String :=
  ["node_slots", "gpus_per_node", "max_slots", "max_nodes", "pending_reasons", "resource_reasons",
    "invalid_fields"]

/-- A key of a setting, with a value that the setting takes. -/
inductive IsSetting : String → Value → Prop
  | limit (limit : Limit) (n : UInt64) : IsSetting limit.name (.integer n.toNat)
  | gpusPerNode (n : Int64) : IsSetting "gpus_per_node" (.integer n.toInt)
  | pendingReasons (reasons : List String) :
      IsSetting "pending_reasons" (.array (reasons.map .text))
  | resourceReasons (b : Bool) : IsSetting "resource_reasons" (.boolean b)
  | invalidFields {v : Value} {policy : Policy} (h : policyValue? v = some policy) :
      IsSetting "invalid_fields" v

lemma IsSetting.mem_keys (h : IsSetting key v) : key ∈ keys := by
  cases h with
  | limit limit n => cases limit <;> decide
  | _ => decide

end NodeDemand.Cluster

namespace NodeDemand.Toml.Entries

variable {α : Type} {entries rest : Entries} {key other : String} {v : Value}

/-- What look-up finds under a key, if it is a value of the right kind. -/
def value? (read : Value → Option α) (key : String) (entries : Entries) : Option α :=
  (entries.lookup key).bind read

/-- A key that occurs once is found in the first entry or in the others. -/
lemma value?_cons (read : Value → Option α) (hnew : rest.lookup other = none) :
    value? read key ((other, v) :: rest) =
      (value? read key rest).or (value? read key [(other, v)]) := by
  unfold value?
  by_cases hkey : key = other
  · subst hkey
    simp [hnew]
  · simp [List.lookup_cons, beq_eq_false_iff_ne.2 hkey]

@[simp] lemma value?_singleton (read : Value → Option α) :
    value? read key [(other, v)] = if key = other then read v else none := by
  by_cases hkey : key = other
  · simp [value?, hkey]
  · simp [value?, List.lookup_cons, beq_eq_false_iff_ne.2 hkey, hkey]

end NodeDemand.Toml.Entries

namespace NodeDemand.Cluster

open NodeDemand.Toml

variable {base cluster : Cluster} {entries rest : Entries} {key : String} {v : Value}

/-- The limit of a cluster. -/
def limit? (cluster : Cluster) : Limit → Option UInt64
  | .nodeSlots => cluster.nodeSlots
  | .maxSlots => cluster.maxSlots
  | .maxNodes => cluster.maxNodes

/-- A description with the values that look-up finds among entries in their places. -/
def overlay (base : Cluster) (entries : Entries) : Cluster where
  nodeSlots := (entries.value? countValue? "node_slots").or base.nodeSlots
  gpusPerNode := (entries.value? signedValue? "gpus_per_node").getD base.gpusPerNode
  maxSlots := (entries.value? countValue? "max_slots").or base.maxSlots
  maxNodes := (entries.value? countValue? "max_nodes").or base.maxNodes
  pendingReasons := (entries.value? textValues? "pending_reasons").getD base.pendingReasons
  resourceReasons := (entries.value? booleanValue? "resource_reasons").getD base.resourceReasons
  invalidFields := (entries.value? policyValue? "invalid_fields").getD base.invalidFields

lemma overlay_nil (base : Cluster) : base.overlay [] = base := rfl

lemma overlay_cons (hnew : rest.lookup key = none) :
    base.overlay ((key, v) :: rest) = (base.overlay [(key, v)]).overlay rest := by
  simp only [overlay, Entries.value?_cons _ hnew, Option.or_assoc, Option.getD_or]

/-- The value of a setting is put in its place. -/
lemma setKey_of_isSetting (base : Cluster) (h : IsSetting key v) :
    base.setKey key v = some (base.overlay [(key, v)]) := by
  cases h with
  | limit limit n =>
    have hread : countValue? (.integer n.toNat) = some n := countValue?_eq_some_iff.2 rfl
    cases limit <;> simp [setKey, Limit.name, overlay, hread]
  | gpusPerNode n =>
    have hread : signedValue? (.integer n.toInt) = some n := signedValue?_eq_some_iff.2 rfl
    simp [setKey, overlay, hread]
  | pendingReasons reasons =>
    have hread : textValues? (.array (reasons.map .text)) = some reasons :=
      textValues?_eq_some_iff.2 rfl
    simp [setKey, overlay, hread]
  | resourceReasons b =>
    have hread : booleanValue? (.boolean b) = some b := rfl
    simp [setKey, overlay, hread]
  | invalidFields hread => simp [setKey, overlay, hread]

/-- Nothing else is. -/
lemma isSetting_of_setKey (h : base.setKey key v = some cluster) : IsSetting key v := by
  unfold setKey at h
  split at h
  -- the last case is that of a key which is not known
  case h_8 => exact absurd h (by simp)
  all_goals obtain ⟨a, hread, rfl⟩ := Option.map_eq_some_iff.1 h
  case h_1 => exact countValue?_eq_some_iff.1 hread ▸ .limit .nodeSlots a
  case h_2 => exact signedValue?_eq_some_iff.1 hread ▸ .gpusPerNode a
  case h_3 => exact countValue?_eq_some_iff.1 hread ▸ .limit .maxSlots a
  case h_4 => exact countValue?_eq_some_iff.1 hread ▸ .limit .maxNodes a
  case h_5 => exact textValues?_eq_some_iff.1 hread ▸ .pendingReasons a
  case h_6 => exact booleanValue?_eq_some_iff.1 hread ▸ .resourceReasons a
  case h_7 => exact .invalidFields hread

/-! ### All entries -/

/-- Entries describe a cluster exactly if all of them are settings; each value is then the one under
its key, or the one that was there before. -/
lemma foldlM_setKey_eq_some_iff (hdistinct : entries.Distinct) :
    entries.foldlM (fun cluster e => cluster.setKey e.1 e.2) base = some cluster ↔
      (∀ e ∈ entries, IsSetting e.1 e.2) ∧ base.overlay entries = cluster := by
  induction entries generalizing base with
  | nil => simp [overlay_nil]
  | cons e rest ih =>
    obtain ⟨key, v⟩ := e
    obtain ⟨hnew, hrest⟩ := List.nodup_cons.1 hdistinct
    -- the key does not occur again, so the entries that follow leave the value as it is
    have hlookup : rest.lookup key = none := Entries.lookup_eq_none_iff_not_mem.2 hnew
    rw [List.foldlM_cons, overlay_cons hlookup, List.forall_mem_cons]
    by_cases hsetting : IsSetting key v
    · rw [setKey_of_isSetting base hsetting, Option.bind_eq_bind, Option.bind_some, ih hrest]
      simp only [hsetting, true_and]
    · have hnone : base.setKey key v = none :=
        Option.eq_none_iff_forall_ne_some.2 fun _ h => hsetting (isSetting_of_setKey h)
      simp [hnone, hsetting]

/-! ### The first check -/

lemma zeroLimit?_eq_none_iff :
    cluster.zeroLimit? = none ↔ ∀ limit, cluster.limit? limit ≠ some 0 := by
  constructor
  · intro h limit
    unfold zeroLimit? at h
    split_ifs at h with hnodeSlots hmaxSlots hmaxNodes
    cases limit with
    | nodeSlots => exact hnodeSlots
    | maxSlots => exact hmaxSlots
    | maxNodes => exact hmaxNodes
  · intro h
    unfold zeroLimit?
    exact (if_neg (h .nodeSlots)).trans ((if_neg (h .maxSlots)).trans (if_neg (h .maxNodes)))

/-- The entries describe a cluster whose limits are positive. -/
structure Describes (entries : Entries) : Prop where
  /-- All of them are settings. -/
  settings : ∀ e ∈ entries, IsSetting e.1 e.2
  /-- No limit is zero. -/
  positive : ∀ limit : Limit, entries.lookup limit.name ≠ some (.integer 0)

lemma Describes.nil : Describes [] := ⟨by simp, by simp⟩

lemma value?_countValue?_eq_zero_iff : entries.value? countValue? key = some 0 ↔
    entries.lookup key = some (.integer 0) := by
  rw [Entries.value?, Option.bind_eq_some_iff]
  simp [countValue?_eq_some_iff]

lemma Describes.value?_ne_zero (h : Describes entries) (limit : Limit) :
    entries.value? countValue? limit.name ≠ some 0 :=
  mt value?_countValue?_eq_zero_iff.1 (h.positive limit)

lemma limit?_overlay (limit : Limit) :
    (overlay {} entries).limit? limit = entries.value? countValue? limit.name := by
  cases limit <;> exact Option.or_none

/-- The check of a description passes exactly if no limit is zero in the document. -/
lemma zeroLimit?_overlay_eq_none_iff : (overlay {} entries).zeroLimit? = none ↔
    ∀ limit : Limit, entries.lookup limit.name ≠ some (.integer 0) := by
  rw [zeroLimit?_eq_none_iff]
  refine forall_congr' fun limit => ?_
  rw [limit?_overlay, Ne, value?_countValue?_eq_zero_iff]

lemma ofEntries?_eq_some_iff {text : String} (hentries : Toml.read text = some entries) :
    ofEntries? entries = some cluster ↔
      (∀ e ∈ entries, IsSetting e.1 e.2) ∧ overlay {} entries = cluster :=
  foldlM_setKey_eq_some_iff (Toml.distinct_read hentries)

/-- An entry that is no setting makes a document malformed. -/
lemma read_eq_malformed {text : String} (hentries : Toml.read text = some entries)
    (h : ¬ ∀ e ∈ entries, IsSetting e.1 e.2) : read text = .error .malformed := by
  have hnone : ofEntries? entries = none :=
    Option.eq_none_iff_forall_ne_some.2 fun _ hsome =>
      h ((ofEntries?_eq_some_iff hentries).1 hsome).1
  simp only [read, hentries, Option.bind_some, hnone]

/-- A text describes a cluster if it is a document whose entries do. -/
theorem read_eq_ok_iff {text : String} : read text = .ok cluster ↔
    ∃ entries, Toml.read text = some entries ∧ Describes entries ∧
      overlay {} entries = cluster := by
  constructor
  · intro h
    unfold read at h
    split at h
    · exact absurd h (by simp)
    · rename_i described hread
      obtain ⟨entries, hentries, hfold⟩ := Option.bind_eq_some_iff.1 hread
      obtain ⟨hsettings, rfl⟩ := (ofEntries?_eq_some_iff hentries).1 hfold
      split at h
      · exact absurd h (by simp)
      · rename_i hpositive
        exact ⟨entries, hentries, ⟨hsettings, zeroLimit?_overlay_eq_none_iff.1 hpositive⟩,
          Except.ok.inj h⟩
  · rintro ⟨entries, hentries, ⟨hsettings, hpositive⟩, rfl⟩
    have hread : ofEntries? entries = some (overlay {} entries) :=
      (ofEntries?_eq_some_iff hentries).2 ⟨hsettings, rfl⟩
    simp only [read, hentries, Option.bind_some, hread,
      zeroLimit?_overlay_eq_none_iff.2 hpositive]

end NodeDemand.Cluster
