import HyperfluxNext.Bridge.RuntimeIdentity
import HyperfluxNext.Restoration.Replanning

namespace HyperfluxNext

open FilePersistenceStore List Procedure

section Sorting

variable {α κ : Type} {cmp : κ → κ → Ordering} [Std.TransCmp cmp] {key : α → κ}

theorem sortBy_pairwise (l : List α) : (sortBy cmp key l).Pairwise fun a b => (cmp (key a) (key b)).isLE := by
  have htotal : Std.Total fun a b : α => ((cmp (key a) (key b)).isLE : Prop) := by
    refine ⟨fun a b => ?_⟩
    have hswap : cmp (key b) (key a) = (cmp (key a) (key b)).swap := Std.OrientedCmp.eq_swap
    rw [hswap]
    cases cmp (key a) (key b) <;> simp
  have htrans : IsTrans α fun a b => ((cmp (key a) (key b)).isLE : Prop) :=
    ⟨fun _ _ _ h h' => Std.TransCmp.isLE_trans h h'⟩
  exact pairwise_insertionSort (fun a b => (cmp (key a) (key b)).isLE) l

omit [Std.TransCmp cmp] in
theorem strictlyOrderedBy_of_pairwise {l : List α}
    (h : l.Pairwise fun a b => cmp (key a) (key b) = .lt) : strictlyOrderedBy cmp key l := by
  induction l with
  | nil => rfl
  | cons a l ih =>
    obtain ⟨hfirst, hrest⟩ := pairwise_cons.mp h
    cases l with
    | nil => rfl
    | cons b rest =>
      have hlater := ih hrest
      simp only [strictlyOrderedBy, Bool.decide_and, Bool.and_eq_true, decide_eq_true_eq]
      exact ⟨hfirst b mem_cons_self, hlater⟩

theorem strictlyOrderedBy_sortBy [Std.LawfulEqCmp cmp] {l : List α} (h : (l.map key).Nodup) :
    strictlyOrderedBy cmp key (sortBy cmp key l) := by
  have hdistinct : ((sortBy cmp key l).map key).Nodup := ((sortBy_perm _ _ _).map key).nodup_iff.mpr h
  rw [nodup_iff_pairwise_ne, pairwise_map] at hdistinct
  refine strictlyOrderedBy_of_pairwise (((sortBy_pairwise l).and hdistinct).imp ?_)
  intro a b ⟨hle, hne⟩
  cases hcmp : cmp (key a) (key b) with
  | lt => rfl
  | eq => exact absurd (Std.LawfulEqCmp.eq_of_compare hcmp) hne
  | gt =>
    rw [hcmp] at hle
    cases hle

/-- What is before everything else comes first. -/
theorem sortBy_first {l : List α} {first : α} (hmem : first ∈ l)
    (hleast : ∀ x ∈ l, x ≠ first → cmp (key first) (key x) = .lt) :
    (sortBy cmp key l).take 1 = [first] := by
  have hperm := sortBy_perm cmp key l
  have hsorted : (sortBy cmp key l).Pairwise fun a b => (cmp (key a) (key b)).isLE := sortBy_pairwise l
  cases hs : sortBy cmp key l with
  | nil =>
    have hin := hperm.mem_iff.mpr hmem
    rw [hs] at hin
    cases hin
  | cons a rest =>
    rw [hs] at hsorted hperm
    by_cases heq : a = first
    · rw [heq]
      rfl
    have hlt := hleast a (hperm.mem_iff.mp mem_cons_self) heq
    have hlater : first ∈ rest := (mem_cons.mp (hperm.mem_iff.mpr hmem)).resolve_left fun h => heq h.symm
    have hle := (pairwise_cons.mp hsorted).1 first hlater
    have hswap : cmp (key first) (key a) = (cmp (key a) (key first)).swap := Std.OrientedCmp.eq_swap
    rw [hswap] at hlt
    cases hcmp : cmp (key a) (key first) with
    | lt | eq =>
      rw [hcmp] at hlt
      cases hlt
    | gt =>
      rw [hcmp] at hle
      cases hle

end Sorting

instance {α β : Type} [Ord α] [Ord β] [Std.LawfulEqOrd α] [Std.LawfulEqOrd β] :
    Std.LawfulEqCmp (comparePair (α := α) (β := β)) where
  compare_self := by
    intro pair
    simp [comparePair]
  eq_of_compare := by
    intro left right h
    unfold comparePair at h
    rw [Ordering.then_eq_eq] at h
    exact Prod.ext (Std.LawfulEqCmp.eq_of_compare h.1) (Std.LawfulEqCmp.eq_of_compare h.2)

/-- What a document needs to pass the check once it is in canonical order. -/
structure DocumentFits (maxReceivers : Nat) (document : BridgePersistenceDocument) : Prop where
  policies : document.policies.length ≤ maxReceivers
  policyKeys : (document.policies.map (·.receiverId)).Nodup
  policySchemas : ∀ policy ∈ document.policies, policy.schemaVersion = currentSchemaVersion
  entryKeys : (document.stableEntries.map entryKey).Nodup
  entrySchemas : ∀ entry ∈ document.stableEntries, entry.schemaVersion = currentSchemaVersion
  claims : (document.restoreRecords.map (·.claimId)).Nodup
  recordSchemas : ∀ record ∈ document.restoreRecords, record.schemaVersion = currentSchemaVersion
  receivers : (documentReceivers document).length ≤ maxReceivers
  entryCounts : ∀ receiverId,
    document.stableEntries.countP (·.receiverId = receiverId) ≤ maxStableEntriesPerReceiver
  recordCounts : ∀ receiverId,
    document.restoreRecords.countP (·.receiverId = receiverId) ≤ maxRestoreRecordsPerReceiver

theorem documentReceivers_perm {document document' : BridgePersistenceDocument}
    (hpolicies : document'.policies.Perm document.policies)
    (hentries : document'.stableEntries.Perm document.stableEntries)
    (hrecords : document'.restoreRecords.Perm document.restoreRecords) :
    (documentReceivers document').Perm (documentReceivers document) :=
  (((hpolicies.map _).append (hentries.map _)).append (hrecords.map _)).dedup

theorem DocumentFits.canonical {maxReceivers : Nat} {document : BridgePersistenceDocument}
    (h : DocumentFits maxReceivers document) :
    validateDocument maxReceivers (canonicalize document) = .ok () := by
  have hpolicies : (canonicalize document).policies.Perm document.policies := sortBy_perm _ _ _
  have hentries : (canonicalize document).stableEntries.Perm document.stableEntries := sortBy_perm _ _ _
  have hrecords : (canonicalize document).restoreRecords.Perm document.restoreRecords := sortBy_perm _ _ _
  have hreceivers := documentReceivers_perm hpolicies hentries hrecords
  have hkeys : (document.restoreRecords.map recordKey).Nodup := by
    refine List.Nodup.of_map Prod.snd ?_
    rw [map_map]
    exact h.claims
  have hpolicyOrder : strictlyOrderedBy compare (·.receiverId) (canonicalize document).policies :=
    strictlyOrderedBy_sortBy h.policyKeys
  have hentryOrder : strictlyOrderedBy comparePair entryKey (canonicalize document).stableEntries :=
    strictlyOrderedBy_sortBy h.entryKeys
  have hrecordOrder : strictlyOrderedBy comparePair recordKey (canonicalize document).restoreRecords :=
    strictlyOrderedBy_sortBy hkeys
  have hschemas : ∀ {α : Type} {l l' : List α} {version : α → PersistenceSchemaVersion}, l'.Perm l →
      (∀ x ∈ l, version x = currentSchemaVersion) → ¬ l'.any (version · ≠ currentSchemaVersion) = true := by
    intro α l l' version hperm hall hany
    obtain ⟨x, hx, hne⟩ := any_eq_true.mp hany
    exact of_decide_eq_true hne (hall x (hperm.mem_iff.mp hx))
  have hcounts : ¬ (documentReceivers (canonicalize document)).any (fun receiverId =>
      (canonicalize document).stableEntries.countP (·.receiverId = receiverId) > maxStableEntriesPerReceiver ∨
        (canonicalize document).restoreRecords.countP (·.receiverId = receiverId) >
          maxRestoreRecordsPerReceiver) = true := by
    intro hany
    obtain ⟨receiverId, _, hover⟩ := any_eq_true.mp hany
    have hentryCount := h.entryCounts receiverId
    have hrecordCount := h.recordCounts receiverId
    rw [← hentries.countP_eq] at hentryCount
    rw [← hrecords.countP_eq] at hrecordCount
    obtain hover | hover := of_decide_eq_true hover
    · exact Nat.not_lt.mpr hentryCount hover
    · exact Nat.not_lt.mpr hrecordCount hover
  unfold validateDocument
  rw [reject_of_not (Nat.not_lt.mpr (hpolicies.length_eq ▸ h.policies)),
    reject_of_not (not_not.mpr hpolicyOrder), reject_of_not (hschemas hpolicies h.policySchemas),
    reject_of_not (not_not.mpr hentryOrder), reject_of_not (hschemas hentries h.entrySchemas),
    reject_of_not (not_not.mpr hrecordOrder),
    reject_of_not (not_not.mpr ((hrecords.map _).nodup_iff.mpr h.claims)),
    reject_of_not (hschemas hrecords h.recordSchemas),
    reject_of_not (Nat.not_lt.mpr (hreceivers.length_eq ▸ h.receivers)), reject_of_not hcounts]
  rfl

theorem FilePersistenceStore.Valid.fits {store : FilePersistenceStore} (h : store.Valid) :
    DocumentFits store.maxReceivers store.document := by
  have hsound := h.sound
  obtain ⟨hpolicyKeys, hentryKeys⟩ := validateDocument_distinct h
  unfold Valid validateDocument at h
  obtain ⟨_, hpolicies, h⟩ := bind_eq_ok h
  obtain ⟨_, _, h⟩ := bind_eq_ok h
  obtain ⟨_, hpolicySchemas, h⟩ := bind_eq_ok h
  obtain ⟨_, _, h⟩ := bind_eq_ok h
  obtain ⟨_, hentrySchemas, h⟩ := bind_eq_ok h
  obtain ⟨_, _, h⟩ := bind_eq_ok h
  obtain ⟨_, _, h⟩ := bind_eq_ok h
  obtain ⟨_, hrecordSchemas, h⟩ := bind_eq_ok h
  obtain ⟨_, hreceivers, hcounts⟩ := bind_eq_ok h
  have hschemas : ∀ {α : Type} {l : List α} {version : α → PersistenceSchemaVersion},
      ¬ l.any (version · ≠ currentSchemaVersion) = true → ∀ x ∈ l, version x = currentSchemaVersion := by
    intro α l version hany x hx
    by_contra hne
    exact hany (any_eq_true.mpr ⟨x, hx, decide_eq_true hne⟩)
  refine ⟨Nat.not_lt.mp (reject_eq_ok hpolicies), hpolicyKeys, hschemas (reject_eq_ok hpolicySchemas),
    hentryKeys, hschemas (reject_eq_ok hentrySchemas), hsound.distinct,
    hschemas (reject_eq_ok hrecordSchemas), Nat.not_lt.mp (reject_eq_ok hreceivers), fun receiverId => ?_,
    hsound.capacity⟩
  by_cases hin : receiverId ∈ documentReceivers store.document
  · have hwithin := reject_eq_ok hcounts
    simp only [Bool.not_eq_true, any_eq_false, decide_eq_true_eq, not_or, gt_iff_lt, Nat.not_lt] at hwithin
    exact (hwithin receiverId hin).1
  have hzero : store.document.stableEntries.countP (·.receiverId = receiverId) = 0 := by
    rw [countP_eq_zero]
    intro entry hentry heq
    refine hin ?_
    simp only [documentReceivers, mem_dedup, mem_append, mem_map]
    exact .inl (.inr ⟨entry, hentry, of_decide_eq_true heq⟩)
  rw [hzero]
  exact Nat.zero_le _

theorem mapM_eq_ok {α β ε : Type} {f : α → Except ε β} {g : α → β} {l : List α}
    (h : ∀ x ∈ l, f x = .ok (g x)) : l.mapM f = .ok (l.map g) := by
  induction l with
  | nil => rfl
  | cons x l ih =>
    rw [mapM_cons, h x mem_cons_self, ih fun y hy => h y (mem_cons_of_mem _ hy)]
    rfl

theorem upsert_fresh {α κ : Type} [DecidableEq κ] {key : α → κ} {value : α} {l : List α}
    (h : ∀ x ∈ l, key x ≠ key value) : upsert key value l = l ++ [value] := by
  induction l with
  | nil => rfl
  | cons x l ih =>
    unfold upsert
    rw [if_neg (h x mem_cons_self), ih fun y hy => h y (mem_cons_of_mem _ hy)]
    rfl

/-- The claim that history compaction drops next: the first replayable terminal of the receiver. -/
structure OldestReplay (records : List RestoreRecord) (receiverId : ReceiverId) (oldest : RestoreRecord) :
    Prop where
  stored : oldest ∈ records
  receiver : oldest.receiverId = receiverId
  terminal : compactableTerminal oldest.status = true
  least : ∀ r ∈ records, r.receiverId = receiverId → compactableTerminal r.status = true → r ≠ oldest →
    comparePair (oldest.revision, oldest.claimId) (r.revision, r.claimId) = .lt

variable {records : List RestoreRecord} {r : RestoreRecord}

/-- A new claim in a full history takes the place of the oldest replayable one. -/
theorem compactedClaims_full {candidate oldest : RestoreRecord}
    (hfresh : ∀ r ∈ records, r.claimId ≠ candidate.claimId)
    (hfull : records.countP (·.receiverId = candidate.receiverId) = maxRestoreRecordsPerReceiver)
    (hreplay : minTerminalReplayRecords < (records.filter (·.receiverId = candidate.receiverId)).countP
      fun record => compactableTerminal record.status)
    (holdest : OldestReplay records candidate.receiverId oldest) :
    compactedClaims (records ++ [candidate]) [candidate.claimId] candidate.receiverId =
      .ok [oldest.claimId] := by
  have hown : (records ++ [candidate]).filter (·.receiverId = candidate.receiverId) =
      records.filter (·.receiverId = candidate.receiverId) ++ [candidate] := by
    rw [filter_append, filter_cons_of_pos (by simp), filter_nil]
  have hlength : ((records ++ [candidate]).filter (·.receiverId = candidate.receiverId)).length -
      maxRestoreRecordsPerReceiver = 1 := by
    rw [hown, length_append, ← countP_eq_length_filter, hfull]
    exact Nat.add_sub_cancel_left ..
  have hcount : minTerminalReplayRecords <
      ((records ++ [candidate]).filter (·.receiverId = candidate.receiverId)).countP
        fun record => compactableTerminal record.status := by
    rw [hown, countP_append]
    omega
  let eligible := (((records ++ [candidate]).filter (·.receiverId = candidate.receiverId)).filter
    fun record => compactableTerminal record.status ∧ record.claimId ∉ [candidate.claimId]).map
      fun record => (record.revision, record.claimId)
  have heligible : ∀ pair, pair ∈ eligible ↔ ∃ r ∈ records, r.receiverId = candidate.receiverId ∧
      compactableTerminal r.status = true ∧ (r.revision, r.claimId) = pair := by
    intro pair
    constructor
    · intro hpair
      obtain ⟨r, hr, heq⟩ := mem_map.mp hpair
      obtain ⟨hr, hterminal⟩ := mem_filter.mp hr
      obtain ⟨hr, hreceiver⟩ := mem_filter.mp hr
      have hterminal := of_decide_eq_true hterminal
      obtain hr | hr := mem_append.mp hr
      · exact ⟨r, hr, of_decide_eq_true hreceiver, hterminal.1, heq⟩
      rw [mem_singleton.mp hr] at hterminal
      exact absurd mem_cons_self hterminal.2
    intro ⟨r, hr, hreceiver, hterminal, heq⟩
    have hother : r.claimId ∉ [candidate.claimId] := by
      rw [mem_singleton]
      exact hfresh r hr
    exact mem_map.mpr ⟨r, mem_filter.mpr ⟨mem_filter.mpr
      ⟨mem_append.mpr (.inl hr), decide_eq_true hreceiver⟩,
      decide_eq_true ⟨hterminal, hother⟩⟩, heq⟩
  have hoptions : (oldest.revision, oldest.claimId) ∈ eligible :=
    (heligible _).mpr ⟨oldest, holdest.stored, holdest.receiver, holdest.terminal, rfl⟩
  have hfirst : (sortBy comparePair id eligible).take 1 = [(oldest.revision, oldest.claimId)] := by
    refine sortBy_first hoptions ?_
    intro pair hpair hne
    obtain ⟨r, hr, hreceiver, hterminal, heq⟩ := (heligible pair).mp hpair
    subst heq
    exact holdest.least r hr hreceiver hterminal fun heq => hne (by rw [heq])
  have hsome : ¬ (sortBy comparePair id eligible).length < 1 := by
    rw [(sortBy_perm _ _ _).length_eq]
    exact Nat.not_lt.mpr (length_pos_of_mem hoptions)
  unfold compactedClaims
  dsimp only
  rw [hlength, if_neg (by decide), if_neg (not_or.mpr ⟨by omega, hsome⟩)]
  show Except.ok (((sortBy comparePair id eligible).take 1).map (·.2)) = _
  rw [hfirst]
  rfl

theorem compactedClaims_within {protectedClaims : List RestoreClaimId} {receiverId : ReceiverId}
    (h : records.countP (·.receiverId = receiverId) ≤ maxRestoreRecordsPerReceiver) :
    compactedClaims records protectedClaims receiverId = .ok [] := by
  have hnone : (records.filter (·.receiverId = receiverId)).length - maxRestoreRecordsPerReceiver = 0 := by
    rw [← countP_eq_length_filter]
    omega
  unfold compactedClaims
  dsimp only
  rw [if_pos hnone]

section Full

variable {T : Type} {s : RestorationState T} {candidate oldest : RestoreRecord}

/-- A new claim of a receiver with a full history is stored in place of the oldest replayable one. -/
theorem persistRecord_full (hvalid : s.store.Valid) (hcommits : s.store.commits = [])
    (hschema : candidate.schemaVersion = currentSchemaVersion)
    (hfresh : ∀ r ∈ s.records, r.claimId ≠ candidate.claimId)
    (hfull : s.records.countP (·.receiverId = candidate.receiverId) = maxRestoreRecordsPerReceiver)
    (hreplay : minTerminalReplayRecords <
      (s.records.filter (·.receiverId = candidate.receiverId)).countP
        fun record => compactableTerminal record.status)
    (holdest : OldestReplay s.records candidate.receiverId oldest) :
    ∃ s', persistRecord none candidate s = .ok () s' ∧
      ∀ r, r ∈ s'.records ↔ (r ∈ s.records ∧ r ≠ oldest) ∨ r = candidate := by
  have hfits := hvalid.fits
  have hclaims : (s.records.map (·.claimId)).Nodup := hvalid.sound.distinct
  let added : BridgePersistenceDocument := { s.store.document with restoreRecords := s.records ++ [candidate] }
  let kept : BridgePersistenceDocument :=
    { added with restoreRecords := added.restoreRecords.filter (·.claimId ∉ [oldest.claimId]) }
  have hadded : applyRestoreChanges s.store.document [⟨none, candidate⟩] = added := by
    have hupsert : upsert (·.claimId) candidate s.store.document.restoreRecords =
        s.records ++ [candidate] := upsert_fresh hfresh
    simp only [applyRestoreChanges, foldl_cons, foldl_nil, hupsert, added]
  have hcompact : compactRestoreHistory added [candidate.claimId] = .ok kept := by
    have hclaimsDropped : ∀ receiverId ∈ (added.restoreRecords.map (·.receiverId)).dedup,
        compactedClaims added.restoreRecords [candidate.claimId] receiverId =
          .ok (if receiverId = candidate.receiverId then [oldest.claimId] else []) := by
      intro receiverId _
      split
      next heq =>
        rw [heq]
        exact compactedClaims_full hfresh hfull hreplay holdest
      next hne =>
        refine compactedClaims_within ?_
        show (s.records ++ [candidate]).countP (·.receiverId = receiverId) ≤ _
        rw [countP_append, countP_cons_of_neg (by simpa using Ne.symm hne), countP_nil]
        exact hfits.recordCounts receiverId
    have hdropped : ∀ claimId, claimId ∈ (((added.restoreRecords.map (·.receiverId)).dedup).map
        fun receiverId => if receiverId = candidate.receiverId then [oldest.claimId] else []).flatten ↔
          claimId ∈ [oldest.claimId] := by
      intro claimId
      have hreceiver : candidate.receiverId ∈ (added.restoreRecords.map (·.receiverId)).dedup := by
        rw [mem_dedup]
        exact mem_map.mpr ⟨candidate, by simp [added], rfl⟩
      constructor
      · intro hmem
        obtain ⟨claims, hclaims, hmem⟩ := mem_flatten.mp hmem
        obtain ⟨receiverId, _, heq⟩ := mem_map.mp hclaims
        rw [← heq] at hmem
        split at hmem
        · exact hmem
        · cases hmem
      intro hmem
      exact mem_flatten.mpr ⟨[oldest.claimId], mem_map.mpr ⟨candidate.receiverId, hreceiver, if_pos rfl⟩, hmem⟩
    unfold compactRestoreHistory
    rw [mapM_eq_ok hclaimsDropped]
    show Except.ok { added with restoreRecords := added.restoreRecords.filter _ } = _
    refine congrArg Except.ok ?_
    show { added with restoreRecords := added.restoreRecords.filter _ } = kept
    have hsame : ∀ r : RestoreRecord, decide (r.claimId ∉ (((added.restoreRecords.map
        (·.receiverId)).dedup).map fun receiverId => if receiverId = candidate.receiverId then
          [oldest.claimId] else []).flatten) = decide (r.claimId ∉ [oldest.claimId]) := by
      intro r
      rw [decide_eq_decide, hdropped]
    simp only [hsame, kept]
  have hdifferent : candidate.claimId ≠ oldest.claimId := fun heq => hfresh oldest holdest.stored heq.symm
  have hkept : ∀ r, r ∈ kept.restoreRecords ↔ (r ∈ s.records ∧ r ≠ oldest) ∨ r = candidate := by
    intro r
    show r ∈ (s.records ++ [candidate]).filter _ ↔ _
    rw [mem_filter, mem_append, mem_singleton, decide_eq_true_iff, mem_singleton]
    constructor
    · rintro ⟨hmem, hne⟩
      exact hmem.imp (fun hr => ⟨hr, fun heq => hne (congrArg _ heq)⟩) id
    intro hmem
    obtain ⟨hr, hne⟩ | heq := hmem
    · exact ⟨.inl hr, fun heq => hne (eq_of_claimId hclaims hr holdest.stored heq)⟩
    rw [heq]
    exact ⟨.inr rfl, hdifferent⟩
  have hcheck : validateDocument s.store.maxReceivers (canonicalize kept) = .ok () := by
    refine DocumentFits.canonical ⟨hfits.policies, hfits.policyKeys, hfits.policySchemas, hfits.entryKeys,
      hfits.entrySchemas, ?_, ?_, ?_, hfits.entryCounts, ?_⟩
    · have hall : ((s.records ++ [candidate]).map (·.claimId)).Nodup := by
        rw [map_append, nodup_append]
        refine ⟨hclaims, nodup_singleton _, ?_⟩
        intro a ha b hb heq
        obtain ⟨r, hr, hid⟩ := mem_map.mp ha
        have hother := hfresh r hr
        rw [hid, heq] at hother
        exact hother (mem_singleton.mp hb)
      exact hall.sublist (filter_sublist.map _)
    · intro r hr
      obtain ⟨hr, _⟩ | heq := (hkept r).mp hr
      · exact hfits.recordSchemas r hr
      rw [heq]
      exact hschema
    · refine Nat.le_trans ?_ hfits.receivers
      refine (subperm_of_subset (nodup_dedup _) ?_).length_le
      intro receiverId hmem
      simp only [documentReceivers, mem_dedup, mem_append, mem_map] at hmem ⊢
      refine hmem.imp id ?_
      rintro ⟨r, hr, heq⟩
      obtain ⟨hr, _⟩ | hnew := (hkept r).mp hr
      · exact ⟨r, hr, heq⟩
      rw [hnew] at heq
      exact ⟨oldest, holdest.stored, holdest.receiver.trans heq⟩
    intro receiverId
    show ((s.records ++ [candidate]).filter (·.claimId ∉ [oldest.claimId])).countP _ ≤ _
    have hsplit := countP_eq_countP_filter_add (s.records ++ [candidate])
      (fun r => decide (r.receiverId = receiverId)) (fun r => decide (r.claimId ∉ [oldest.claimId]))
    rw [countP_append] at hsplit
    have hbound := hfits.recordCounts receiverId
    change s.records.countP _ ≤ _ at hbound
    by_cases hreceiver : candidate.receiverId = receiverId
    · have hgone : 0 < ((s.records ++ [candidate]).filter
          fun r => ! decide (r.claimId ∉ [oldest.claimId])).countP
            fun r => decide (r.receiverId = receiverId) := by
        refine countP_pos_iff.mpr ⟨oldest, mem_filter.mpr ⟨mem_append.mpr (.inl holdest.stored), by simp⟩, ?_⟩
        exact decide_eq_true (holdest.receiver.trans hreceiver)
      rw [countP_cons_of_pos (by simpa using hreceiver), countP_nil] at hsplit
      omega
    rw [countP_cons_of_neg (by simpa using hreceiver), countP_nil] at hsplit
    omega
  have hcompare : compareRestoreRecords s.store.document [⟨none, candidate⟩] = .ok .applied := by
    have hnone : s.store.document.restoreRecords.find? (·.claimId = candidate.claimId) = none := by
      rw [find?_eq_none]
      intro r hr
      simpa using hfresh r hr
    simp [compareRestoreRecords, validateRecordSchema, hschema, hnone, reject, bind, Except.bind]
  have hwritten : compareAndSetRestoreRecords [⟨none, candidate⟩] s.store =
      .ok .applied { s.store with document := canonicalize kept } := by
    refine eq_ok_of_holds ?_
    unfold compareAndSetRestoreRecords
    rw [if_neg (cons_ne_nil _ _)]
    simp only [holds_do]
    refine ⟨fun hdouble => hdouble (nodup_singleton _), fun _ => ⟨fun compared heq => ?_,
      fun _ heq => by cases hcompare.symm.trans heq⟩⟩
    cases hcompare.symm.trans heq
    simp only [holds_do]
    rw [hadded]
    refine ⟨fun compacted heq => ?_, fun _ heq => by cases hcompact.symm.trans heq⟩
    cases hcompact.symm.trans heq
    simp only [commit, holds_do]
    refine ⟨fun _ _ => ?_, fun _ heq => by cases hcheck.symm.trans heq⟩
    rw [hcommits]
    exact ⟨trivial, rfl⟩
  refine ⟨{ s with store := { s.store with document := canonicalize kept } }, ?_, fun r => ?_⟩
  · refine eq_ok_of_holds ?_
    simp only [persistRecord, persistRecords, withStore, holds_do]
    rw [holds_of_ok hwritten]
    exact ⟨trivial, rfl⟩
  · exact ((sortBy_perm _ _ _).mem_iff (a := r)).trans (hkept r)

end Full

@[reducible] def revisionDigests : RestorationDigests where
  requestDigest _ := sampleDigest
  claimDigest identity := sampleDigits identity.intentRevision.get
  intentDigest _ := sampleDigest

theorem revisionClaim_size (revision : Nat) :
    ("restore" ++ "-" ++ (sampleDigits revision).asStr).utf8ByteSize = 72 := by
  have hdigits : (sampleDigits revision).asStr.utf8ByteSize = 64 := hexDigits_size 64 revision
  rw [String.utf8ByteSize_append, hdigits]
  rfl

def revisionClaim (revision : Nat) : RestoreClaimId :=
  ⟨"restore" ++ "-" ++ (sampleDigits revision).asStr, by rw [revisionClaim_size]; decide,
    by rw [revisionClaim_size]; decide⟩

theorem revisionClaim_ok (revision : Nat) :
    typedId "restore" (sampleDigits revision).asStr = .ok (revisionClaim revision) := by
  unfold typedId Text.tryFrom
  rw [dif_pos ⟨(revisionClaim revision).lower, (revisionClaim revision).upper⟩]
  rfl

theorem revisionClaim_injective {a b : Nat} (ha : a ≤ u64Max) (hb : b ≤ u64Max)
    (h : revisionClaim a = revisionClaim b) : a = b := by
  have htext := congrArg (fun claim : RestoreClaimId => claim.asStr.toList) h
  simp only [revisionClaim, String.toList_append] at htext
  have hdigits := append_cancel_left htext
  exact sampleDigits_injective ha hb (Text.ext_asStr (String.toList_injective hdigits))

def resumeTrigger : RestoreTrigger :=
  ⟨.lit "resume", .systemResume, sampleResource.receiverId, sampleGeneration, none⟩

/-- The claim of one intent revision of the mouse; all but the last one's were deferred once before they
were superseded. -/
def revisionRecord (i : Fin maxRestoreRecordsPerReceiver) : RestoreRecord where
  schemaVersion := currentSchemaVersion
  claimId := revisionClaim (i.val + 1)
  triggerId := resumeTrigger.triggerId
  triggerKind := resumeTrigger.kind
  receiverId := resumeTrigger.receiverId
  generationId := resumeTrigger.generationId
  deviceId := sampleResource.deviceId
  intentRevision := ⟨i.val + 1, Nat.le_add_left .., Nat.le_trans i.isLt (by decide)⟩
  intentDigest := sampleDigest
  revision := if i.val = 255 then (.lit 2) else (.lit 3)
  lastAttempt := none
  status := .invalidated .supersededTrigger

@[irreducible] def revisionHistory : List RestoreRecord :=
  (List.finRange maxRestoreRecordsPerReceiver).map revisionRecord

def latestRecord : RestoreRecord := revisionRecord ⟨255, by decide⟩

def latestIntent : PersistedStableIntent := { sampleIntent with revision := .lit 256 }

def addedIntent : PersistedStableIntent :=
  { sampleIntent with
    deviceId := .lit "keyboard"
    revision := .lit 1000 }

def uniformProfiles : ProfileRegistry :=
  ⟨fun _ => true, fun _ _ => some ⟨sampleProfile, sampleDigest⟩,
    fun _ => some ⟨sampleProfile, sampleDigest, .lit 1⟩, fun _ _ => false⟩

def fullDocument : BridgePersistenceDocument where
  policies := [⟨currentSchemaVersion, resumeTrigger.receiverId, true, .lit 1⟩]
  stableEntries := [.present addedIntent, .present latestIntent]
  restoreRecords := revisionHistory

/-- A store whose receiver has as many claims as its history holds. -/
@[irreducible] def fullStart : RestorationState Unit where
  core := ⟨emptyCoordinator, sampleLog, ()⟩
  leases := ⟨4, 4, ∅, ∅, []⟩
  store := ⟨1, canonicalize fullDocument, []⟩

theorem RestorationState.records_eq {T : Type} (s : RestorationState T) :
    s.records = s.store.document.restoreRecords :=
  rfl

theorem fullStart_store : fullStart.store = ⟨1, canonicalize fullDocument, []⟩ := by
  unfold fullStart
  rfl

theorem fullStart_records : fullStart.records = sortBy comparePair recordKey revisionHistory := by
  rw [RestorationState.records_eq, fullStart_store]
  rfl

theorem mem_fullStart : r ∈ fullStart.records ↔ r ∈ revisionHistory := by
  rw [fullStart_records]
  exact (sortBy_perm comparePair recordKey revisionHistory).mem_iff

theorem mem_revisionHistory : r ∈ revisionHistory ↔ ∃ i, revisionRecord i = r := by
  unfold revisionHistory
  rw [mem_map]
  exact exists_congr fun i => and_iff_right (mem_finRange i)

theorem fullStart_valid : fullStart.store.Valid := by
  rw [fullStart_store]
  refine DocumentFits.canonical ⟨by decide, by decide, by decide, ?_, ?_, ?_, ?_, ?_, ?_, ?_⟩
  · decide +kernel
  · decide +kernel
  · show (revisionHistory.map (·.claimId)).Nodup
    unfold revisionHistory
    rw [map_map]
    refine (nodup_finRange _).map ?_
    intro i j h
    have hi : i.val + 1 ≤ u64Max := Nat.le_trans i.isLt (by decide)
    have hj : j.val + 1 ≤ u64Max := Nat.le_trans j.isLt (by decide)
    have heq := revisionClaim_injective hi hj h
    exact Fin.ext (by omega)
  · intro r hr
    change r ∈ revisionHistory at hr
    unfold revisionHistory at hr
    obtain ⟨i, _, rfl⟩ := mem_map.mp hr
    rfl
  · have hsub : documentReceivers fullDocument ⊆ [resumeTrigger.receiverId] := by
      intro receiverId hmem
      simp only [documentReceivers, mem_dedup, mem_append, mem_map] at hmem
      rw [mem_singleton]
      obtain (⟨policy, hpolicy, rfl⟩ | ⟨entry, hentry, rfl⟩) | ⟨r, hr, rfl⟩ := hmem
      · rw [mem_singleton.mp hpolicy]
      · obtain rfl | hlast := mem_cons.mp hentry
        · rfl
        rw [mem_singleton.mp hlast]
        rfl
      change r ∈ revisionHistory at hr
      unfold revisionHistory at hr
      obtain ⟨i, _, rfl⟩ := mem_map.mp hr
      rfl
    exact (subperm_of_subset (nodup_dedup _) hsub).length_le
  · intro receiverId
    exact Nat.le_trans countP_le_length (by decide)
  intro receiverId
  refine Nat.le_trans countP_le_length ?_
  show revisionHistory.length ≤ _
  unfold revisionHistory
  rw [length_map, length_finRange]

theorem validateRecord_of [RestorationDigests] {record : RestoreRecord}
    (hschema : record.schemaVersion = currentSchemaVersion)
    (hclaim : claimIdForRecord record = .ok record.claimId) (hstatus : validateStatus record = .ok ()) :
    validateRecord record = .ok () := by
  simp [validateRecord, validateSchema, hschema, hclaim, hstatus, reject, bind, Except.bind]

theorem fullStart_replannable :
    letI := revisionDigests
    Replannable resumeTrigger uniformProfiles [.present addedIntent, .present latestIntent] fullStart := by
  let _ := revisionDigests
  have hsound : StoreSound fullStart.records := by
    rw [RestorationState.records_eq]
    exact fullStart_valid.sound
  have hentries : loadEntries resumeTrigger.receiverId fullStart.store =
      .ok [.present addedIntent, .present latestIntent] := by
    rw [fullStart_store]
    decide +kernel
  refine ⟨hsound, ?_, ?_, hentries, ?_⟩
  · intro r hr _
    obtain ⟨i, rfl⟩ := mem_revisionHistory.mp (mem_fullStart.mp hr)
    have hclaim : claimIdForRecord (revisionRecord i) = .ok (revisionRecord i).claimId := by
      unfold claimIdForRecord claimIdFromIdentity
      exact revisionClaim_ok (i.val + 1)
    exact validateRecord_of rfl hclaim rfl
  · intro r hr _ _
    obtain ⟨i, rfl⟩ := mem_revisionHistory.mp (mem_fullStart.mp hr)
    exact ⟨rfl, rfl, rfl, rfl⟩
  intro intent hsaved profile hout
  unfold Saved at hsaved
  rw [fullStart_store] at hsaved
  have hstored := (sortBy_perm comparePair entryKey fullDocument.stableEntries).mem_iff.mp hsaved
  have hdigest : intent.profileDigest = sampleDigest := by
    obtain heq | hlast := mem_cons.mp hstored
    · cases heq
      rfl
    cases mem_singleton.mp hlast
    rfl
  have hprofile := hout.profile
  cases Option.some.inj hprofile
  exact hout.changed hdigest

section Replan

variable {T : Type} [RestorationDigests] {s : RestorationState T} {trigger : RestoreTrigger}
  {profiles : ProfileRegistry}

theorem planRestore_enabled {Q : RestorePlanResult → RestorationState T → Prop}
    {E : RestorationError → RestorationState T → Prop} (htrigger : validateTrigger trigger = .ok ())
    (henabled : restoreEnabled trigger.receiverId s.store = .ok true) :
    Holds (planRestore trigger profiles) s Q E ↔ Holds (planEnabled trigger profiles) s Q E := by
  have hlift : ∀ {α : Type} {answer : Except RestorationError α} {a : α}, answer = .ok a →
      (lift id answer : RestorationM T α) s = .ok a s := by
    intro α answer a heq
    rw [heq]
    rfl
  have hget : (get : RestorationM T (RestorationState T)) s = .ok s s := rfl
  unfold planRestore
  rw [holds_bind_of_ok (hlift htrigger), holds_bind_of_ok hget, holds_bind_of_ok (hlift henabled)]
  exact Iff.rfl

end Replan

def addedRecord : RestoreRecord where
  schemaVersion := currentSchemaVersion
  claimId := revisionClaim 1000
  triggerId := resumeTrigger.triggerId
  triggerKind := resumeTrigger.kind
  receiverId := resumeTrigger.receiverId
  generationId := resumeTrigger.generationId
  deviceId := addedIntent.deviceId
  intentRevision := addedIntent.revision
  intentDigest := sampleDigest
  revision := .lit 1
  lastAttempt := none
  status := .planned

/-- The claim that planning makes for the mouse when it finds none. -/
def renewedRecord : RestoreRecord :=
  { latestRecord with revision := .lit 1, status := .planned }

theorem newRestoreRecord_revision {intent : PersistedStableIntent} :
    letI := revisionDigests
    newRestoreRecord resumeTrigger intent = .ok ⟨currentSchemaVersion, revisionClaim intent.revision.get,
      resumeTrigger.triggerId, resumeTrigger.kind, resumeTrigger.receiverId, resumeTrigger.generationId,
      intent.deviceId, intent.revision, intent.contentDigest, .lit 1, none,
      .planned⟩ := by
  let _ := revisionDigests
  unfold newRestoreRecord claimIdFromIdentity
  show typedId "restore" (sampleDigits intent.revision.get).asStr >>= (fun _ => _) = _
  rw [revisionClaim_ok]
  rfl

theorem revisionRecord_apart {i : Fin maxRestoreRecordsPerReceiver} {revision : Nat}
    (hrevision : revision ≤ u64Max) (hne : i.val + 1 ≠ revision) :
    (revisionRecord i).claimId ≠ revisionClaim revision := by
  intro heq
  have hi : i.val + 1 ≤ u64Max := Nat.le_trans i.isLt (by decide)
  exact hne (revisionClaim_injective hi hrevision heq)

theorem revisionRecord_quiet (candidate : RestoreRecord) (i : Fin maxRestoreRecordsPerReceiver) :
    supersededBy candidate (revisionRecord i) = false := by
  simp [supersededBy, revisionRecord, RestoreRecordStatus.state]

theorem fullStart_oldest : OldestReplay fullStart.records resumeTrigger.receiverId latestRecord := by
  refine ⟨mem_fullStart.mpr (mem_revisionHistory.mpr ⟨_, rfl⟩), rfl, rfl, ?_⟩
  intro r hr _ _ hne
  obtain ⟨i, rfl⟩ := mem_revisionHistory.mp (mem_fullStart.mp hr)
  have hother : i.val ≠ 255 := by
    intro heq
    have hlast : i = ⟨255, by decide⟩ := Fin.ext heq
    rw [hlast] at hne
    exact hne rfl
  have hfirst : latestRecord.revision = (.lit 2) := rfl
  have hlater : (revisionRecord i).revision = (.lit 3) := if_neg hother
  rw [hfirst, hlater]
  rfl

/-- The first planning stores the new claim in place of the one it answers for the mouse. -/
theorem fullStart_persisted : ∃ s₁ : RestorationState Unit,
    persistRecord none addedRecord fullStart = .ok () s₁ ∧
      ∀ r, r ∈ s₁.records ↔ (r ∈ fullStart.records ∧ r ≠ latestRecord) ∨ r = addedRecord := by
  have hcommits : fullStart.store.commits = [] := by
    rw [fullStart_store]
  have hfresh : ∀ r ∈ fullStart.records, r.claimId ≠ addedRecord.claimId := by
    intro r hr
    obtain ⟨i, rfl⟩ := mem_revisionHistory.mp (mem_fullStart.mp hr)
    have hi := i.isLt
    have hmax : maxRestoreRecordsPerReceiver = 256 := rfl
    exact revisionRecord_apart (by decide) (by omega)
  have hown : ∀ r ∈ fullStart.records, r.receiverId = addedRecord.receiverId ∧
      compactableTerminal r.status = true := by
    intro r hr
    obtain ⟨i, rfl⟩ := mem_revisionHistory.mp (mem_fullStart.mp hr)
    exact ⟨rfl, rfl⟩
  have hlength : fullStart.records.length = maxRestoreRecordsPerReceiver := by
    rw [fullStart_records, (sortBy_perm _ _ _).length_eq]
    unfold revisionHistory
    rw [length_map, length_finRange]
  have hall : fullStart.records.filter (·.receiverId = addedRecord.receiverId) = fullStart.records :=
    filter_eq_self.mpr fun r hr => decide_eq_true (hown r hr).1
  refine persistRecord_full fullStart_valid hcommits rfl hfresh ?_ ?_ fullStart_oldest
  · rw [countP_eq_length_filter, hall, hlength]
  rw [hall, countP_eq_length.mpr fun r hr => (hown r hr).2, hlength]
  decide

theorem revisionTargets :
    targetIntents resumeTrigger [.present addedIntent, .present latestIntent] = [addedIntent, latestIntent] ∧
      compatibleIntents resumeTrigger uniformProfiles [.present addedIntent, .present latestIntent] =
        [addedIntent, latestIntent] := by
  decide +kernel

theorem own_listed {s : RestorationState Unit}
    (hown : ∀ r ∈ s.records, r.receiverId = resumeTrigger.receiverId) :
    r ∈ s.store.restoreRecords resumeTrigger.receiverId ↔ r ∈ s.records := by
  refine mem_filter.trans ⟨fun h => h.1, fun h => ⟨h, decide_eq_true (hown r h)⟩⟩

theorem find_claim {record : RestoreRecord} (hdistinct : (records.map (·.claimId)).Nodup)
    (hmem : record ∈ records) :
    records.find? (·.claimId = record.claimId) = some record := by
  cases hfound : records.find? (·.claimId = record.claimId) with
  | none =>
    have hnone := find?_eq_none.mp hfound record hmem
    simp at hnone
  | some found =>
    have hfoundId := find?_some hfound
    rw [decide_eq_true_iff] at hfoundId
    exact congrArg some (eq_of_claimId hdistinct (mem_of_find?_eq_some hfound) hmem hfoundId)

theorem fullStart_planned :
    letI := revisionDigests
    ∃ s₁, planRestore resumeTrigger uniformProfiles fullStart = .ok (.planned [addedRecord, latestRecord]) s₁ ∧
      (∀ r, r ∈ s₁.records ↔ (r ∈ fullStart.records ∧ r ≠ latestRecord) ∨ r = addedRecord) ∧
      fullStart.store.KeepsPlans s₁.store := by
  let _ := revisionDigests
  obtain ⟨s₁, hpersist, hrecords⟩ := fullStart_persisted
  have hkeeps := holds_ok (persistRecords_keeps fullStart_valid) hpersist
  refine ⟨s₁, eq_ok_of_holds ?_, hrecords, hkeeps⟩
  have henabled : restoreEnabled resumeTrigger.receiverId fullStart.store = .ok true := by
    rw [fullStart_store]
    decide +kernel
  have hown : ∀ r ∈ fullStart.records, r.receiverId = resumeTrigger.receiverId := by
    intro r hr
    obtain ⟨i, rfl⟩ := mem_revisionHistory.mp (mem_fullStart.mp hr)
    rfl
  have hlisted : ∀ r ∈ fullStart.store.restoreRecords resumeTrigger.receiverId,
      ∃ i, revisionRecord i = r := fun r hr =>
    mem_revisionHistory.mp (mem_fullStart.mp ((own_listed hown).mp hr))
  have hdistinct : ((fullStart.store.restoreRecords resumeTrigger.receiverId).map (·.claimId)).Nodup :=
    fullStart_valid.sound.distinct.sublist (filter_sublist.map _)
  have hunopposed : ∀ candidate, Unopposed candidate
      (fullStart.store.restoreRecords resumeTrigger.receiverId) := by
    intro candidate r hr
    obtain ⟨i, rfl⟩ := hlisted r hr
    exact revisionRecord_quiet candidate i
  have hnew : ∀ r ∈ fullStart.store.restoreRecords resumeTrigger.receiverId,
      r.claimId ≠ addedRecord.claimId := by
    intro r hr
    obtain ⟨i, rfl⟩ := hlisted r hr
    have hi := i.isLt
    have hmax : maxRestoreRecordsPerReceiver = 256 := rfl
    exact revisionRecord_apart (by decide) (by omega)
  have hnone : (fullStart.store.restoreRecords resumeTrigger.receiverId).find?
      (·.claimId = addedRecord.claimId) = none := by
    rw [find?_eq_none]
    intro r hr
    simpa using hnew r hr
  have hlater : planClaims resumeTrigger [latestIntent]
      (fullStart.store.restoreRecords resumeTrigger.receiverId ++ [addedRecord]) s₁ =
        .ok [latestRecord] s₁ := by
    have hrenewed : Unopposed renewedRecord
        (fullStart.store.restoreRecords resumeTrigger.receiverId ++ [addedRecord]) := by
      intro r hr
      obtain hold | hadded := mem_append.mp hr
      · exact hunopposed renewedRecord r hold
      rw [mem_singleton.mp hadded]
      decide +kernel
    have hclaims : ((fullStart.store.restoreRecords resumeTrigger.receiverId ++ [addedRecord]).map
        (·.claimId)).Nodup := by
      rw [map_append, nodup_append]
      refine ⟨hdistinct, nodup_singleton _, ?_⟩
      intro a ha b hb heq
      obtain ⟨r, hr, hid⟩ := mem_map.mp ha
      exact hnew r hr (hid.trans (heq.trans (mem_singleton.mp hb)))
    have hlatest : latestRecord ∈ fullStart.store.restoreRecords resumeTrigger.receiverId ++ [addedRecord] :=
      mem_append.mpr (.inl ((own_listed hown).mpr fullStart_oldest.stored))
    have hsame : validateSameClaim latestRecord renewedRecord = .ok () := by
      simp [validateSameClaim, renewedRecord, reject]
    exact planClaims_again hclaims
      (.cons ⟨hlatest, renewedRecord, newRestoreRecord_revision, hsame, hrenewed⟩ .nil)
  have hbuilt : (lift id (newRestoreRecord resumeTrigger addedIntent) :
      RestorationM Unit RestoreRecord) fullStart = .ok addedRecord fullStart := by
    rw [newRestoreRecord_revision]
    rfl
  rw [planRestore_enabled (by decide) henabled, fullStart_replannable.planEnabled]
  unfold planTargets
  rw [revisionTargets.1, revisionTargets.2, if_neg (cons_ne_nil _ _), if_neg (cons_ne_nil _ _),
    holds_bind, planClaims, holds_bind_of_ok hbuilt,
    holds_bind_of_ok (supersedePriorClaims_unopposed (hunopposed _))]
  simp only [hnone]
  rw [holds_bind_of_ok hpersist, holds_bind_of_ok hlater]
  exact ⟨rfl, rfl⟩

/-- The repeated call finds no claim for the mouse and makes one. -/
theorem replan_after_compaction :
    letI := revisionDigests
    ¬ ∀ (s s₁ : RestorationState Unit) (trigger : RestoreTrigger) (profiles : ProfileRegistry)
      (result : RestorePlanResult), s.store.Valid → planRestore trigger profiles s = .ok result s₁ →
      planRestore trigger profiles s₁ = .ok result s₁ := by
  let _ := revisionDigests
  intro h
  obtain ⟨s₁, hplan, hrecords, hkeeps⟩ := fullStart_planned
  have hagain := h fullStart s₁ _ _ _ fullStart_valid hplan
  have hown : ∀ r ∈ s₁.records, r.receiverId = resumeTrigger.receiverId := by
    intro r hr
    obtain ⟨hold, _⟩ | hadded := (hrecords r).mp hr
    · obtain ⟨i, rfl⟩ := mem_revisionHistory.mp (mem_fullStart.mp hold)
      rfl
    rw [hadded]
    rfl
  have henabled : restoreEnabled resumeTrigger.receiverId s₁.store = .ok true := by
    rw [restoreEnabled_same _ hkeeps.policies, fullStart_store]
    decide +kernel
  have hentries : loadEntries resumeTrigger.receiverId s₁.store =
      .ok [.present addedIntent, .present latestIntent] := by
    rw [loadEntries_same _ hkeeps.entries]
    exact fullStart_replannable.entries
  have hreplans : Replannable resumeTrigger uniformProfiles
      [.present addedIntent, .present latestIntent] s₁ := by
    have henabledBefore : restoreEnabled resumeTrigger.receiverId fullStart.store = .ok true := by
      rw [← restoreEnabled_same _ hkeeps.policies]
      exact henabled
    obtain ⟨_, entries, hfound, _⟩ := holds_ok
      ((planRestore_enabled (by decide) henabledBefore).mpr (planEnabled_plannedAs fullStart_valid)) hplan
    cases hentries.symm.trans hfound.entries
    exact hfound
  have hadded : addedRecord ∈ s₁.store.restoreRecords resumeTrigger.receiverId :=
    (own_listed hown).mpr ((hrecords _).mpr (.inr rfl))
  have hcases : ∀ r ∈ s₁.store.restoreRecords resumeTrigger.receiverId,
      r = addedRecord ∨ ∃ i, r = revisionRecord i ∧ i.val ≠ 255 := by
    intro r hr
    obtain ⟨hold, hne⟩ | hnew := (hrecords r).mp ((own_listed hown).mp hr)
    · obtain ⟨i, rfl⟩ := mem_revisionHistory.mp (mem_fullStart.mp hold)
      refine .inr ⟨i, rfl, fun heq => hne ?_⟩
      have hlast : i = ⟨255, by decide⟩ := Fin.ext heq
      rw [hlast]
      rfl
    · exact .inl hnew
  have hquiet : ∀ candidate, supersededBy candidate addedRecord = false →
      Unopposed candidate (s₁.store.restoreRecords resumeTrigger.receiverId) := by
    intro candidate hself r hr
    obtain hnew | ⟨i, hold, _⟩ := hcases r hr
    · rw [hnew]
      exact hself
    rw [hold]
    exact revisionRecord_quiet candidate i
  have hdistinct : ((s₁.store.restoreRecords resumeTrigger.receiverId).map (·.claimId)).Nodup :=
    hkeeps.valid.sound.distinct.sublist (filter_sublist.map _)
  have hmissing : (s₁.store.restoreRecords resumeTrigger.receiverId).find?
      (·.claimId = renewedRecord.claimId) = none := by
    rw [find?_eq_none]
    intro r hr
    obtain hnew | ⟨i, hold, hne⟩ := hcases r hr
    · rw [hnew]
      decide +kernel
    rw [hold]
    have hapart : (revisionRecord i).claimId ≠ renewedRecord.claimId :=
      revisionRecord_apart (by decide) fun heq => hne (Nat.succ.inj heq)
    simpa using hapart
  have hbuiltAdded : (lift id (newRestoreRecord resumeTrigger addedIntent) :
      RestorationM Unit RestoreRecord) s₁ = .ok addedRecord s₁ := by
    rw [newRestoreRecord_revision]
    rfl
  have hbuiltLatest : (lift id (newRestoreRecord resumeTrigger latestIntent) :
      RestorationM Unit RestoreRecord) s₁ = .ok renewedRecord s₁ := by
    rw [newRestoreRecord_revision]
    rfl
  have hanswer : Holds (planRestore resumeTrigger uniformProfiles) s₁
      (fun result _ => result = .planned [addedRecord, renewedRecord]) (fun _ _ => True) := by
    rw [planRestore_enabled (by decide) henabled, hreplans.planEnabled]
    unfold planTargets
    rw [revisionTargets.1, revisionTargets.2, if_neg (cons_ne_nil _ _),
      if_neg (cons_ne_nil _ _), holds_bind, planClaims, holds_bind_of_ok hbuiltAdded,
      holds_bind_of_ok (supersedePriorClaims_unopposed (hquiet addedRecord (by decide +kernel)))]
    simp only [find_claim hdistinct hadded, holds_do]
    refine ⟨fun _ _ => ?_, fun _ _ => trivial⟩
    rw [planClaims, holds_bind_of_ok hbuiltLatest,
      holds_bind_of_ok (supersedePriorClaims_unopposed (hquiet renewedRecord (by decide +kernel)))]
    simp only [hmissing, planClaims, holds_do]
    exact holds_mono holds_any (fun _ _ _ => trivial) (fun _ _ _ => trivial)
  have hdifferent := holds_ok hanswer hagain
  exact absurd hdifferent (by decide +kernel)

end HyperfluxNext
