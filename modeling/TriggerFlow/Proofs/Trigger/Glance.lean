import TriggerFlow.Proofs.Trigger.Review

/-!
# What a tick leaves behind

A tick asks for the launches of the workflows that fire, and leaves behind what their looks remember: as the store keeps
it if something has changed, and as it was if nothing has.
-/

namespace TriggerFlow

namespace Launcher

/-- Dropping the memories that hold nothing changes nothing that is remembered. -/
theorem recalled_filter {memories : Ordered TriggerMemory} (nodup : memories.keys.Nodup) (id : String) :
    recalled (memories.filter fun pair => !pair.2.same .blank) id = recalled memories id := by
  have distinct := Ordered.nodup_filter nodup fun pair => !pair.2.same .blank
  unfold recalled
  cases found : memories.get? id with
  | none =>
    cases left : Ordered.get? (memories.filter fun pair => !pair.2.same .blank) id with
    | none => rfl
    | some held =>
      have old := List.mem_of_mem_filter (Ordered.mem_of_get? left)
      rw [Ordered.get?_of_mem nodup old] at found
      cases found
  | some held =>
    cases blank : held.same .blank with
    | false =>
      have stays : (id, held) ∈ memories.filter fun pair => !pair.2.same .blank :=
        List.mem_filter.mpr ⟨Ordered.mem_of_get? found, by simp [blank]⟩
      rw [Ordered.get?_of_mem distinct stays]
    | true =>
      cases left : Ordered.get? (memories.filter fun pair => !pair.2.same .blank) id with
      | none => exact (TriggerMemory.same_blank blank).symm
      | some other =>
        obtain ⟨old, stays⟩ := List.mem_filter.mp (Ordered.mem_of_get? left)
        rw [Ordered.get?_of_mem nodup old] at found
        cases found
        simp [blank] at stays

/-- Memories that hold the same are recalled alike. -/
theorem same_recalled {kept stored : Ordered TriggerMemory} (distinct : kept.keys.Nodup)
    (same : sameMemories kept stored = true) (id : String) : (recalled kept id).same (recalled stored id) = true := by
  simp only [sameMemories, Bool.and_eq_true, decide_eq_true_eq, List.all_eq_true, Option.any_eq_true] at same
  obtain ⟨length, each⟩ := same
  unfold recalled
  cases found : kept.get? id with
  | some held =>
    obtain ⟨old, stays, same⟩ := each _ (Ordered.mem_of_get? found)
    rw [stays]
    exact same
  | none =>
    -- As many keys, and all of them known: there are no others.
    have known : kept.keys ⊆ stored.keys := by
      intro key mem
      obtain ⟨pair, here, rfl⟩ := List.mem_map.mp mem
      obtain ⟨_, stays, -⟩ := each pair here
      exact Ordered.mem_keys_of_get? stays
    have all : kept.keys.Perm stored.keys :=
      (distinct.subperm known).perm_of_length_le (by simp [Ordered.keys, length])
    have missing : id ∉ stored.keys := by
      intro mem
      obtain ⟨_, some⟩ := Ordered.exists_of_mem_keys distinct (all.mem_iff.mpr mem)
      rw [found] at some
      cases some
    rw [Ordered.get?_eq_none missing]
    exact TriggerMemory.same_refl _

end Launcher

namespace Store

variable {s s' : Store}

/-- Two stores keep the same records in the same way. -/
def SameRecords (s s' : Store) : Prop := s'.folder = s.folder ∧ s'.keeping = s.keeping

/-- Listing the workflows changes no records. -/
theorem workflows_sameRecords (s : Store) : (workflows).Preserves (SameRecords s) := by
  refine .bind (.ask _) fun kind => ?_
  cases kind with
  | memory m => exact .pure _
  | files shelf => exact (loadWorkflows_preserves (fun same _ => same) shelf).map

theorem SameRecords.memories (same : s.SameRecords s') : s'.memories = s.memories := by
  obtain ⟨now, drawn, folder, keeping⟩ := s
  obtain ⟨now', drawn', folder', keeping'⟩ := s'
  obtain ⟨rfl, rfl⟩ := same
  rfl

end Store

namespace Launcher

variable {s : Store}

/-- The enabled workflows among others, each with its only trigger. -/
def listeners (ws : List Workflow) : List (Workflow × Trigger) :=
  (ws.filter fun w => w.enabled).filterMap fun w => w.trigger?.map fun t => (w, t.2)

theorem mem_listeners {ws : List Workflow} {p : Workflow × Trigger} :
    p ∈ listeners ws ↔ p.1 ∈ ws ∧ p.1.enabled = true ∧ ∃ node, p.1.trigger? = some (node, p.2) := by
  simp only [listeners, List.mem_filterMap, List.mem_filter, Option.map_eq_some_iff]
  constructor
  · rintro ⟨w, ⟨mem, enabled⟩, ⟨node, t⟩, found, rfl⟩
    exact ⟨mem, enabled, node, found⟩
  · rintro ⟨mem, enabled, node, found⟩
    exact ⟨p.1, ⟨mem, enabled⟩, (node, p.2), found, rfl⟩

/-- The workflows that a store lists: they have different identifiers, and those that are enabled are valid. -/
structure Lists (s : Store) (ws : List Workflow) : Prop where
  listed : (Store.workflows s).1 = .ok ws
  distinct : (ws.map Workflow.id).Nodup
  valid : ∀ w ∈ ws, w.enabled = true → w.graph.defects = .ok []

variable {ws : List Workflow}

theorem Lists.checked (lists : Lists s ws) : ∀ p ∈ listeners ws, Graph.checkTrigger p.2 = .ok () := by
  intro p mem
  obtain ⟨mem, enabled, node, found⟩ := mem_listeners.mp mem
  exact Graph.checkTrigger_of_defects (lists.valid _ mem enabled) found

theorem Lists.apart (lists : Lists s ws) : ((listeners ws).map fun p => p.1.id).Nodup := by
  have sub : ((listeners ws).map Prod.fst).Sublist ws := by
    refine List.Sublist.trans ?_ (List.filter_sublist (p := fun w => w.enabled))
    unfold listeners
    induction ws.filter fun w => w.enabled with
    | nil => exact List.Sublist.refl _
    | cons w rest ih =>
      rw [List.filterMap_cons]
      split
      · exact ih.cons w
      · rename_i found
        obtain ⟨t, -, rfl⟩ := Option.map_eq_some_iff.mp found
        exact ih.cons_cons w
  have ids := lists.distinct.sublist (sub.map Workflow.id)
  rwa [List.map_map] at ids

theorem Lists.listening (lists : Lists s ws) : Launcher.listening.Ensures s
    (fun found s₁ => found = listeners ws ∧ s.SameRecords s₁) fun _ _ => False := by
  have same := Store.workflows_sameRecords s s ⟨rfl, rfl⟩
  have listed := lists.listed
  refine Act.ensures_bind.mpr ((Act.Ensures.run Store.workflows s).mono ?_ ?_)
  · intro found s₁ run
    rw [run] at listed same
    cases listed
    exact ⟨rfl, same⟩
  · intro failure s₁ run
    rw [run] at listed
    cases listed

/-- What is asked for at a tick, and what is remembered afterwards. -/
structure Ticked (s : Store) (ws : List Workflow) (now : Instant) (context : Members)
    (requests : List (Workflow × TriggerKind)) (s' : Store) : Prop where
  requests : requests = ((listeners ws).filter fun p =>
    (seen now.startOfMinute context s.remembers p).fires).map fun p => (p.1, p.2.kind)
  condition : ∀ p ∈ listeners ws, (s'.remembers p.1.id).lastCondition =
    (seen now.startOfMinute context s.remembers p).memory.lastCondition
  minute : now.InMinutes → ∀ p ∈ listeners ws,
    (seen now.startOfMinute context s.remembers p).memory.same (s'.remembers p.1.id) = true
  nodup : s'.memories.keys.Nodup

/-- The memories that matter at a tick are those of the workflows that are looked at. -/
theorem recalled_live {found : List (Workflow × Trigger)} (stored : Ordered TriggerMemory) {p : Workflow × Trigger}
    (mem : p ∈ found) : recalled (stored.filter fun pair => found.any fun q => q.1.id = pair.1) p.1.id =
      recalled stored p.1.id := by
  unfold recalled
  rw [Ordered.get?_filter_key stored fun id => found.any fun q => q.1.id = id, if_pos]
  exact List.any_eq_true.mpr ⟨p, mem, by simp⟩

/-- A look sees the same whether the memories of others are there or not. -/
theorem seen_live {now : Instant} {context : Members} {found : List (Workflow × Trigger)} {p : Workflow × Trigger}
    (mem : p ∈ found) : seen now.startOfMinute context
      (recalled (s.memories.filter fun pair => found.any fun q => q.1.id = pair.1)) p =
        seen now.startOfMinute context s.remembers p := by
  have here : recalled _ p.1.id = s.remembers p.1.id := recalled_live s.memories mem
  rw [seen, here]
  rfl

/-- Each workflow that fires is asked for with the kind of its trigger. -/
theorem requests_eq (look : Workflow × Trigger → Trigger.Look) (ws : List Workflow) :
    (((listeners ws).filter fun p => (look p).fires).map Prod.fst).filterMap
        (fun w => w.trigger?.map fun t => (w, t.2.kind)) =
      ((listeners ws).filter fun p => (look p).fires).map fun p => (p.1, p.2.kind) := by
  rw [List.filterMap_map, ← List.filterMap_eq_map]
  refine List.filterMap_congr fun p mem => ?_
  obtain ⟨-, -, node, found⟩ := mem_listeners.mp (List.mem_of_mem_filter mem)
  simp [found]

/-- What a look remembers is kept as it is, at a tick with an offset in whole minutes. -/
theorem kept_seen {now : Instant} (minutes : now.InMinutes) (context : Members) (p : Workflow × Trigger) :
    s.keeping.kept (seen now.startOfMinute context s.remembers p).memory =
      (seen now.startOfMinute context s.remembers p).memory := by
  rcases p.2.lastMinute_glance now.startOfMinute context p.1.vars (s.remembers p.1.id) with old | new
  · exact Keeping.kept_of_lastMinute (s.kept_remembers p.1.id) old
  · refine TriggerMemory.InMinutes.kept_eq ?_ _
    intro t named
    cases new.symm.trans named
    exact minutes

/-- What a look remembers can be shown, if what has been remembered can. -/
theorem shown_seen {now : Instant} (shown : now.Shown) (context : Members) (p : Workflow × Trigger)
    (remembered : (s.remembers p.1.id).Shown) : (seen now.startOfMinute context s.remembers p).memory.Shown := by
  intro t named
  rcases p.2.lastMinute_glance now.startOfMinute context p.1.vars (s.remembers p.1.id) with old | new
  · exact remembered t (old.symm.trans named)
  · cases new.symm.trans named
    exact shown.startOfMinute

/-- A tick over valid workflows asks for the launches of those whose triggers fire, once it has seen to what is
remembered of them. -/
theorem due_of_saves (lists : Lists s ws) (now : Instant) (context : Members)
    {good : List (Workflow × TriggerKind) → Store → Prop} {bad : Failure → Store → Prop}
    (saves : ∀ s₁ firing after, s.SameRecords s₁ → Reviewed now.startOfMinute context (listeners ws)
      (s.memories.filter fun pair => (listeners ws).any fun q => q.1.id = pair.1) firing after →
        (do
          let kept := after.filter fun pair => !pair.2.same .blank
          if !sameMemories kept s.memories then Store.saveTriggers kept : Act Store Unit).Ensures s₁
          (fun _ => good (((listeners ws).filter fun p => (seen now.startOfMinute context s.remembers p).fires).map
            fun p => (p.1, p.2.kind))) bad) : (due now context).Ensures s good bad := by
  refine Act.ensures_bind.mpr (lists.listening.mono ?_ fun _ _ none => none.elim)
  rintro found s₁ ⟨rfl, same⟩
  refine (Act.ensures_bind_of_ok (Store.triggers_eq s₁)).mpr ?_
  rw [same.memories]
  obtain ⟨firing, after, answer, reviewed⟩ := review_spec now.startOfMinute context lists.checked lists.apart
    (s.memories.filter fun pair => (listeners ws).any fun q => q.1.id = pair.1)
  refine Act.ensures_bind.mpr (Act.ensures_lift.mpr ⟨?_, fun failure failed => by cases answer.symm.trans failed⟩)
  rintro _ answered
  cases answer.symm.trans answered
  have requests : firing.filterMap (fun w => w.trigger?.map fun t => (w, t.2.kind)) =
      ((listeners ws).filter fun p => (seen now.startOfMinute context s.remembers p).fires).map
        fun p => (p.1, p.2.kind) := by
    rw [reviewed.fires, requests_eq, List.filter_congr fun p mem => by rw [seen_live mem]]
  have saved := saves s₁ firing after same reviewed
  dsimp only at saved ⊢
  rw [← requests] at saved
  split at saved
  · rename_i changed
    rw [if_pos changed]
    exact Act.ensures_bind.mpr saved
  · rename_i unchanged
    rw [if_neg unchanged]
    exact saved

/-- A tick over valid workflows has an answer. -/
theorem due_ticked (lists : Lists s ws) (nodup : s.memories.keys.Nodup) {now : Instant} (shown : now.Shown)
    (context : Members) : (due now context).Ensures s (Ticked s ws now context) fun _ _ => False := by
  refine due_of_saves lists now context fun s₁ firing after same reviewed => ?_
  have memories := same.memories
  have distinct : after.keys.Nodup := reviewed.nodup (Ordered.nodup_filter nodup _)
  have kept : ∀ p ∈ listeners ws, recalled (after.filter fun pair => !pair.2.same .blank) p.1.id =
      (seen now.startOfMinute context s.remembers p).memory := by
    intro p mem
    rw [recalled_filter distinct, recalled, reviewed.looked p mem, seen_live mem]
    rfl
  have nodup' := Ordered.nodup_filter distinct fun pair => !pair.2.same .blank
  dsimp only
  split
  · have shown' : ∀ shelf, s₁.keeping = .files shelf →
        ∀ pair ∈ after.filter fun pair => !pair.2.same .blank, pair.2.Shown := by
      intro shelf kind pair mem
      rw [same.2] at kind
      rcases reviewed.source pair (List.mem_of_mem_filter mem) with old | ⟨p, mem, remembered⟩
      · exact Store.shown_of_memories kind (List.mem_of_mem_filter old)
      · rw [remembered, seen_live mem]
        exact shown_seen shown context p (Store.shown_remembers kind _)
    obtain ⟨s', run, memories'⟩ := Store.saveTriggers_memories s₁ nodup' shown'
    have remembers : ∀ p ∈ listeners ws, s'.remembers p.1.id =
        s.keeping.kept (seen now.startOfMinute context s.remembers p).memory := by
      intro p mem
      rw [Store.remembers, memories', Ordered.get?_map, ← kept p mem, same.2, recalled]
      cases Ordered.get? _ p.1.id with
      | none => exact s.keeping.kept_blank.symm
      | some held => rfl
    refine (Act.ensures_of_eq (run.trans (Act.pure_run () s').symm)).mpr ⟨rfl, ?_, ?_, ?_⟩
    · intro p mem
      rw [remembers p mem, Keeping.kept_lastCondition]
    · intro minutes p mem
      rw [remembers p mem, kept_seen minutes]
      exact TriggerMemory.same_refl _
    · rw [memories', Ordered.keys, List.map_map]
      exact nodup'
  · rename_i changed
    have unchanged : sameMemories (after.filter fun pair => !pair.2.same .blank) s.memories = true := by
      simpa using changed
    have remembers : ∀ p ∈ listeners ws, (seen now.startOfMinute context s.remembers p).memory.same
        (s₁.remembers p.1.id) = true := by
      intro p mem
      have alike := same_recalled nodup' unchanged p.1.id
      rw [kept p mem] at alike
      rw [Store.remembers, memories]
      exact alike
    refine ⟨rfl, ?_, fun _ => remembers, ?_⟩
    · exact fun p mem => (TriggerMemory.same_iff.mp (remembers p mem)).1.symm
    · rwa [memories]

end Launcher

end TriggerFlow
