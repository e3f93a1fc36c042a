import TriggerFlow.Proofs.Automation.Refused

/-!
# Who looks for defects

A failure that names a defect of a graph comes from nowhere but the check that is made before a graph is put into use.
Everything else that is done with records, and all that events and ticks come to, fails for other reasons, whatever is
stored.
-/

namespace TriggerFlow

/-- A result that is no defect of a graph. -/
def NoDefect {α : Type} (r : Except Failure α) : Prop := ∀ d, r ≠ .error (.defect d)

namespace NoDefect

variable {α β : Type} {r : Except Failure α}

theorem ok (a : α) : NoDefect (.ok a : Except Failure α) := fun _ => by simp

theorem error {failure : Failure} (other : ∀ d, failure ≠ .defect d) : NoDefect (.error failure : Except Failure α) :=
  fun d => by simp [other d]

theorem bind {f : α → Except Failure β} (hr : NoDefect r) (hf : ∀ a, NoDefect (f a)) : NoDefect (r >>= f) := by
  cases r with
  | error failure => exact error fun d same => hr d (congrArg Except.error same)
  | ok a => exact hf a

theorem map {f : α → β} (hr : NoDefect r) : NoDefect (r.map f) := by
  cases r with
  | error failure => exact error fun d same => hr d (congrArg Except.error same)
  | ok a => exact ok (f a)

theorem wrapped {ε : Type} {wrap : ε → Failure} (other : ∀ fault d, wrap fault ≠ .defect d) (r : Except ε α) :
    NoDefect (r.mapError wrap) := by
  cases r with
  | error fault => exact error (other fault)
  | ok a => exact ok a

end NoDefect

namespace Act

variable {S T α β : Type}

/-- A computation that does not fail for a defect of a graph. -/
def Lenient (x : Act S α) : Prop := ∀ s, NoDefect (x s).1

namespace Lenient

variable {x : Act S α}

theorem pure (a : α) : Lenient (Pure.pure a : Act S α) := fun _ => .ok a

theorem ask (f : S → α) : Lenient (Act.ask f) := fun s => .ok (f s)

theorem modify (f : S → S) : Lenient (Act.modify f) := fun _ => .ok ()

theorem fail {failure : Failure} (other : ∀ d, failure ≠ .defect d) : Lenient (Act.fail failure : Act S α) :=
  fun _ => .error other

theorem wrapped {ε : Type} {wrap : ε → Failure} (other : ∀ fault d, wrap fault ≠ .defect d) (r : Except ε α) :
    Lenient (Act.lift wrap r : Act S α) := by
  cases r with
  | error fault => exact fail (other fault)
  | ok a => exact pure a

theorem lift {r : Except Failure α} (other : NoDefect r) : Lenient (Act.lift (fun f => f) r : Act S α) := by
  cases r with
  | error failure => exact fun _ => other
  | ok a => exact pure a

theorem bind {f : α → Act S β} (hx : Lenient x) (hf : ∀ a, Lenient (f a)) : Lenient (x >>= f) := by
  intro s
  have first := hx s
  rw [bind_apply]
  rcases run : x s with ⟨failure | a, t⟩
  · rw [run] at first
    exact .error fun d same => first d (congrArg Except.error same)
  · exact hf a t

theorem map {f : α → β} (hx : Lenient x) : Lenient (f <$> x) := by
  rw [map_eq_pure_bind]
  exact hx.bind fun a => pure (f a)

theorem mapM {f : α → Act S β} (hf : ∀ a, Lenient (f a)) (as : List α) : Lenient (as.mapM f) := by
  induction as with
  | nil => exact pure _
  | cons a rest ih =>
    rw [List.mapM_cons]
    exact .bind (hf a) fun b => ih.bind fun _ => pure _

theorem attempt (x : Act S α) : Lenient x.attempt := fun s => .ok (x s).1

theorem onPart {part : S → T} {replace : T → S → S} {x : Act T α} (hx : Lenient x) : Lenient (x.onPart part replace) :=
  fun s => hx (part s)

theorem of_sure (sure : ∀ s, x.Ensures s (fun _ _ => True) fun _ _ => False) : Lenient x :=
  fun s _ failed => (sure s).of_error (Prod.ext failed rfl)

/-- What fails, if it does, fails for another reason. -/
theorem ensures (hx : Lenient x) (s : S) : x.Ensures s (fun _ _ => True) fun failure _ => ∀ d, failure ≠ .defect d :=
  (Ensures.run x s).mono (fun _ _ _ => trivial) fun failure _ run d same => hx s d (by rw [run, same])

end Lenient

end Act

open Act (Lenient)

namespace Store

theorem readRecord_lenient {α : Type} (read : Fresh → Json → Reading α) (datum : Json) :
    Lenient (readRecord read datum) :=
  fun _ => .ok _

theorem sortItems_lenient (items : List Json) : Lenient (sortItems items) := by
  induction items with
  | nil => exact .pure _
  | cons item rest ih =>
    refine .bind (readRecord_lenient _ _) fun reading => .bind ih fun _ => ?_
    cases reading with
    | value => exact .pure _
    | issues => exact .pure _

theorem loadWorkflows_lenient (shelf : Shelf) : Lenient (loadWorkflows shelf) :=
  .bind (.ask _) fun _ => .bind (.wrapped (by simp) _) sortItems_lenient

theorem workflows_lenient : Lenient workflows :=
  .bind (.ask _) fun keeping => match keeping with
    | .memory _ => .pure _
    | .files shelf => (loadWorkflows_lenient shelf).map

theorem workflow?_lenient (id : String) : Lenient (workflow? id) :=
  .bind (.ask _) fun keeping => match keeping with
    | .memory _ => .pure _
    | .files shelf => .bind (loadWorkflows_lenient shelf) fun _ => .pure _

theorem theWorkflow_lenient (id : String) : Lenient (theWorkflow id) :=
  .bind (workflow?_lenient id) fun found => match found with
    | some _ => .pure _
    | none => .fail (by simp)

theorem saveWorkflow_lenient (w : Workflow) : Lenient (saveWorkflow w) :=
  .bind (.ask _) fun keeping => match keeping with
    | .memory _ => .modify _
    | .files shelf => .bind (loadWorkflows_lenient shelf) fun _ => .modify _

theorem updateWorkflow_lenient (id : String) (change : Workflow → Workflow) : Lenient (updateWorkflow id change) := by
  refine .bind (.ask _) fun keeping => ?_
  cases keeping with
  | memory m =>
    dsimp only
    split
    · exact .bind (.modify _) fun _ => .pure _
    · exact .fail (by simp)
  | files shelf =>
    refine .bind (loadWorkflows_lenient shelf) fun loaded => ?_
    dsimp only
    split
    · exact .bind (.modify _) fun _ => .pure _
    · exact .fail (by simp)

theorem loadExecution_lenient (path : String) : Lenient (loadExecution path) := by
  refine .bind (.ask _) fun text => ?_
  split
  · exact .pure _
  · exact (readRecord_lenient _ _).map

theorem saveExecution_lenient (e : Execution) : Lenient (saveExecution e) :=
  .bind (.ask _) fun keeping => match keeping with
    | .memory _ => .modify _
    | .files _ => .modify _

theorem execution?_lenient (id : String) : Lenient (execution? id) :=
  .bind (.ask _) fun keeping => match keeping with
    | .memory _ => .pure _
    | .files _ => loadExecution_lenient _

theorem theExecution_lenient (id : String) : Lenient (theExecution id) :=
  .bind (execution?_lenient id) fun found => match found with
    | some _ => .pure _
    | none => .fail (by simp)

theorem loadExecutions_lenient (shelf : Shelf) : ∀ names : List String, Lenient (loadExecutions shelf names)
  | [] => .pure _
  | _ :: rest => .bind (loadExecution_lenient _) fun _ => .bind (loadExecutions_lenient shelf rest) fun _ => .pure _

theorem executions_lenient (selection : Selection) : Lenient (executions selection) := by
  refine .bind (.bind (.ask _) fun keeping => ?_) fun _ => .wrapped (by simp) _
  cases keeping with
  | memory _ => exact .pure _
  | files shelf => exact .bind (.ask _) (loadExecutions_lenient shelf <| shelf.executionFiles ·)

theorem triggers_lenient : Lenient triggers :=
  .bind (.ask _) fun keeping => match keeping with
    | .memory _ => .pure _
    | .files _ => (Lenient.ask _).map

theorem saveTriggers_lenient (t : Ordered TriggerMemory) : Lenient (saveTriggers t) :=
  .bind (.ask _) fun keeping => match keeping with
    | .memory _ => .modify _
    | .files _ => .modify _

theorem draw_lenient : Lenient draw := fun _ => .ok _

/-- A draft may have any shape. -/
theorem createWorkflow_lenient {w : Workflow} (draft : w.enabled = false) : Lenient (createWorkflow w) := by
  have unchecked : requireSoundIfEnabled w = pure () := by simp [requireSoundIfEnabled, draft]
  rw [createWorkflow, unchecked]
  exact .bind (.pure _) fun _ => .bind (.ask _) fun _ => .bind (saveWorkflow_lenient _) fun _ => .pure _

theorem createFromTemplate_lenient (id : String) (name : Option String) : Lenient (createFromTemplate id name) := by
  refine .bind (.lift ?_) fun b => .bind draw_lenient fun _ => createWorkflow_lenient rfl
  unfold Catalogue.named
  split
  · exact .ok _
  · exact .error (by simp)

theorem createRun_lenient (w : Workflow) (kind : TriggerKind) (payload : Members) :
    Lenient (createRun w kind payload) := by
  refine .bind draw_lenient fun _ => .bind (saveExecution_lenient _) fun _ => .bind ?_ fun _ => .pure _
  refine .bind (workflow?_lenient _) fun found => ?_
  cases found with
  | none => exact .pure _
  | some _ => exact .bind (updateWorkflow_lenient _ _) fun _ => .pure _

end Store

namespace Trigger

theorem value?_noDefect (expression : Option String) (vars : Members) : NoDefect (value? expression vars) := by
  unfold value?
  split
  · exact .ok _
  · split
    · exact .ok _
    · split
      · exact .ok _
      · exact .error (by simp)

theorem look_noDefect (t : Trigger) (minute : Instant) (context vars : Members) (memory : TriggerMemory) :
    NoDefect (t.look minute context vars memory) := by
  unfold look
  split
  · exact .ok _
  · exact (value?_noDefect _ _).map
  · exact .ok _

theorem accepts_noDefect (t : Trigger) (payload : Members) : NoDefect (t.accepts payload) := by
  unfold accepts
  split
  · exact .ok _
  · exact (value?_noDefect _ _).map

end Trigger

namespace Launcher

theorem review_noDefect (minute : Instant) (context : Members) :
    ∀ (found : List (Workflow × Trigger)) (memories : Ordered TriggerMemory),
      NoDefect (review minute context found memories)
  | [], _ => .ok _
  | (_, t) :: rest, _ => .bind (t.look_noDefect _ _ _ _) fun _ =>
    .bind (review_noDefect minute context rest _) fun _ => .ok _

theorem listening_lenient : Lenient listening := .bind Store.workflows_lenient fun _ => .pure _

theorem due_lenient (now : Instant) (context : Members) : Lenient (due now context) := by
  refine .bind listening_lenient fun found => .bind Store.triggers_lenient fun stored => ?_
  refine .bind (.lift (review_noDefect _ _ _ _)) fun reviewed => ?_
  dsimp only
  split
  · exact .bind (Store.saveTriggers_lenient _) fun _ => .pure _
  · exact .pure _

variable {S : Type} (l : Launcher S)

theorem launchEach_lenient : ∀ firing : List (Workflow × TriggerKind), Lenient (l.launchEach firing)
  | [] => .pure _
  | _ :: rest => .bind (.attempt _) fun _ => .bind (launchEach_lenient rest) fun _ => .pure _

theorem deliverEach_lenient (payload : Members) :
    ∀ found : List (Workflow × Trigger), Lenient (l.deliverEach payload found)
  | [] => .pure _
  | (w, t) :: rest => by
    refine .bind (.lift (t.accepts_noDefect payload)) fun passes => ?_
    have others (launched : Option Execution) : Lenient (l.deliverEach payload rest >>= fun others =>
        pure (launched.toList ++ others)) := .bind (deliverEach_lenient payload rest) fun _ => .pure _
    dsimp only
    split
    · exact .bind (Lenient.attempt _).map others
    · exact .bind (.pure _) others

end Launcher

namespace Run

theorem isDue_noDefect (e : Execution) (time : Instant) (context : Members) : NoDefect (isDue e time context) := by
  unfold isDue
  split
  · rename_i wait _ _
    refine .bind (.wrapped (by simp) _) fun early => ?_
    cases early with
    | true => exact .ok _
    | false =>
      cases wait.expression with
      | none => exact .ok _
      | some expression =>
        cases wait.deadline
        on_goal 1 => refine .bind (.ok _) fun late => ?_
        on_goal 2 => refine .bind (NoDefect.wrapped (by simp) _).map fun late => ?_
        -- with or without a deadline, a condition is asked for unless it is late
        all_goals
          dsimp only
          split
          · exact .ok _
          · split
            · exact .ok _
            · split
              · exact .ok _
              · exact .error (by simp)
  · exact .ok _

end Run

namespace Automation

variable {δ α : Type} (setup : Setup δ)

theorem inStore_lenient {x : Act Store α} (lenient : Lenient x) : Lenient (inStore x : Act (Automation δ) α) :=
  .onPart (.onPart (.onPart lenient))

theorem submit_lenient (errand : Errand) : Lenient (submit setup errand) := .of_sure (submit_sure setup errand)

theorem launch_lenient (w : Workflow) (kind : TriggerKind) (payload : Members) :
    Lenient (launch setup w kind payload) :=
  .bind (inStore_lenient (Store.createRun_lenient w kind payload)) fun _ =>
    .bind (submit_lenient setup _) fun _ => .pure _

theorem emit_lenient (event : String) (payload : Members) : Lenient (emit setup event payload) :=
  .bind (inStore_lenient Launcher.listening_lenient) fun _ => Launcher.deliverEach_lenient _ payload _

theorem resumeEach_lenient (time : Instant) (context : Members) :
    ∀ waiting : List Execution, Lenient (resumeEach setup time context waiting)
  | [] => .pure _
  | e :: rest => by
    have others (due : Bool) : Lenient (resumeEach setup time context rest >>= fun others =>
        pure (if due then e.id :: others else others)) := .bind (resumeEach_lenient time context rest) fun _ => .pure _
    have judged (due : Bool) : Lenient (do
        if due then submit setup (.resume e (some time) context)
        let others ← resumeEach setup time context rest
        pure (if due then e.id :: others else others)) := by
      cases due with
      | false => exact others false
      | true => exact .bind (submit_lenient setup _) fun _ => others true
    refine .bind (.ask _) fun busy => ?_
    dsimp only
    split
    · exact .bind (.pure _) judged
    · exact .bind (.lift (Run.isDue_noDefect e time context)) judged

theorem resumeDue_lenient (time : Instant) (context : Members) : Lenient (resumeDue setup time context) :=
  .bind (inStore_lenient (Store.executions_lenient _)) (resumeEach_lenient setup time context)

theorem tick_lenient (time : Option Instant) (context : Members) : Lenient (tick setup time context) := by
  refine .bind (inStore_lenient (.ask _)) fun now => ?_
  have launches : Lenient ((launcher setup).tick (time.getD now) context) :=
    .bind (inStore_lenient (Launcher.due_lenient _ context)) (Launcher.launchEach_lenient _)
  exact .bind launches fun _ => .bind (resumeDue_lenient setup _ context) fun _ => .pure _

end Automation

end TriggerFlow
