import TriggerFlow.Proofs.Automation.Delivery
import TriggerFlow.Proofs.Run.Preserving

/-!
# The system leaves what triggers remember to the ticks

A launch out of the system draws an identifier, stores and counts a run, and may carry errands out with all that comes
of them. An edit stores, changes or removes a definition. None of it touches the memory of triggers, be it in memory or
in a file. So what is said of ticks under watch holds of the ticks of a session, whatever else is asked in it.
-/

namespace TriggerFlow

namespace Store

/-- The memory of triggers is what it was. -/
theorem memories_indifferent (held : Ordered TriggerMemory) : Indifferent fun s => s.memories = held where
  drawn same _ := same
  memoryRuns kind same _ := by
    rw [← same, memories, memories, kind]
  setRun {s shelf} kind same id text := by
    rw [← same, memories, memories, kind]
    exact congrArg triggersOfText (Ordered.get?_set_of_ne _ _ (shelf.execution_ne_triggers id))
  eraseRun {s shelf} kind same id := by
    rw [← same, memories, memories, kind]
    exact congrArg triggersOfText
      (by rw [Ordered.get?_erase, Function.update_of_ne (shelf.execution_ne_triggers id).symm])
  memoryWorkflows kind same _ := by
    rw [← same, memories, memories, kind]
  setWorkflows {s shelf} kind same text := by
    rw [← same, memories, memories, kind]
    exact congrArg triggersOfText (Ordered.get?_set_of_ne _ _ shelf.workflows_ne_triggers)

variable {P : Store → Prop}

namespace FreeOfWorkflows

variable (free : FreeOfWorkflows P)
include free

theorem touchWorkflow (id : String) (change : Workflow → Workflow) : (Store.touchWorkflow id change).Preserves P :=
  (free.workflow? id).bind fun found => by
    cases found with
    | none => exact .pure _
    | some w => exact (free.updateWorkflow id change).bind fun _ => .pure _

theorem countFailure (e : Execution) : (Store.countFailure e).Preserves P := by
  unfold Store.countFailure
  split
  · exact free.touchWorkflow _ _
  · exact .pure _

end FreeOfWorkflows

variable (indifferent : Indifferent P)
include indifferent

namespace Indifferent

theorem createRun (w : Workflow) (kind : TriggerKind) (payload : Members) :
    (Store.createRun w kind payload).Preserves P :=
  indifferent.draw.bind fun _ => (indifferent.saveExecution _).bind fun _ =>
    (indifferent.touchWorkflow _ _).bind fun _ => .pure _

theorem theExecution (id : String) : (Store.theExecution id).Preserves P :=
  (indifferent.execution? id).bind fun found => by
    cases found with
    | none => exact .fail _
    | some e => exact .pure _

theorem theWorkflow (id : String) : (Store.theWorkflow id).Preserves P :=
  (indifferent.workflow? id).bind fun found => by
    cases found with
    | none => exact .fail _
    | some w => exact .pure _

omit indifferent in
theorem requireSound {S : Type} {P : S → Prop} (g : Graph) : (Launcher.requireSound g : Act S Unit).Preserves P :=
  .bind (.lift _ _) fun found => by
    cases found with
    | nil => exact .pure _
    | cons d rest => exact .fail _

omit indifferent in
theorem requireSoundIfEnabled (w : Workflow) : (Store.requireSoundIfEnabled w).Preserves P := by
  unfold Store.requireSoundIfEnabled
  split
  · exact requireSound _
  · exact .pure _

theorem createWorkflow (w : Workflow) : (Store.createWorkflow w).Preserves P :=
  (requireSoundIfEnabled w).bind fun _ => .bind (.ask _) fun _ => (indifferent.saveWorkflow _).bind fun _ => .pure _

theorem createOfRecord (datum : Json) : (Store.createOfRecord datum).Preserves P := by
  refine .bind (.bind (readRecord_preserves indifferent.drawn _ _) fun reading => ?_) indifferent.createWorkflow
  cases reading with
  | value w => exact .pure _
  | issues found => exact .fail _

theorem createFromTemplate (id : String) (name : Option String) : (Store.createFromTemplate id name).Preserves P :=
  .bind (.lift _ _) fun _ => indifferent.draw.bind fun _ => indifferent.createWorkflow _

theorem reviseWorkflow (id : String) (edit : Reading Edit) : (Store.reviseWorkflow id edit).Preserves P := by
  refine (indifferent.theWorkflow id).bind fun w => .bind (.ask _) fun now => ?_
  cases edit with
  | issues found => exact .fail _
  | value edit =>
    exact (requireSoundIfEnabled _).bind fun _ => (indifferent.saveWorkflow _).bind fun _ => .pure _

theorem editWorkflow (id : String) (changes : Members) : (Store.editWorkflow id changes).Preserves P := by
  unfold Store.editWorkflow
  split
  · exact indifferent.reviseWorkflow id _
  · exact .fail _

theorem importWorkflow (document : Json) (name id : Option String) :
    (Store.importWorkflow document name id).Preserves P := by
  refine .bind (.lift _ _) fun g => ?_
  cases id with
  | some id => exact indifferent.reviseWorkflow id _
  | none => exact indifferent.draw.bind fun _ => indifferent.createWorkflow _

theorem enableWorkflow (id : String) : (Store.enableWorkflow id).Preserves P :=
  (indifferent.theWorkflow id).bind fun _ => (requireSound _).bind fun _ => indifferent.updateWorkflow id _

theorem disableWorkflow (id : String) : (Store.disableWorkflow id).Preserves P :=
  (indifferent.theWorkflow id).bind fun _ => indifferent.updateWorkflow id _

theorem removeWorkflow (id : String) : (Store.removeWorkflow id).Preserves P :=
  (indifferent.deleteWorkflow id).bind fun there => by
    cases there with
    | true => exact .pure _
    | false => exact .fail _

theorem listening : Launcher.listening.Preserves P := by
  refine .bind (.bind (.ask _) fun kind => ?_) fun _ => .pure _
  cases kind with
  | memory m => exact .pure _
  | files shelf => exact (loadWorkflows_preserves indifferent.drawn shelf).map

end Indifferent

end Store

namespace Automation

variable {δ α : Type} (setup : Setup δ) {P : Store → Prop}

theorem inStore_preserves {x : Act Store α} (preserves : x.Preserves P) :
    (inStore x : Act (Automation δ) α).Preserves fun a => P a.store := fun a held => preserves a.store held

section Errands

variable (indifferent : Store.Indifferent P) (passing : ∀ micros, (World.pass micros).Preserves P)
include indifferent passing

theorem surroundings_preserve : (surroundings setup).Preserve fun w => P w.store :=
  World.preserve setup.dispatcher none indifferent.toFreeOfExecutions passing

theorem carryOut_preserves (errand : Errand) : (carryOut setup errand).Preserves fun a => P a.store := by
  have preserve := surroundings_preserve setup indifferent passing
  have driven : (drive setup errand).Preserves fun d => P d.world.store := by
    cases errand with
    | start e => exact preserve.start setup.limits e
    | resume e time context => exact preserve.resume setup.limits e time context
  have whole : (do
      let driven ← atDesk (drive setup errand)
      inStore (Store.countFailure driven.answer) : Act (Automation δ) Unit).Preserves fun a => P a.store :=
    .bind (fun a held => driven a.desk held) fun _ => inStore_preserves (indifferent.countFailure _)
  exact Act.Preserves.recover whole fun _ => .pure _

theorem carryOutEach_preserves : ∀ errands, (carryOutEach setup errands).Preserves fun a => P a.store
  | [] => .pure _
  | errand :: rest => (carryOut_preserves setup indifferent passing errand).bind fun _ =>
    .bind (.modify fun _ held => held) fun _ => carryOutEach_preserves rest

theorem submit_preserves (errand : Errand) : (submit setup errand).Preserves fun a => P a.store := by
  refine .bind (.ask _) fun busy => ?_
  split
  · exact .pure _
  refine .bind (.modify fun _ held => held) fun _ => ?_
  split
  · exact .bind (.ask _) fun _ => carryOutEach_preserves setup indifferent passing _
  · exact .pure _

theorem launch_preserves (w : Workflow) (kind : TriggerKind) (payload : Members) :
    (launch setup w kind payload).Preserves fun a => P a.store :=
  (inStore_preserves (indifferent.createRun w kind payload)).bind fun _ =>
    (submit_preserves setup indifferent passing _).bind fun _ => .pure _

theorem run_preserves (id : String) (vars : Members) : (run setup id vars).Preserves fun a => P a.store := by
  refine (inStore_preserves (indifferent.workflow? id)).bind fun found => ?_
  cases found with
  | none => exact .fail _
  | some w =>
    dsimp only
    split
    · exact .fail _
    · exact (Store.Indifferent.requireSound _).bind fun _ => launch_preserves setup indifferent passing w _ vars

theorem deliverEach_preserves (payload : Members) :
    ∀ found, ((launcher setup).deliverEach payload found).Preserves fun a => P a.store
  | [] => .pure _
  | (w, t) :: rest => by
    have others := deliverEach_preserves payload rest
    have launches := launch_preserves setup indifferent passing w .event payload
    have tries : (Except.toOption <$> (launch setup w .event payload).attempt).Preserves fun a => P a.store :=
      .map launches
    refine .bind (.lift _ _) fun passes => ?_
    cases passes with
    | true => exact tries.bind fun _ => others.bind fun _ => .pure _
    | false => exact others.bind fun _ => .pure _

theorem emit_preserves (event : String) (payload : Members) : (emit setup event payload).Preserves fun a => P a.store :=
  (inStore_preserves indifferent.listening).bind fun _ => deliverEach_preserves setup indifferent passing payload _

theorem cancel_preserves (id : String) : (cancel setup id).Preserves fun a => P a.store := by
  have preserve := surroundings_preserve setup indifferent passing
  exact .bind (fun a held => preserve.requestCancel id a.desk held) fun _ =>
    inStore_preserves (indifferent.theExecution id)

theorem submitStored_preserves (id : String) : (submitStored setup id).Preserves fun a => P a.store :=
  (inStore_preserves (indifferent.theExecution id)).bind fun _ =>
    (submit_preserves setup indifferent passing _).bind fun _ => .ask _

theorem resumeEach_preserves (time : Instant) (context : Members) :
    ∀ waiting, (resumeEach setup time context waiting).Preserves fun a => P a.store
  | [] => .pure _
  | e :: rest => by
    have others := resumeEach_preserves time context rest
    have next (due : Bool) : (do
        if due then submit setup (.resume e (some time) context)
        let others ← resumeEach setup time context rest
        pure (if due then e.id :: others else others)).Preserves fun a : Automation δ => P a.store := by
      cases due with
      | true =>
        exact (submit_preserves setup indifferent passing _).bind fun _ => others.bind fun _ => .pure _
      | false => exact others.bind fun _ => .pure _
    refine .bind (.ask _) fun busy => ?_
    cases busy with
    | true => exact next false
    | false => exact .bind (.lift _ _) next

theorem resumeDue_preserves (time : Instant) (context : Members) :
    (resumeDue setup time context).Preserves fun a => P a.store :=
  (inStore_preserves (indifferent.executions _)).bind fun _ =>
    resumeEach_preserves setup indifferent passing time context _

/-- Whatever is asked of the system but for a tick, a property that does not depend on the clock is preserved. -/
theorem preserves_after (timeless : ∀ s time, P s → P { s with now := time }) {request : Request}
    (quiet : ∀ time context, request ≠ .tick time context) {a : Automation δ} (held : P a.store) :
    P (a.after setup request).store := by
  cases request with
  | create w => exact indifferent.createWorkflow w a.store held
  | createOfRecord datum => exact indifferent.createOfRecord datum a.store held
  | createFromTemplate id name => exact indifferent.createFromTemplate id name a.store held
  | edit id changes => exact indifferent.editWorkflow id changes a.store held
  | take document name id => exact indifferent.importWorkflow document name id a.store held
  | enable id => exact indifferent.enableWorkflow id a.store held
  | disable id => exact indifferent.disableWorkflow id a.store held
  | remove id => exact indifferent.removeWorkflow id a.store held
  | run id vars => exact run_preserves setup indifferent passing id vars a held
  | emit event payload => exact emit_preserves setup indifferent passing event payload a held
  | tick time context => exact absurd rfl (quiet time context)
  | cancel id => exact cancel_preserves setup indifferent passing id a held
  | submit id => exact submitStored_preserves setup indifferent passing id a held
  | drain => exact Act.Preserves.bind (.ask _) (fun _ => carryOutEach_preserves setup indifferent passing _) a held
  | clock time => exact timeless _ _ held

end Errands

theorem pass_memories (held : Ordered TriggerMemory) (micros : Int) :
    (World.pass micros).Preserves fun s => s.memories = held := World.pass_preserves (fun same _ => same) micros

theorem launcher_over : (launcher setup).Over Automation.store where
  answer _ _ := rfl
  state _ _ := rfl
  launch _ a := launch_preserves setup (Store.memories_indifferent a.store.memories) (pass_memories _) _ _ _ a rfl

section Watching

variable {id : String} {outset : Store} {sights : List Sight} {a : Automation δ}

/-- A tick of the system is a tick under watch: what it does for runs that wait comes after it. -/
theorem tick_watched (watch : Watch id outset sights a.store) {ws : List Workflow}
    (lists : Launcher.Lists a.store ws) {p : Workflow × Trigger} (listens : p ∈ Launcher.listeners ws)
    (named : p.1.id = id) {now : Instant} (shown : now.Shown) (context : Members) :
    Watch id outset (sights ++ [⟨p.1, p.2, now, context,
        Launcher.kindsOf id (Launcher.asked ((launcher setup).noting.tick now context) a)⟩])
      (tick setup (some now) context a).2.store := by
  have ticked := Watch.tick (launcher_over setup) watch lists listens named shown context
  refine ticked.meanwhile ?_
  generalize after : ((launcher setup).tick now context a).2.store.memories = held
  have launches : tick setup (some now) context a = ((launcher setup).tick now context >>= fun started =>
      resumeDue setup now context >>= fun resumed => pure ⟨started, resumed⟩ : Act (Automation δ) Ticked) a := rfl
  rw [launches, Act.bind_apply]
  rcases run : (launcher setup).tick now context a with ⟨_ | started, b⟩ <;> rw [run] at after
  · exact after
  · exact ((resumeDue_preserves setup (Store.memories_indifferent held) (pass_memories held) now context).bind
      fun _ => .pure _) b after

/-- Whatever else is asked of the system between two ticks, the watch goes on. -/
theorem asked_watched (watch : Watch id outset sights a.store) {request : Request}
    (quiet : ∀ time context, request ≠ .tick time context) : Watch id outset sights (a.after setup request).store :=
  watch.meanwhile (preserves_after setup (Store.memories_indifferent a.store.memories) (pass_memories _)
    (fun _ _ same => same) quiet rfl)

/-- Requests lead from one state of the system to another, and their ticks show a workflow that is on offer at each of
them. -/
inductive Shows (setup : Setup δ) (id : String) : Automation δ → List Request → List Sight → Automation δ → Prop
  | done (a : Automation δ) : Shows setup id a [] [] a
  | asked {a b : Automation δ} {request : Request} {requests : List Request} {sights : List Sight}
      (quiet : ∀ time context, request ≠ .tick time context)
      (rest : Shows setup id (a.after setup request) requests sights b) :
      Shows setup id a (request :: requests) sights b
  | tick {a b : Automation δ} {time : Option Instant} {context : Members} {requests : List Request}
      {sights : List Sight} {p : Workflow × Trigger} (listens : p ∈ Launcher.listeners a.store.definitions.values)
      (named : p.1.id = id) {now : Instant} (clock : now = time.getD a.store.now) (shown : now.Shown)
      (rest : Shows setup id (a.after setup (.tick time context)) requests sights b) :
      Shows setup id a (.tick time context :: requests)
        (⟨p.1, p.2, now, context,
          Launcher.kindsOf id (Launcher.asked ((launcher setup).noting.tick now context) a)⟩ :: sights) b

variable {setup}

/-- In a session, a workflow that each tick finds on offer is under watch, whatever is asked between the ticks. -/
theorem Session.watched {past : List (Automation δ)} {b : Automation δ} {requests : List Request} {more : List Sight}
    (session : Session setup past a) (watch : Watch id outset sights a.store)
    (shows : Shows setup id a requests more b) : Watch id outset (sights ++ more) b.store := by
  induction shows generalizing past sights with
  | done => simpa using watch
  | asked quiet _ ih => exact ih (session.asked _) (asked_watched setup watch quiet)
  | @tick a _ time context _ _ p listens named now clock shown _ ih =>
    have ticked := tick_watched setup watch session.lists listens named shown context
    have same : (tick setup (some now) context a).2.store = (a.after setup (.tick time context)).store := by
      rw [clock]
      rfl
    rw [same] at ticked
    simpa using ih (session.asked _) ticked

end Watching

end Automation

end TriggerFlow
