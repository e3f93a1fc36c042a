import TriggerFlow.Proofs.Automation.Request

/-!
# Sessions with the running system

A session begins with a system over an empty store in memory, and requests come in one after the other, in any
order. Each of them comes down to moves, and so whatever the moves keep holds all along.
-/

namespace TriggerFlow.Automation

open Run (Meanwhile SameRun)

variable {δ α : Type} {setup : Setup δ} {origin : Origin} {a b c : Automation δ} {past : List (Automation δ)}

/-- What can be asked of the running system. -/
inductive Request where
  | create (w : Workflow)
  | createOfRecord (datum : Json)
  | createFromTemplate (id : String) (name : Option String)
  | edit (id : String) (changes : Members)
  | take (document : Json) (name id : Option String)
  | enable (id : String)
  | disable (id : String)
  | remove (id : String)
  | run (id : String) (vars : Members)
  | emit (event : String) (payload : Members)
  | tick (time : Option Instant) (context : Members)
  | cancel (id : String)
  | submit (id : String)
  | drain
  /-- The clock is set. -/
  | clock (time : Instant)

/-- What a request may launch: the payload is what comes with the request, if anything does. -/
def Request.Launches (request : Request) (w : Workflow) (kind : TriggerKind) (payload : Members) : Prop :=
  match request with
  | .run id vars => w.id = id ∧ kind = .manual ∧ payload = vars
  | .emit _ sent => kind = .event ∧ payload = sent
  | .tick _ _ => payload = []
  | _ => False

/-- What a request launches of the workflows on offer has an origin of the kind that is asked for, and so have the runs
that are known already. -/
structure Sources (origin : Origin) (a : Automation δ) (request : Request) : Prop where
  same : ∀ e e', SameRun e e' → origin.of e → origin.of e'
  admits : ∀ w kind payload, Offered a.store w → request.Launches w kind payload → Admits origin a w kind payload
  known : ∀ e, a.Holds e → origin.of e

/-- Copies of waiting runs are taken in, unless their runs have errands already. -/
theorem resumeEach_travels (time : Instant) (context : Members) : ∀ {found : List Execution} {a : Automation δ},
    Steady setup a → (found.map Execution.id).Nodup →
      (∀ e ∈ found, e.status = .waiting ∧ origin.of e ∧ a.store.Drawn e.id ∧
        Meanwhile (some e) (a.store.runs.get? e.id) ∧
          ((surroundings setup).Spares e.id → a.store.runs.get? e.id ≠ none)) →
        Travels setup origin (resumeEach setup time context found) a
  | [], a, steady, _, _ => .refl steady
  | e :: rest, a, steady, nodup, copies => by
    obtain ⟨once, nodup⟩ := List.nodup_cons.mp nodup
    have others {b : Automation δ} (goes : Goes setup origin a b) (aside : Aside [e.id] a b) :
        (resumeEach setup time context rest).Ensures b (fun _ => Goes setup origin a)
          fun _ => Goes setup origin a := by
      refine Travels.after goes (resumeEach_travels time context (goes.steady steady) nodup ?_)
      intro e' mem
      obtain ⟨waits, known, drawn, meanwhile, kept⟩ := copies e' (List.mem_cons_of_mem _ mem)
      have other : e'.id ∉ [e.id] := fun same =>
        once (List.mem_singleton.mp same ▸ List.mem_map_of_mem mem)
      exact ⟨waits, known, drawn.mono (goes.moves.drawn_le steady.orderly), meanwhile.trans (aside _ other),
        fun spares => goes.moves.kept steady.orderly spares (kept spares)⟩
    have goes (due : Bool) : (do
        if due then submit setup (.resume e (some time) context)
        let others ← resumeEach setup time context rest
        pure (if due then e.id :: others else others) : Act (Automation δ) (List String)).Ensures a
          (fun _ => Goes setup origin a) fun _ => Goes setup origin a := by
      cases due with
      | false =>
        refine Act.ensures_bind.mpr ?_
        exact (others (.refl steady) fun _ _ => .same _).mono (fun _ _ h => h) fun _ _ h => h
      | true =>
        obtain ⟨waits, known, drawn, meanwhile, kept⟩ := copies e List.mem_cons_self
        refine Act.ensures_bind.mpr ((submit_spec origin steady (.resume e (some time) context) known drawn
          meanwhile kept waits).mono ?_ fun _ _ none => none.elim)
        rintro - b ⟨goes, aside⟩
        refine Act.ensures_bind.mpr ?_
        exact (others goes aside).mono (fun _ _ h => h) fun _ _ h => h
    refine Act.ensures_bind.mpr (Act.ensures_ask.mpr ?_)
    split
    · exact Act.ensures_bind.mpr (Act.ensures_pure.mpr (goes false))
    · exact Act.ensures_bind.mpr (Act.ensures_lift.mpr ⟨fun due _ => goes due, fun _ _ => .refl steady⟩)

theorem resumeDue_travels (steady : Steady setup a) (known : ∀ e, a.Holds e → origin.of e) (time : Instant)
    (context : Members) : Travels setup origin (resumeDue setup time context) a := by
  refine Act.ensures_bind.mpr (ensures_inStore.mpr ((Store.executions_spec steady.orderly.kept _).mono ?_ ?_))
  · rintro found s ⟨same, nodup, stored⟩
    rw [same]
    refine resumeEach_travels time context steady nodup ?_
    intro e mem
    obtain ⟨here, selected⟩ := stored e mem
    have waits : e.status = .waiting := by simpa [Store.Selection.holds] using selected
    have present : a.store.runs.get? e.id ≠ none := by simp [here]
    refine ⟨waits, known e (.inl here), steady.orderly.runs e.id present, ?_, fun _ => present⟩
    show Meanwhile (some e) (a.store.runs.get? e.id)
    rw [here]
    exact .same _
  · rintro _ s same
    rw [same]
    exact .refl steady

section Requests

variable (steady : Steady setup a)
include steady

theorem invoke_travels {id : String} {payload : Members} (sources : Sources origin a (.run id payload)) :
    Travels setup origin ((launcher setup).invoke id payload) a := by
  refine Act.ensures_bind.mpr (ensures_inStore.mpr ((Store.workflow?_spec steady.orderly.kept id).mono ?_
    fun _ _ none => none.elim))
  rintro found s ⟨rfl, same⟩
  rw [same]
  cases stored : a.store.definitions.get? id with
  | none => exact .refl steady
  | some w =>
    dsimp only
    split
    · exact .refl steady
    · rename_i on
      have here : w.id = id := steady.orderly.kept.definitions.label_eq stored
      have offered : Offered a.store w := ⟨here ▸ stored, by simpa using on⟩
      refine Act.ensures_bind.mpr ((Store.requireSound_spec w.graph).mono ?_ ?_)
      · rintro - b ⟨same, -⟩
        rw [same]
        exact launch_travels steady (sources.admits w .manual payload offered ⟨here, rfl, rfl⟩)
      · rintro _ b ⟨same, -⟩
        rw [same]
        exact .refl steady

theorem deliver_travels {event : String} {payload : Members} (sources : Sources origin a (.emit event payload)) :
    Travels setup origin ((launcher setup).deliver event payload) a := by
  refine Act.ensures_bind.mpr (ensures_inStore.mpr ((listening_spec steady.orderly.kept).mono ?_
    fun _ _ none => none.elim))
  rintro found s ⟨same, offered⟩
  rw [same]
  apply deliverEach_travels payload steady
  exact fun p mem => sources.admits p.1 .event payload (offered p (List.mem_of_mem_filter mem)) ⟨rfl, rfl⟩

theorem launcher_tick_travels {time : Option Instant} {context : Members}
    (sources : Sources origin a (.tick time context)) (now : Instant) :
    Travels setup origin ((launcher setup).tick now context) a := by
  refine Act.ensures_bind.mpr (ensures_inStore.mpr ((due_spec steady.orderly.kept now context).mono ?_ ?_))
  · rintro firing s ⟨reruns, offered⟩
    have goes : Goes setup origin a (a.withStore s) := .of_reruns steady reruns
    refine Travels.after goes (launchEach_travels (goes.steady steady) ?_)
    intro p mem
    exact (sources.admits p.1 p.2 [] (offered p mem) rfl).after steady goes
  · exact fun _ s reruns => .of_reruns steady reruns

theorem tick_travels {time : Option Instant} {context : Members} (sources : Sources origin a (.tick time context)) :
    Travels setup origin (tick setup time context) a := by
  refine Act.ensures_bind.mpr (ensures_inStore.mpr (Act.ensures_ask.mpr (Act.ensures_bind.mpr ?_)))
  refine (launcher_tick_travels steady sources _).mono ?_ fun _ _ h => h
  intro started b goes
  have known := goes.moves.origin_of_holds sources.same steady.orderly sources.known
  have resumed := resumeDue_travels (goes.steady steady) known (time.getD a.store.now) context
  exact Act.ensures_bind.mpr ((Travels.after goes resumed).mono (fun _ _ h => h) fun _ _ h => h)

theorem cancel_travels (id : String) : Travels setup origin (cancel setup id) a := by
  have goes : Goes setup origin a { a with desk := (Run.requestCancel (surroundings setup) id a.desk).2 } :=
    ⟨.single (.asked id), steady.prompt⟩
  have asked := Act.Ensures.run (Run.requestCancel (surroundings setup) id) a.desk
  refine Act.ensures_bind.mpr (ensures_atDesk.mpr (asked.mono ?_ ?_))
  · intro _ d ran
    rw [show d = (Run.requestCancel (surroundings setup) id a.desk).2 by rw [ran]]
    refine ensures_inStore.mpr ((Store.theExecution_spec (goes.steady steady).orderly.kept id).mono ?_ ?_)
    · rintro e s ⟨same, -⟩
      rw [same]
      exact goes
    · rintro _ s same
      rw [same]
      exact goes
  · intro _ d ran
    rw [show d = (Run.requestCancel (surroundings setup) id a.desk).2 by rw [ran]]
    exact goes

theorem submitStored_walks {id : String} (sources : Sources origin a (.submit id)) :
    Walks setup origin (submitStored setup id) a := by
  refine Act.ensures_bind.mpr (ensures_inStore.mpr ((Store.theExecution_spec steady.orderly.kept id).mono ?_ ?_))
  · rintro e s ⟨same, stored⟩
    rw [same]
    obtain rfl := steady.orderly.kept.runs.label_eq stored
    have meanwhile : Meanwhile (some e) (a.store.runs.get? e.id) := stored ▸ .same _
    have present : a.store.runs.get? e.id ≠ none := by simp [stored]
    refine Act.ensures_bind.mpr ((submit_walks origin steady (.start e) (sources.known e (.inl stored))
      (steady.orderly.runs e.id present) meanwhile fun _ => present).mono ?_ fun _ _ none => none.elim)
    exact fun _ b done => done.1
  · rintro _ s same
    rw [same]
    exact .refl steady

end Requests

/-- The system after a request, whether it has succeeded or not. -/
def after (setup : Setup δ) (a : Automation δ) : Request → Automation δ
  | .create w => (inStore (Store.createWorkflow w) a).2
  | .createOfRecord datum => (inStore (Store.createOfRecord datum) a).2
  | .createFromTemplate id name => (inStore (Store.createFromTemplate id name) a).2
  | .edit id changes => (inStore (Store.editWorkflow id changes) a).2
  | .take document name id => (inStore (Store.importWorkflow document name id) a).2
  | .enable id => (inStore (Store.enableWorkflow id) a).2
  | .disable id => (inStore (Store.disableWorkflow id) a).2
  | .remove id => (inStore (Store.removeWorkflow id) a).2
  | .run id vars => (run setup id vars a).2
  | .emit event payload => (emit setup event payload a).2
  | .tick time context => (tick setup time context a).2
  | .cancel id => (cancel setup id a).2
  | .submit id => (submitStored setup id a).2
  | .drain => (drain setup a).2
  | .clock time => a.withStore { a.store with now := time }

/-- What a request does. What it answers does not matter here. -/
def Request.act (setup : Setup δ) : Request → Act (Automation δ) Unit
  | .create w => (fun _ => ()) <$> inStore (Store.createWorkflow w)
  | .createOfRecord datum => (fun _ => ()) <$> inStore (Store.createOfRecord datum)
  | .createFromTemplate id name => (fun _ => ()) <$> inStore (Store.createFromTemplate id name)
  | .edit id changes => (fun _ => ()) <$> inStore (Store.editWorkflow id changes)
  | .take document name id => (fun _ => ()) <$> inStore (Store.importWorkflow document name id)
  | .enable id => (fun _ => ()) <$> inStore (Store.enableWorkflow id)
  | .disable id => (fun _ => ()) <$> inStore (Store.disableWorkflow id)
  | .remove id => inStore (Store.removeWorkflow id)
  | .run id vars => (fun _ => ()) <$> Automation.run setup id vars
  | .emit event payload => (fun _ => ()) <$> Automation.emit setup event payload
  | .tick time context => (fun _ => ()) <$> Automation.tick setup time context
  | .cancel id => (fun _ => ()) <$> Automation.cancel setup id
  | .submit id => (fun _ => ()) <$> submitStored setup id
  | .drain => Automation.drain setup
  | .clock time => Act.modify fun a => a.withStore { a.store with now := time }

theorem state_map (x : Act (Automation δ) α) (a : Automation δ) : ((fun _ => ()) <$> x : Act _ Unit) a =
    ((x a).1.map fun _ => (), (x a).2) := by
  rw [map_eq_pure_bind, Act.bind_apply]
  rcases x a with ⟨_ | _, b⟩ <;> rfl

/-- The state after a request is what the request makes of the state before. -/
theorem act_state (request : Request) (a : Automation δ) : (request.act setup a).2 = a.after setup request := by
  cases request <;> first | rfl | simp only [Request.act, after, state_map]

/-- The requests that concern definitions only. -/
def Request.OnDefinitions : Request → Prop
  | .create _ | .createOfRecord _ | .createFromTemplate _ _ | .edit _ _ | .take _ _ _ | .enable _ | .disable _
  | .remove _ => True
  | _ => False

/-- The requests that leave definitions alone, apart from counts. To submit stored runs once more is not among them. -/
def Request.OnRuns : Request → Prop
  | .run _ _ | .emit _ _ | .tick _ _ | .cancel _ | .drain | .clock _ => True
  | _ => False

/-- Every request that leaves definitions alone comes down to motions. -/
theorem goes_after (steady : Steady setup a) {request : Request} (sources : Sources origin a request)
    (on : request.OnRuns) : Goes setup origin a (a.after setup request) := by
  have kept := steady.orderly.kept
  cases request with
  | run id vars => exact (invoke_travels steady sources).state
  | emit event payload => exact (deliver_travels steady sources).state
  | tick time context => exact (tick_travels steady sources).state
  | cancel id => exact (cancel_travels steady id).state
  | drain => exact (drain_travels origin steady).state
  | clock time => exact .of_reruns steady ⟨⟨kept.kind, kept.runs, kept.definitions⟩, rfl, rfl, le_refl _⟩
  | create | createOfRecord | createFromTemplate | edit | take | enable | disable | remove | submit => exact on.elim

/-- Every request comes down to moves. -/
theorem reaches_after (steady : Steady setup a) {request : Request} (sources : Sources origin a request) :
    Reaches setup origin a (a.after setup request) := by
  have kept := steady.orderly.kept
  cases request with
  | create w => exact (inStore_walks steady (Store.createWorkflow_edits kept w)).state
  | createOfRecord datum => exact (inStore_walks steady (Store.createOfRecord_edits kept datum)).state
  | createFromTemplate id name => exact (inStore_walks steady (Store.createFromTemplate_edits kept id name)).state
  | edit id changes => exact (inStore_walks steady (Store.editWorkflow_edits kept id changes)).state
  | take document name id => exact (inStore_walks steady (Store.importWorkflow_edits kept document name id)).state
  | enable id => exact (inStore_walks steady (Store.enableWorkflow_edits kept id)).state
  | disable id => exact (inStore_walks steady (Store.disableWorkflow_edits kept id)).state
  | remove id => exact (inStore_walks steady (Store.removeWorkflow_edits kept id)).state
  | submit id => exact (submitStored_walks steady sources).state
  | run | emit | tick | cancel | drain | clock => exact (goes_after steady sources trivial).reaches

/-- A store in memory that holds nothing. -/
def emptyStore (now : Instant) (drawn : Nat) : Store := ⟨now, drawn, [], .memory .empty⟩

/-- A session with the system, and the states that it has been in before, the latest first. -/
inductive Session (setup : Setup δ) : List (Automation δ) → Automation δ → Prop where
  | opened (now : Instant) (drawn : Nat) (agent : δ) : Session setup [] (opened (emptyStore now drawn) agent)
  | asked {past : List (Automation δ)} {a : Automation δ} (session : Session setup past a) (request : Request) :
    Session setup (a :: past) (a.after setup request)

theorem opened_steady (now : Instant) (drawn : Nat) (agent : δ) :
    Steady setup (opened (emptyStore now drawn) agent) where
  orderly := by
    refine ⟨⟨⟨_, rfl⟩, .nil, .nil⟩, rfl, fun id present => absurd rfl present, ?_, ?_, .nil⟩
    · simp [opened]
    · simp [opened]
  prompt _ := rfl

/-- Anything may come from anywhere. -/
theorem sources_trivial (a : Automation δ) (request : Request) : Sources (.plain fun _ => True) a request where
  same _ _ _ _ := trivial
  admits _ _ _ _ _ := ⟨trivial, fun _ _ => trivial⟩
  known _ _ := trivial

theorem Session.steady (session : Session setup past a) : Steady setup a := by
  induction session with
  | opened now drawn agent => exact opened_steady now drawn agent
  | asked session request ih => exact (reaches_after ih (sources_trivial _ request)).steady ih

end TriggerFlow.Automation

/-! A small session to try things in: a workflow is created, and launched by hand. -/

namespace TriggerFlow.Trial

open Automation
open TriggerFlow.Graph (pausing pausing_sound)

def flow : Workflow :=
  ⟨"flow", "Pause", "", "", none, true, 1, pausing.nodes, pausing.edges, [], 0, 0, none, nine, nine⟩

/-- Errands are carried out as soon as they come in. -/
def swift : Setup Unit := ⟨Action.reporter Unit, bounds, true⟩

def opening : Automation Unit := opened (emptyStore nine 0) ()

/-- The system as soon as the workflow has been created. -/
def offering : Automation Unit := ⟨⟨[], [], ⟨⟨nine, 0, [], .memory ⟨[("flow", flow)], [], []⟩⟩, (), []⟩⟩, []⟩

/-- The system as soon as the workflow has been launched. -/
def pausingRun : Automation Unit := (launch swift flow .manual [] offering).2

theorem requireSound_flow {S : Type} : (Launcher.requireSound flow.graph : Act S Unit) = pure () := by
  have sound : flow.graph.defects = .ok [] := pausing_sound
  rw [Launcher.requireSound, sound]
  rfl

theorem offering_eq : offering = opening.after swift (.create flow) := by
  have sound : Store.requireSoundIfEnabled flow = pure () := by
    rw [Store.requireSoundIfEnabled, if_pos (show flow.enabled = true from rfl), requireSound_flow]
  rw [after, Store.createWorkflow, sound]
  rfl

theorem pausingRun_eq : pausingRun = offering.after swift (.run "flow" []) := by
  have found : (launcher swift).inStore (Store.workflow? "flow") offering = (.ok (some flow), offering) := rfl
  have on : (!flow.enabled) = false := rfl
  rw [after, run, Launcher.invoke, Act.bind_run_ok found]
  dsimp only
  rw [on, if_neg (by decide), requireSound_flow]
  rfl

theorem session : Session swift [offering, opening] pausingRun := by
  have begins : Session swift [] opening := .opened nine 0 ()
  have created := begins.asked (.create flow)
  rw [← offering_eq] at created
  have launched := created.asked (.run "flow" [])
  rwa [← pausingRun_eq] at launched

theorem pausingRun_stored : (pausingRun.store.runs.get? (Store.idOfCount 1)).isSome = true := by
  decide +kernel

attribute [irreducible] pausingRun

end TriggerFlow.Trial
