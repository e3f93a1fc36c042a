import TriggerFlow.Proofs.Automation.Motion

/-!
# What is asked of the running system

Every request comes down to moves, whether it succeeds or not. The workflows that a request launches are those
that were enabled when it came in.
-/

namespace TriggerFlow.Automation

open Run (Meanwhile SameRun)

variable {δ α β : Type} {setup : Setup δ} {origin : Origin} {a b c : Automation δ}

section Parts

variable {good : α → Automation δ → Prop} {bad : Failure → Automation δ → Prop}

@[simp] theorem ensures_atDesk {x : Act (Run.Desk (World δ)) α} : (atDesk x).Ensures a good bad ↔
    x.Ensures a.desk (fun v d => good v { a with desk := d }) fun f d => bad f { a with desk := d } :=
  Act.ensures_onPart

@[simp] theorem ensures_inStore {x : Act Store α} : (inStore x).Ensures a good bad ↔
    x.Ensures a.store (fun v s => good v (a.withStore s)) fun f s => bad f (a.withStore s) := by
  rw [inStore, ensures_atDesk, Run.Desk.inWorld, Act.ensures_onPart, World.ensures_inStore]
  rfl

end Parts

/-- Order is kept, and errands that are to be carried out at once do not wait. -/
structure Steady (setup : Setup δ) (a : Automation δ) : Prop where
  orderly : Orderly a
  prompt : setup.eager = true → a.queue = []

/-- One steady state is reached from another by moves. -/
structure Reaches (setup : Setup δ) (origin : Origin) (a b : Automation δ) : Prop where
  moves : Moves setup origin a b
  prompt : setup.eager = true → b.queue = []

namespace Reaches

theorem refl (steady : Steady setup a) : Reaches setup origin a a := ⟨.refl, steady.prompt⟩

theorem trans (h : Reaches setup origin a b) (h' : Reaches setup origin b c) : Reaches setup origin a c :=
  ⟨h.moves.trans h'.moves, h'.prompt⟩

theorem steady (h : Reaches setup origin a b) (steady : Steady setup a) : Steady setup b :=
  ⟨h.moves.orderly steady.orderly, h.prompt⟩

theorem of_edits (steady : Steady setup a) {s : Store} (edits : a.store.Edits s) :
    Reaches setup origin a (a.withStore s) := ⟨.single (.edited edits), steady.prompt⟩

end Reaches

/-- One steady state is reached from another by motions. -/
structure Goes (setup : Setup δ) (origin : Origin) (a b : Automation δ) : Prop where
  motions : Motions setup origin a b
  prompt : setup.eager = true → b.queue = []

namespace Goes

theorem refl (steady : Steady setup a) : Goes setup origin a a := ⟨.refl, steady.prompt⟩

theorem trans (h : Goes setup origin a b) (h' : Goes setup origin b c) : Goes setup origin a c :=
  ⟨h.motions.trans h'.motions, h'.prompt⟩

theorem reaches (h : Goes setup origin a b) : Reaches setup origin a b := ⟨h.motions.moves, h.prompt⟩

theorem moves (h : Goes setup origin a b) : Moves setup origin a b := h.motions.moves

theorem steady (h : Goes setup origin a b) (steady : Steady setup a) : Steady setup b := h.reaches.steady steady

theorem of_reruns (steady : Steady setup a) {s : Store} (reruns : a.store.Reruns a.store.runs s) :
    Goes setup origin a (a.withStore s) := ⟨.single (.rested reruns), steady.prompt⟩

end Goes

/-- A computation that comes down to moves, whatever its result. -/
def Walks (setup : Setup δ) (origin : Origin) (x : Act (Automation δ) α) (a : Automation δ) : Prop :=
  x.Ensures a (fun _ => Reaches setup origin a) fun _ => Reaches setup origin a

/-- A computation that comes down to motions, whatever its result. -/
def Travels (setup : Setup δ) (origin : Origin) (x : Act (Automation δ) α) (a : Automation δ) : Prop :=
  x.Ensures a (fun _ => Goes setup origin a) fun _ => Goes setup origin a

/-- What may become of the runs that nobody drives. -/
def Aside (ids : List String) (a b : Automation δ) : Prop :=
  ∀ id ∉ ids, Meanwhile (a.store.runs.get? id) (b.store.runs.get? id)

theorem Travels.after {x : Act (Automation δ) α} (h : Goes setup origin a b) (travels : Travels setup origin x b) :
    x.Ensures b (fun _ => Goes setup origin a) fun _ => Goes setup origin a :=
  travels.mono (fun _ _ h' => h.trans h') fun _ _ h' => h.trans h'

/-- Requests that only edit definitions. -/
theorem inStore_walks {x : Act Store α} (steady : Steady setup a)
    (edits : x.Ensures a.store (fun _ => a.store.Edits) fun _ => a.store.Edits) :
    Walks setup origin (inStore x) a :=
  ensures_inStore.mpr (edits.mono (fun _ _ h => .of_edits steady h) fun _ _ h => .of_edits steady h)

section Errands

variable (origin)

/-- The first errand is carried out, and is then no longer waiting. -/
theorem carryOut_spec (orderly : Orderly a) {errand : Errand} {rest : List Errand}
    (queue : a.queue = errand :: rest) : (carryOut setup errand).Ensures a
      (fun _ b => Motion setup origin a { b with queue := rest } ∧ Aside [errand.runId] a b)
      fun _ _ => False := by
  obtain ⟨-, meanwhile⟩ := orderly.queue errand (queue ▸ List.mem_cons_self)
  have carried := (drive_carried setup orderly.kept meanwhile).and
    (Act.Ensures.run (drive setup errand) a.desk)
  have aside {d : Run.Desk (World δ)} (carried : Carried setup errand a.desk d) {s : Store}
      (runs : s.runs = d.world.store.runs) :
      Aside [errand.runId] a (({ a with desk := d } : Automation δ).withStore s) := by
    intro id other
    have same : s.runs.get? id = d.world.store.runs.get? id := by rw [runs]
    exact same ▸ carried.around.others id (by simpa using other)
  refine Act.ensures_recover.mpr (Act.ensures_bind.mpr (ensures_atDesk.mpr (carried.mono ?_ ?_)))
  · rintro driven d ⟨carried, run⟩
    have kept : d.world.store.InMemory := carried.around.valid
    refine ensures_inStore.mpr ((Store.countFailure_spec kept driven).mono ?_ fun _ _ none => none.elim)
    intro _ s counted
    refine ⟨?_, aside carried counted.runs⟩
    have motion : Motion setup origin _ _ := .carried (s := s) queue (by rw [run]; exact counted)
    rwa [run] at motion
  · rintro failure d ⟨carried, run⟩
    have kept : d.world.store.InMemory := carried.around.valid
    refine ⟨?_, aside carried rfl⟩
    have motion : Motion setup origin _ _ := .carried (s := d.world.store) queue
      (by rw [run]; exact ⟨kept, rfl, rfl, le_refl _⟩)
    rwa [run] at motion

theorem carryOutEach_spec : ∀ {queue : List Errand} {a : Automation δ}, Orderly a → a.queue = queue →
    (carryOutEach setup queue).Ensures a
      (fun _ b => Motions setup origin a b ∧ b.queue = [] ∧ Aside (queue.map Errand.runId) a b)
      fun _ _ => False
  | [], a, _, queue => ⟨.refl, queue, fun _ _ => .same _⟩
  | errand :: rest, a, orderly, queue => by
    refine Act.ensures_bind.mpr ((carryOut_spec origin orderly queue).mono ?_ fun _ _ none => none)
    rintro - b ⟨motion, aside⟩
    refine Act.ensures_bind.mpr (Act.ensures_modify.mpr ?_)
    refine (carryOutEach_spec (motion.moves.orderly orderly) rfl).mono ?_ fun _ _ none => none
    rintro - c ⟨motions, empty, aside'⟩
    refine ⟨.head motion motions, empty, ?_⟩
    intro id other
    rw [List.map_cons, List.mem_cons, not_or] at other
    exact (aside id (by simpa using other.1)).trans (aside' id other.2)

theorem drain_travels (steady : Steady setup a) : Travels setup origin (drain setup) a := by
  refine Act.ensures_bind.mpr (Act.ensures_ask.mpr ((carryOutEach_spec origin steady.orderly rfl).mono ?_
    fun _ _ none => none.elim))
  exact fun _ b done => ⟨done.1, fun _ => done.2.1⟩

/-- An errand that comes in is taken in unless its run has one, and all errands are carried out if that is to be done
at once. -/
theorem submit_ensures (steady : Steady setup a) (errand : Errand) {R : Automation δ → Prop} (busy : R a)
    (taken : inFlight errand.runId a = false → Orderly { a with queue := a.queue ++ [errand] } ∧
      (setup.eager = false → R { a with queue := a.queue ++ [errand] }) ∧
      ∀ b, Motions setup origin { a with queue := a.queue ++ [errand] } b → b.queue = [] →
        Aside [errand.runId] a b → R b) : (submit setup errand).Ensures a (fun _ => R) fun _ _ => False := by
  refine Act.ensures_bind.mpr (Act.ensures_ask.mpr ?_)
  cases idle : inFlight errand.runId a with
  | true => exact busy
  | false =>
    obtain ⟨orderly, waits, goes⟩ := taken idle
    refine Act.ensures_bind.mpr (Act.ensures_modify.mpr ?_)
    cases eager : setup.eager with
    | false => exact waits eager
    | true =>
      have alone : a.queue ++ [errand] = [errand] := by rw [steady.prompt eager, List.nil_append]
      refine Act.ensures_bind.mpr (Act.ensures_ask.mpr ?_)
      refine (carryOutEach_spec origin orderly rfl).mono ?_ fun _ _ none => none
      rintro - b ⟨motions, empty, aside⟩
      rw [alone] at aside
      exact goes b motions empty aside

section Submit

variable (steady : Steady setup a) (errand : Errand) (known : origin.of errand.record)
  (drawn : a.store.Drawn errand.runId) (meanwhile : Meanwhile (some errand.record) (a.store.runs.get? errand.runId))
  (kept : (surroundings setup).Spares errand.runId → a.store.runs.get? errand.runId ≠ none)
include steady known drawn meanwhile kept

/-- An errand for a copy in whatever state. -/
theorem submit_walks : (submit setup errand).Ensures a
    (fun _ b => Reaches setup origin a b ∧ Aside [errand.runId] a b) fun _ _ => False := by
  refine submit_ensures origin steady errand ⟨.refl steady, fun _ _ => .same _⟩ fun idle => ?_
  have move : Move setup origin a { a with queue := a.queue ++ [errand] } := .queued idle known drawn meanwhile kept
  refine ⟨move.orderly steady.orderly, fun lazy => ⟨⟨.single move, by simp [lazy]⟩, fun _ _ => .same _⟩, ?_⟩
  exact fun b motions empty aside => ⟨⟨.head move motions.moves, fun _ => empty⟩, aside⟩

/-- An errand for a copy in the state in which the errand takes it up. -/
theorem submit_spec (ready : errand.Ready) : (submit setup errand).Ensures a
    (fun _ b => Goes setup origin a b ∧ Aside [errand.runId] a b) fun _ _ => False := by
  refine submit_ensures origin steady errand ⟨.refl steady, fun _ _ => .same _⟩ fun idle => ?_
  have motion : Motion setup origin a { a with queue := a.queue ++ [errand] } :=
    .queued idle known drawn meanwhile kept ready
  refine ⟨motion.moves.orderly steady.orderly,
    fun lazy => ⟨⟨.single motion, by simp [lazy]⟩, fun _ _ => .same _⟩, ?_⟩
  exact fun b motions empty aside => ⟨⟨.head motion motions, fun _ => empty⟩, aside⟩

end Submit

end Errands

section Launches

/-- A run of a workflow that is launched in some way from now on has an origin of the kind that is asked for. -/
def Admits (origin : Origin) (a : Automation δ) (w : Workflow) (kind : TriggerKind) (payload : Members) : Prop :=
  origin.launches w kind payload ∧
    ∀ fresh, ¬ a.store.Drawn fresh.id → origin.of (.launched fresh w kind payload)

theorem Admits.after {w : Workflow} {kind : TriggerKind} {payload : Members}
    (admits : Admits origin a w kind payload) (steady : Steady setup a)
    (goes : Goes setup origin a b) : Admits origin b w kind payload :=
  ⟨admits.1, fun fresh undrawn =>
    admits.2 fresh fun drawn => undrawn (drawn.mono (goes.moves.drawn_le steady.orderly))⟩

theorem launch_travels (steady : Steady setup a) {w : Workflow} {kind : TriggerKind} {payload : Members}
    (admits : Admits origin a w kind payload) : Travels setup origin (launch setup w kind payload) a := by
  have new : origin.of (.launched a.store.fresh w kind payload) := admits.2 a.store.fresh a.store.not_drawn_fresh
  refine Act.ensures_bind.mpr (ensures_inStore.mpr ((Store.createRun_spec steady.orderly.kept w kind payload).mono ?_
    fun _ _ none => none.elim))
  rintro e s ⟨rfl, s₁, reruns, drawn, counted⟩
  have goes : Goes setup origin a (a.withStore s) :=
    ⟨.single (.launched ⟨new, admits.1⟩ reruns drawn counted), steady.prompt⟩
  have known : (a.withStore s).store.runs.get? a.store.fresh.id =
      some (.launched a.store.fresh w kind payload) := by
    show s.runs.get? _ = _
    rw [counted.runs, reruns.runs, Ordered.get?_set, Function.update_self]
  have fresh : (a.withStore s).store.Drawn a.store.fresh.id :=
    ⟨a.store.drawn + 1, drawn.trans_le counted.drawn, rfl⟩
  refine Act.ensures_bind.mpr ((submit_spec origin (goes.steady steady)
    (.start (.launched a.store.fresh w kind payload)) new fresh ?_ ?_ rfl).mono ?_ fun _ _ none => none.elim)
  · show Meanwhile _ ((a.withStore s).store.runs.get? a.store.fresh.id)
    rw [known]
    exact .same _
  · intro _
    show (a.withStore s).store.runs.get? a.store.fresh.id ≠ none
    simp [known]
  · exact fun _ b done => goes.trans done.1

theorem launchEach_travels : ∀ {firing : List (Workflow × TriggerKind)} {a : Automation δ}, Steady setup a →
    (∀ p ∈ firing, Admits origin a p.1 p.2 []) → Travels setup origin ((launcher setup).launchEach firing) a
  | [], _, steady, _ => .refl steady
  | (w, kind) :: rest, a, steady, admits => by
    have launched := launch_travels steady (admits (w, kind) List.mem_cons_self)
    have others {b : Automation δ} (goes : Goes setup origin a b) :=
      (launchEach_travels (goes.steady steady)
        fun p mem => (admits p (List.mem_cons_of_mem _ mem)).after steady goes).after goes
    refine Act.ensures_bind.mpr (Act.ensures_attempt.mpr (launched.mono ?_ ?_))
    · exact fun _ b goes => Act.ensures_bind.mpr ((others goes).mono (fun _ _ h => h) fun _ _ h => h)
    · exact fun _ b goes => Act.ensures_bind.mpr ((others goes).mono (fun _ _ h => h) fun _ _ h => h)

theorem deliverEach_travels (payload : Members) : ∀ {found : List (Workflow × Trigger)} {a : Automation δ},
    Steady setup a → (∀ p ∈ found, Admits origin a p.1 .event payload) →
      Travels setup origin ((launcher setup).deliverEach payload found) a
  | [], _, steady, _ => .refl steady
  | (w, t) :: rest, a, steady, admits => by
    have launched := launch_travels steady (admits (w, t) List.mem_cons_self)
    have others {b : Automation δ} (goes : Goes setup origin a b) :=
      (deliverEach_travels payload (goes.steady steady)
        fun p mem => (admits p (List.mem_cons_of_mem _ mem)).after steady goes).after goes
    refine Act.ensures_bind.mpr (Act.ensures_lift.mpr ⟨?_, fun _ _ => .refl steady⟩)
    intro passes _
    cases passes with
    | false =>
      refine Act.ensures_bind.mpr (Act.ensures_pure.mpr (Act.ensures_bind.mpr ?_))
      exact (others (.refl steady)).mono (fun _ _ h => h) fun _ _ h => h
    | true =>
      refine Act.ensures_bind.mpr (Act.ensures_map.mpr (Act.ensures_attempt.mpr (launched.mono ?_ ?_)))
      · exact fun _ b goes => Act.ensures_bind.mpr ((others goes).mono (fun _ _ h => h) fun _ _ h => h)
      · exact fun _ b goes => Act.ensures_bind.mpr ((others goes).mono (fun _ _ h => h) fun _ _ h => h)

/-- A workflow is stored and enabled. -/
def Offered (s : Store) (w : Workflow) : Prop := s.definitions.get? w.id = some w ∧ w.enabled = true

theorem listening_spec {s : Store} (kept : s.InMemory) : Launcher.listening.Ensures s
    (fun found s' => s' = s ∧ ∀ p ∈ found, Offered s p.1) fun _ _ => False := by
  refine Act.ensures_bind.mpr ((Store.workflows_spec kept).mono ?_ fun _ _ none => none)
  rintro _ s' ⟨rfl, rfl⟩
  refine ⟨rfl, ?_⟩
  intro p mem
  obtain ⟨w, listed, found⟩ := List.mem_filterMap.mp mem
  obtain ⟨stored, enabled⟩ := List.mem_filter.mp listed
  obtain ⟨t, -, rfl⟩ := Option.map_eq_some_iff.mp found
  exact ⟨kept.definitions.get?_label stored, enabled⟩

/-- Only workflows that are looked at fire. -/
theorem review_subset (minute : Instant) (context : Members) :
    ∀ {found : List (Workflow × Trigger)} {memories : Ordered TriggerMemory} {firing memories'},
      Launcher.review minute context found memories = .ok (firing, memories') →
        ∀ w ∈ firing, ∃ t, (w, t) ∈ found
  | [], _, _, _, reviewed => by
    cases reviewed
    simp
  | (w, t) :: rest, memories, firing, memories', reviewed => by
    rw [Launcher.review] at reviewed
    cases look : t.look minute context w.vars ((memories.get? w.id).getD .blank) with
    | error failure =>
      rw [look] at reviewed
      cases reviewed
    | ok found =>
      rw [look] at reviewed
      dsimp only [bind, Except.bind] at reviewed
      cases others : Launcher.review minute context rest (memories.set w.id found.memory) with
      | error failure =>
        rw [others] at reviewed
        cases reviewed
      | ok answer =>
        have later := review_subset minute context others
        rw [others] at reviewed
        cases reviewed
        intro x mem
        have mem : x ∈ w :: answer.1 := by
          revert mem
          split
          · exact id
          · exact List.mem_cons_of_mem w
        rcases List.mem_cons.mp mem with rfl | mem
        · exact ⟨t, List.mem_cons_self⟩
        · obtain ⟨t', mem⟩ := later x mem
          exact ⟨t', List.mem_cons_of_mem _ mem⟩

theorem due_spec {s : Store} (kept : s.InMemory) (now : Instant) (context : Members) :
    (Launcher.due now context).Ensures s
      (fun firing s' => s.Reruns s.runs s' ∧ ∀ p ∈ firing, Offered s p.1) fun _ => s.Reruns s.runs := by
  refine Act.ensures_bind.mpr ((listening_spec kept).mono ?_ fun _ _ none => none.elim)
  rintro found s₁ ⟨same, offered⟩
  rw [same]
  refine Act.ensures_bind.mpr ((Store.triggers_spec kept).mono ?_ fun _ _ none => none.elim)
  intro stored s₂ same
  rw [same]
  refine Act.ensures_bind.mpr (Act.ensures_lift.mpr ⟨?_, fun _ _ => kept.reruns⟩)
  intro reviewed answer
  obtain ⟨firing, memories⟩ := reviewed
  have fires : ∀ p ∈ firing.filterMap fun w => w.trigger?.map fun t => (w, t.2.kind), Offered s p.1 := by
    intro p mem
    obtain ⟨w, fires, found⟩ := List.mem_filterMap.mp mem
    obtain ⟨t, -, rfl⟩ := Option.map_eq_some_iff.mp found
    obtain ⟨t', listens⟩ := review_subset _ _ answer w fires
    exact offered (w, t') listens
  dsimp only
  split
  · refine Act.ensures_bind.mpr ((Store.saveTriggers_spec kept _).mono ?_ fun _ _ none => none.elim)
    exact fun _ s' reruns => ⟨reruns, fires⟩
  · exact ⟨kept.reruns, fires⟩

end Launches

end TriggerFlow.Automation
