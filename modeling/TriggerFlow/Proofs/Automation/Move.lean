import TriggerFlow.Automation
import TriggerFlow.Proofs.Automation.Definition
import TriggerFlow.Proofs.Run.Frame
import TriggerFlow.Proofs.World
import Mathlib.Logic.Relation

/-!
# What can happen in the running system

Everything that the system does comes down to moves of five kinds: definitions are edited, a run is launched, an
errand is taken in, the first errand is carried out, and somebody asks for a run to be cancelled. All of them
keep the errands in order: a run has one at most, and its copy of the record is the stored one, unless that has
been cancelled or lost in the meantime.
-/

namespace TriggerFlow

open Run (Meanwhile SameRun)

/-- The copy of a record that an errand is for. -/
def Errand.record : Errand → Execution
  | .start e => e
  | .resume e _ _ => e

theorem Errand.record_id (errand : Errand) : errand.record.id = errand.runId := by cases errand <;> rfl

/-- An identifier that has been drawn. -/
def Store.Drawn (s : Store) (id : String) : Prop := ∃ n ≤ s.drawn, id = Store.idOfCount n

theorem Store.Drawn.mono {s s' : Store} {id : String} (drawn : s.Drawn id) (le : s.drawn ≤ s'.drawn) :
    s'.Drawn id := by
  obtain ⟨n, bound, same⟩ := drawn
  exact ⟨n, bound.trans le, same⟩

/-- The identifier that is drawn next is a new one. -/
theorem Store.not_drawn_fresh (s : Store) : ¬ s.Drawn s.fresh.id := by
  rintro ⟨n, bound, same⟩
  have next : s.drawn + 1 = n := Store.idOfCount_injective same
  omega

namespace Automation

variable {δ : Type} {setup : Setup δ} {origin : Origin} {a b c : Automation δ}

/-- The ledger that runs are driven by. -/
abbrev ledger (setup : Setup δ) : Run.Ledger (surroundings setup) := World.ledger setup.dispatcher none

def store (a : Automation δ) : Store := a.desk.world.store

def withStore (a : Automation δ) (s : Store) : Automation δ :=
  { a with desk := { a.desk with world := { a.desk.world with store := s } } }

/-- What is known of where runs come from: of the records themselves, and of the launches that they come from. -/
structure Origin where
  of : Execution → Prop
  launches : Workflow → TriggerKind → Members → Prop

/-- Runs may be launched from any workflows, for any reason. -/
def Origin.plain (of : Execution → Prop) : Origin := ⟨of, fun _ _ _ => True⟩

/-- A move of the running system. Every run that is launched or taken in has an origin of the kind that is
asked for. -/
inductive Move (setup : Setup δ) (origin : Origin) : Automation δ → Automation δ → Prop where
  | edited {a : Automation δ} {s : Store} (edits : a.store.Edits s) : Move setup origin a (a.withStore s)
  | launched {a : Automation δ} {s : Store} {w : Workflow} {kind : TriggerKind} {payload : Members}
    (new : origin.of (.launched a.store.fresh w kind payload) ∧ origin.launches w kind payload) (reruns : a.store.Reruns
      (a.store.runs.set a.store.fresh.id (.launched a.store.fresh w kind payload)) s)
    (drawn : a.store.drawn < s.drawn) : Move setup origin a (a.withStore s)
  | queued {a : Automation δ} {errand : Errand} (idle : inFlight errand.runId a = false)
    (known : origin.of errand.record) (drawn : a.store.Drawn errand.runId)
    (meanwhile : Meanwhile (some errand.record) (a.store.runs.get? errand.runId))
    (kept : (surroundings setup).Spares errand.runId → a.store.runs.get? errand.runId ≠ none) :
    Move setup origin a { a with queue := a.queue ++ [errand] }
  | carried {a : Automation δ} {errand : Errand} {rest : List Errand} (queue : a.queue = errand :: rest) :
    Move setup origin a ⟨(drive setup errand a.desk).2, rest⟩
  | asked {a : Automation δ} (id : String) :
    Move setup origin a { a with desk := (Run.requestCancel (surroundings setup) id a.desk).2 }

/-- Moves one after the other. -/
abbrev Moves (setup : Setup δ) (origin : Origin) : Automation δ → Automation δ → Prop :=
  Relation.ReflTransGen (Move setup origin)

/-- The store is in memory, identifiers are drawn before they are used, nobody drives a run, and the errands
are in order. -/
structure Orderly (a : Automation δ) : Prop where
  kept : a.store.InMemory
  idle : a.desk.active = []
  runs : ∀ id, a.store.runs.get? id ≠ none → a.store.Drawn id
  sent : ∀ sending ∈ a.desk.world.sent, a.store.Drawn sending.runId
  queue : ∀ errand ∈ a.queue, a.store.Drawn errand.runId ∧
    Meanwhile (some errand.record) (a.store.runs.get? errand.runId)
  once : (a.queue.map Errand.runId).Nodup

theorem inFlight_iff {id : String} : inFlight id a = true ↔ id ∈ a.queue.map Errand.runId := by
  simp [inFlight]

/-- How carrying an errand out may change the desk. -/
structure Carried (setup : Setup δ) (errand : Errand) (d d' : Run.Desk (World δ)) : Prop where
  around : Run.Around (ledger setup) errand.runId d d'
  own : ∀ e, d'.world.store.runs.get? errand.runId = some e → SameRun errand.record e

theorem drive_carried (setup : Setup δ) {errand : Errand} {d : Run.Desk (World δ)} (kept : d.world.store.InMemory)
    (meanwhile : Meanwhile (some errand.record) (d.world.store.runs.get? errand.runId)) :
    (drive setup errand).Ensures d (fun _ => Carried setup errand d) fun _ => Carried setup errand d := by
  have own : ∀ e, d.world.store.runs.get? errand.runId = some e → SameRun errand.record e :=
    meanwhile.own fun e same => Option.some.inj same ▸ .refl _
  cases errand with
  | start e =>
    refine (Run.start_frame (k := ledger setup) setup.limits kept own).mono ?_ ?_
    · exact fun _ _ drove => ⟨drove.1.around, drove.1.own⟩
    · exact fun _ _ drove => ⟨drove.around, drove.own⟩
  | resume e time context =>
    refine (Run.resume_frame (k := ledger setup) setup.limits time context kept own).mono ?_ ?_
    · exact fun _ _ drove => ⟨drove.1.around, drove.1.own⟩
    · exact fun _ _ drove => ⟨drove.around, drove.own⟩

/-- What becomes of a stored record when somebody asks for a run to be cancelled. -/
theorem meanwhile_of_asked {id : String} {d : Run.Desk (World δ)}
    (asked : Run.Requested (ledger setup) id a.desk d) (other : String) :
    Meanwhile (a.store.runs.get? other) (d.world.store.runs.get? other) := by
  by_cases own : other = id
  · exact own ▸ asked.meanwhile
  · have same : d.world.store.runs.get? other = a.store.runs.get? other := asked.others other own
    exact same ▸ .same _

namespace Orderly

/-- Carrying out the first errand changes the desk as it may. -/
theorem drive_first (setup : Setup δ) (orderly : Orderly a) {errand : Errand} {rest : List Errand}
    (queue : a.queue = errand :: rest) : Carried setup errand a.desk (drive setup errand a.desk).2 := by
  obtain ⟨-, meanwhile⟩ := orderly.queue errand (queue ▸ List.mem_cons_self)
  exact (drive_carried setup orderly.kept meanwhile).state

/-- Editing keeps order. -/
theorem edited (orderly : Orderly a) {s : Store} (edits : a.store.Edits s) : Orderly (a.withStore s) where
  kept := edits.kept
  idle := orderly.idle
  runs id present := (orderly.runs id (edits.runs ▸ present)).mono edits.drawn
  sent sending mem := (orderly.sent sending mem).mono edits.drawn
  queue errand mem := by
    obtain ⟨drawn, meanwhile⟩ := orderly.queue errand mem
    exact ⟨drawn.mono edits.drawn, edits.runs.symm ▸ meanwhile⟩
  once := orderly.once

theorem launched (orderly : Orderly a) {s : Store} {e : Execution}
    (reruns : a.store.Reruns (a.store.runs.set a.store.fresh.id e) s) (drawn : a.store.drawn < s.drawn) :
    Orderly (a.withStore s) where
  kept := reruns.kept
  idle := orderly.idle
  runs other present := by
    by_cases new : other = a.store.fresh.id
    · exact ⟨a.store.drawn + 1, drawn, new⟩
    · refine (orderly.runs other fun missing => present ?_).mono reruns.drawn
      show s.runs.get? other = none
      rw [reruns.runs, Ordered.get?_set, Function.update_of_ne new, missing]
  sent sending mem := (orderly.sent sending mem).mono reruns.drawn
  queue errand mem := by
    obtain ⟨known, meanwhile⟩ := orderly.queue errand mem
    refine ⟨known.mono reruns.drawn, ?_⟩
    have old : errand.runId ≠ a.store.fresh.id := fun same => a.store.not_drawn_fresh (same ▸ known)
    show Meanwhile _ (s.runs.get? errand.runId)
    rwa [reruns.runs, Ordered.get?_set, Function.update_of_ne old]
  once := orderly.once

theorem queued (orderly : Orderly a) {errand : Errand} (idle : inFlight errand.runId a = false)
    (drawn : a.store.Drawn errand.runId)
    (meanwhile : Meanwhile (some errand.record) (a.store.runs.get? errand.runId)) :
    Orderly { a with queue := a.queue ++ [errand] } where
  kept := orderly.kept
  idle := orderly.idle
  runs := orderly.runs
  sent := orderly.sent
  queue other mem := by
    rcases List.mem_append.mp mem with mem | mem
    · exact orderly.queue other mem
    · rw [List.mem_singleton.mp mem]
      exact ⟨drawn, meanwhile⟩
  once := by
    rw [List.map_append, List.nodup_append]
    refine ⟨orderly.once, List.nodup_singleton _, ?_⟩
    intro id mem _ new same
    rw [List.map_singleton, List.mem_singleton] at new
    rw [← new, ← same, ← Bool.not_eq_true, inFlight_iff] at idle
    exact idle mem

theorem carried (orderly : Orderly a) {errand : Errand} {rest : List Errand} (queue : a.queue = errand :: rest)
    {d : Run.Desk (World δ)} (carried : Carried setup errand a.desk d) : Orderly (⟨d, rest⟩ : Automation δ) := by
  obtain ⟨drawn, -⟩ := orderly.queue errand (queue ▸ List.mem_cons_self)
  have once := orderly.once
  rw [queue, List.map_cons, List.nodup_cons] at once
  have le : a.store.drawn ≤ d.world.store.drawn := carried.around.drift.2
  refine ⟨carried.around.valid, carried.around.active.trans orderly.idle, ?_, ?_, ?_, once.2⟩
  · intro id present
    by_cases own : id = errand.runId
    · exact own ▸ drawn.mono le
    · exact (orderly.runs id ((carried.around.others id own).ne_none present)).mono le
  · intro sending mem
    obtain ⟨new, sent, own⟩ := carried.around.sent
    have sent : d.world.sent = a.desk.world.sent ++ new := sent
    have mem : sending ∈ a.desk.world.sent ++ new := sent ▸ mem
    rcases List.mem_append.mp mem with mem | mem
    · exact (orderly.sent sending mem).mono le
    · exact own sending mem ▸ drawn.mono le
  · intro other mem
    obtain ⟨known, meanwhile⟩ := orderly.queue other (queue ▸ List.mem_cons_of_mem _ mem)
    refine ⟨known.mono le, meanwhile.trans (carried.around.others _ fun same => once.1 ?_)⟩
    exact List.mem_map.mpr ⟨other, mem, same⟩

theorem asked (orderly : Orderly a) {id : String} {d : Run.Desk (World δ)}
    (asked : Run.Requested (ledger setup) id a.desk d) : Orderly { a with desk := d } := by
  have le : a.store.drawn ≤ d.world.store.drawn := asked.drift.2
  have others := meanwhile_of_asked asked
  refine ⟨asked.valid, asked.active.trans orderly.idle, ?_, ?_, ?_, orderly.once⟩
  · intro other present
    exact (orderly.runs other ((others other).ne_none present)).mono le
  · intro sending mem
    have sent : d.world.sent = a.desk.world.sent := asked.sent
    exact (orderly.sent sending (sent ▸ mem)).mono le
  · intro errand mem
    obtain ⟨known, meanwhile⟩ := orderly.queue errand mem
    exact ⟨known.mono le, meanwhile.trans (others _)⟩

end Orderly

/-- Every move keeps the errands in order. -/
theorem Move.orderly (move : Move setup origin a b) (orderly : Orderly a) : Orderly b := by
  cases move with
  | edited edits => exact orderly.edited edits
  | launched new reruns drawn => exact orderly.launched reruns drawn
  | queued idle known drawn meanwhile kept => exact orderly.queued idle drawn meanwhile
  | carried queue => exact orderly.carried queue (orderly.drive_first setup queue)
  | asked id =>
    have asked := Run.requestCancel_spec (k := ledger setup) orderly.kept id
    exact orderly.asked asked.state

theorem Moves.orderly (moves : Moves setup origin a b) (orderly : Orderly a) : Orderly b := by
  induction moves with
  | refl => exact orderly
  | tail _ move ih => exact move.orderly ih

/-- Identifiers are used up, and never given back. -/
theorem Move.drawn_le (move : Move setup origin a b) (orderly : Orderly a) : a.store.drawn ≤ b.store.drawn := by
  cases move with
  | edited edits => exact edits.drawn
  | launched new reruns drawn => exact reruns.drawn
  | queued => exact le_refl _
  | carried queue => exact (orderly.drive_first setup queue).around.drift.2
  | asked id => exact (Run.requestCancel_spec (k := ledger setup) orderly.kept id).state.drift.2

theorem Moves.drawn_le (moves : Moves setup origin a b) (orderly : Orderly a) : a.store.drawn ≤ b.store.drawn := by
  induction moves with
  | refl => exact le_refl _
  | tail earlier move ih => exact ih.trans (move.drawn_le (Moves.orderly earlier orderly))

/-- Records that are spared stay. -/
theorem Move.kept (move : Move setup origin a b) (orderly : Orderly a) {id : String}
    (spares : (surroundings setup).Spares id) (present : a.store.runs.get? id ≠ none) :
    b.store.runs.get? id ≠ none := by
  cases move with
  | edited edits => exact edits.runs.symm ▸ present
  | @launched s w kind payload new reruns drawn =>
    show s.runs.get? id ≠ none
    rw [reruns.runs, Ordered.get?_set]
    by_cases fresh : id = a.store.fresh.id
    · simp [fresh]
    · rwa [Function.update_of_ne fresh]
  | queued => exact present
  | carried queue => exact (orderly.drive_first setup queue).around.kept id spares present
  | asked other =>
    have asked := (Run.requestCancel_spec (k := ledger setup) orderly.kept other).state
    exact asked.kept present

theorem Moves.kept (moves : Moves setup origin a b) (orderly : Orderly a) {id : String}
    (spares : (surroundings setup).Spares id) (present : a.store.runs.get? id ≠ none) :
    b.store.runs.get? id ≠ none := by
  induction moves with
  | refl => exact present
  | tail earlier move ih => exact move.kept (Moves.orderly earlier orderly) spares ih

/-- A record that is stored, or that somebody has an errand for. -/
def Holds (a : Automation δ) (e : Execution) : Prop :=
  a.store.runs.get? e.id = some e ∨ ∃ errand ∈ a.queue, errand.record = e

section Origin

variable (same : ∀ e e', SameRun e e' → origin.of e → origin.of e') (orderly : Orderly a)
  (known : ∀ e, a.Holds e → origin.of e)
include same orderly known

theorem origin_of_meanwhile {e : Execution} (meanwhile : Meanwhile (a.store.runs.get? e.id) (some e)) :
    origin.of e := by
  cases found : a.store.runs.get? e.id with
  | none => exact absurd found (meanwhile.ne_none (by simp))
  | some old =>
    have label : old.id = e.id := orderly.kept.runs.label_eq found
    have own : SameRun old e :=
      meanwhile.own (fun x here => Option.some.inj (found.symm.trans here) ▸ .refl old) e rfl
    exact same old e own (known old (.inl (label ▸ found)))

/-- Whatever is held has an origin, if that is a matter of the run and not of its state. -/
theorem Move.origin_of_holds (move : Move setup origin a b) : ∀ e, b.Holds e → origin.of e := by
  cases move with
  | edited edits =>
    rintro e (stored | queued)
    · exact known e (.inl (edits.runs ▸ stored))
    · exact known e (.inr queued)
  | launched new reruns drawn =>
    rintro e (stored | queued)
    · rename_i s w kind payload
      change s.runs.get? e.id = some e at stored
      rw [reruns.runs, Ordered.get?_set] at stored
      by_cases fresh : e.id = a.store.fresh.id
      · rw [fresh, Function.update_self] at stored
        cases stored
        exact new.1
      · rw [Function.update_of_ne fresh] at stored
        exact known e (.inl stored)
    · exact known e (.inr queued)
  | queued idle origin drawn meanwhile kept =>
    rintro e (stored | ⟨errand, mem, rfl⟩)
    · exact known e (.inl stored)
    · rcases List.mem_append.mp mem with mem | mem
      · exact known _ (.inr ⟨errand, mem, rfl⟩)
      · rw [List.mem_singleton.mp mem]
        exact origin
  | @carried errand rest queue =>
    have carried := orderly.drive_first setup queue
    have own : origin.of errand.record := known _ (.inr ⟨errand, queue ▸ List.mem_cons_self, rfl⟩)
    rintro e (stored | ⟨other, mem, rfl⟩)
    · by_cases here : e.id = errand.runId
      · exact same _ _ (carried.own e (here ▸ stored)) own
      · exact origin_of_meanwhile same orderly known (stored ▸ carried.around.others e.id here)
    · exact known _ (.inr ⟨other, queue ▸ List.mem_cons_of_mem _ mem, rfl⟩)
  | asked id =>
    have asked := (Run.requestCancel_spec (k := ledger setup) orderly.kept id).state
    rintro e (stored | queued)
    · exact origin_of_meanwhile same orderly known (stored ▸ meanwhile_of_asked asked e.id)
    · exact known e (.inr queued)

theorem Moves.origin_of_holds (moves : Moves setup origin a b) : ∀ e, b.Holds e → origin.of e := by
  induction moves with
  | refl => exact known
  | tail earlier move ih => exact move.origin_of_holds same (Moves.orderly earlier orderly) ih

end Origin

end Automation

end TriggerFlow
