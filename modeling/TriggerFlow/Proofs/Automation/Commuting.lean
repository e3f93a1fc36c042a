import TriggerFlow.Proofs.Automation.Bookkeeping
import TriggerFlow.Proofs.Automation.Refused
import TriggerFlow.Proofs.Run.Twins
import TriggerFlow.Proofs.Run.Copies

/-!
# Errands of different runs in any order

What is left of several errands when they have been carried out does not depend on their order, if no two of them are
for the same run, the clock stands still and actions are answered by what is sent out. The records of runs are kept
apart, and so are the requests to cancel them; the failures of a workflow are counted up, in whatever order they come.
-/

namespace TriggerFlow

namespace Automation

variable {δ : Type} {setup : Setup δ} {a b : Automation δ} {errand errand' : Errand} {κ : Type}
  {c : (surroundings setup).Cells κ}

section Errand

variable (c)

theorem drive_respects (errand : Errand) : (drive setup errand).Respects (c.separate.Same errand.runId) := by
  cases errand with
  | start e => exact c.separate.respects_start setup.limits e
  | resume e time context => exact c.separate.respects_resume setup.limits e time context

variable {c}

theorem drive_spares (settled : c.separate.Settled a.desk) (errand : Errand) :
    c.separate.Spared errand.runId a.desk (drive setup errand a.desk).2 := by
  cases errand with
  | start e => exact c.separate.start_spares setup.limits e settled
  | resume e time context => exact c.separate.resume_spares setup.limits e time context settled

/-- Drives leave alone what takes no notice of executions. -/
theorem drive_preserves {P : Store → Prop} (free : Store.FreeOfExecutions P)
    (passes : ∀ micros, (World.pass micros).Preserves P) (errand : Errand) :
    (drive setup errand).Preserves fun d => P d.world.store := by
  have preserve := World.preserve setup.dispatcher none free passes
  cases errand with
  | start e => exact preserve.start setup.limits e
  | resume e time context => exact preserve.resume setup.limits e time context

theorem carryOut_of_error {f : Failure} {d : Run.Desk (World δ)} (run : drive setup errand a.desk = (.error f, d)) :
    (carryOut setup errand a).2.desk = d := by
  have ran : atDesk (drive setup errand) a = (.error f, { a with desk := d }) := by rw [atDesk, Act.onPart, run]
  rw [carryOut, Act.recover, Act.bind_run_error ran]
  rfl

/-- A drive that ends has its failure counted. -/
theorem carryOut_of_ok {driven : Run.Driven} {d : Run.Desk (World δ)}
    (run : drive setup errand a.desk = (.ok driven, d)) : (carryOut setup errand a).2.desk =
      { d with world := { d.world with store := (Store.countFailure driven.answer d.world.store).2 } } := by
  have ran : atDesk (drive setup errand) a = (.ok driven, { a with desk := d }) := by rw [atDesk, Act.onPart, run]
  have counted : inStore (Store.countFailure driven.answer) { a with desk := d } =
      ((Store.countFailure driven.answer d.world.store).1, { a with desk :=
        { d with world := { d.world with store := (Store.countFailure driven.answer d.world.store).2 } } }) := rfl
  rw [carryOut, Act.recover, Act.bind_run_ok ran, counted]
  cases (Store.countFailure driven.answer d.world.store).1 <;> rfl

end Errand

namespace Tallies

variable {lists : Nat → List Workflow → Store → Prop} (tallies : Tallies c lists)
include tallies

/-- What is left of an errand: what is left of the drive, with its failure counted. -/
theorem carryOut_leaves (settled : c.separate.Settled a.desk) (errand : Errand) :
    (∀ id, c.separate.Same id (drive setup errand a.desk).2 (carryOut setup errand a).2.desk) ∧
      ∀ {n l}, lists (n + 1) l a.store →
        lists n (Store.tallied (drive setup errand a.desk).1 l) (carryOut setup errand a).2.store := by
  have after := (drive_spares settled errand).settled
  have kept {n l} (listed : lists (n + 1) l a.store) : lists (n + 1) l (drive setup errand a.desk).2.world.store :=
    drive_preserves (tallies.free _ l) (tallies.passes _ l) errand a.desk listed
  rcases run : drive setup errand a.desk with ⟨failure | driven, d⟩ <;> rw [run] at after kept
  · have left := carryOut_of_error run
    refine ⟨fun id => left ▸ after id, fun listed => ?_⟩
    rw [Automation.store, left]
    exact tallies.fewer (kept listed)
  · have left := carryOut_of_ok run
    have valid : c.valid d.world := (after "").world.left
    refine ⟨fun id => left ▸ .of_world ((after id).world.aside (tallies.aside valid driven) rfl), fun listed => ?_⟩
    rw [Automation.store, left]
    exact tallies.counts valid (kept listed) driven

/-- An errand leaves the runs of other errands what they find. -/
theorem carryOut_spares (settled : c.separate.Settled a.desk) (errand : Errand) :
    c.separate.Spared errand.runId a.desk (carryOut setup errand a).2.desk :=
  (drive_spares settled errand).trans (.of_every (tallies.carryOut_leaves settled errand).1)

/-- What an errand comes to is up to what its run finds. -/
theorem carryOut_respects (same : c.separate.Same errand.runId a.desk b.desk) (settled : c.separate.Settled a.desk)
    (settled' : c.separate.Settled b.desk) :
    (drive setup errand a.desk).1 = (drive setup errand b.desk).1 ∧
      c.separate.Same errand.runId (carryOut setup errand a).2.desk (carryOut setup errand b).2.desk := by
  obtain ⟨answer, after⟩ := drive_respects c errand _ _ same
  have left := (tallies.carryOut_leaves settled errand).1 errand.runId
  have right := (tallies.carryOut_leaves settled' errand).1 errand.runId
  exact ⟨answer, left.symm.trans (after.trans right)⟩

end Tallies

/-- Two systems in which every run finds the same, with the same workflows. -/
structure Agree (c : (surroundings setup).Cells κ) (lists : Nat → List Workflow → Store → Prop) (n : Nat)
    (a b : Automation δ) : Prop where
  same : ∀ id, c.separate.Same id a.desk b.desk
  listed : ∃ l, lists n l a.store ∧ lists n l b.store

namespace Agree

variable {lists : Nat → List Workflow → Store → Prop} {n : Nat} {d : Automation δ}

/-- The errands that wait have no part in it. -/
theorem queued (agree : Agree c lists n a b) (queue queue' : List Errand) :
    Agree c lists n { a with queue } { b with queue := queue' } := ⟨agree.same, agree.listed⟩

theorem settled (agree : Agree c lists n a b) : c.separate.Settled a.desk ∧ c.separate.Settled b.desk :=
  ⟨fun id => (agree.same id).left, fun id => (agree.same id).right⟩

theorem left (agree : Agree c lists n a b) : Agree c lists n a a :=
  ⟨agree.settled.1, agree.listed.elim fun l is => ⟨l, is.1, is.1⟩⟩

theorem right (agree : Agree c lists n a b) : Agree c lists n b b :=
  ⟨agree.settled.2, agree.listed.elim fun l is => ⟨l, is.2, is.2⟩⟩

theorem trans (tallies : Tallies c lists) (agree : Agree c lists n a b) (agree' : Agree c lists n b d) :
    Agree c lists n a d := by
  obtain ⟨l, first, second⟩ := agree.listed
  obtain ⟨l', second', third⟩ := agree'.listed
  have valid : c.valid b.desk.world := (agree.same "").world.right
  obtain rfl : l = l' := by
    simpa using (tallies.answers valid second).symm.trans (tallies.answers valid second')
  exact ⟨fun id => (agree.same id).trans (agree'.same id), l, first, third⟩

/-- An errand comes to the same in systems that agree. -/
theorem carryOut (tallies : Tallies c lists) (agree : Agree c lists (n + 1) a b) (errand : Errand) :
    Agree c lists n (carryOut setup errand a).2 (carryOut setup errand b).2 := by
  obtain ⟨settled, settled'⟩ := agree.settled
  obtain ⟨answer, own⟩ := tallies.carryOut_respects (agree.same errand.runId) settled settled'
  have left := tallies.carryOut_spares settled errand
  have right := tallies.carryOut_spares settled' errand
  obtain ⟨l, listed, listed'⟩ := agree.listed
  refine ⟨fun id => ?_, _, (tallies.carryOut_leaves settled errand).2 listed,
    answer ▸ (tallies.carryOut_leaves settled' errand).2 listed'⟩
  by_cases same : id = errand.runId
  · exact same ▸ own
  · exact (left.others id same).symm.trans ((agree.same id).trans (right.others id same))

/-- Errands of two runs come to the same in either order. -/
theorem swap (tallies : Tallies c lists) (agree : Agree c lists (n + 2) a a) (ne : errand.runId ≠ errand'.runId) :
    Agree c lists n (Automation.carryOut setup errand' (Automation.carryOut setup errand a).2).2
      (Automation.carryOut setup errand (Automation.carryOut setup errand' a).2).2 := by
  have settled := agree.settled.1
  have first := tallies.carryOut_spares settled errand
  have first' := tallies.carryOut_spares settled errand'
  have second := tallies.carryOut_spares first.settled errand'
  have second' := tallies.carryOut_spares first'.settled errand
  obtain ⟨answer, own⟩ := tallies.carryOut_respects (first'.others errand.runId ne) settled first'.settled
  obtain ⟨answer', own'⟩ := tallies.carryOut_respects (first.others errand'.runId ne.symm) settled first.settled
  obtain ⟨l, listed, -⟩ := agree.listed
  refine ⟨fun id => ?_, _, (tallies.carryOut_leaves first.settled errand').2
    ((tallies.carryOut_leaves settled errand).2 listed), ?_⟩
  · by_cases same : id = errand.runId
    · exact same ▸ (second.others _ ne).symm.trans own
    by_cases same' : id = errand'.runId
    · exact same' ▸ own'.symm.trans (second'.others _ ne.symm)
    · exact ((first.others id same).trans (second.others id same')).symm.trans
        ((first'.others id same').trans (second'.others id same))
  · rw [← answer', Store.tallied_comm, answer]
    exact (tallies.carryOut_leaves first'.settled errand).2 ((tallies.carryOut_leaves settled errand').2 listed)

end Agree

theorem carryOutEach_cons (errand : Errand) (rest : List Errand) (a : Automation δ) :
    (carryOutEach setup (errand :: rest) a).2 =
      (carryOutEach setup rest { (carryOut setup errand a).2 with queue := rest }).2 := by
  have sure := carryOut_sure setup errand a
  rw [carryOutEach, Act.bind_apply]
  unfold Act.Ensures at sure
  rcases run : carryOut setup errand a with ⟨_ | _, b⟩ <;> rw [run] at sure
  · exact sure.elim
  · rfl

namespace Agree

variable {lists : Nat → List Workflow → Store → Prop} (tallies : Tallies c lists)
include tallies

theorem carryOutEach (errands : List Errand) : ∀ {a b : Automation δ}, Agree c lists errands.length a b →
    Agree c lists 0 (carryOutEach setup errands a).2 (carryOutEach setup errands b).2 := by
  induction errands with
  | nil => exact fun agree => agree
  | cons errand rest ih =>
    intro a b agree
    rw [carryOutEach_cons, carryOutEach_cons]
    exact ih ((agree.carryOut tallies errand).queued rest rest)

/-- Errands of different runs come to the same in whatever order. -/
theorem carryOutEach_perm {errands errands' : List Errand} (perm : errands.Perm errands') :
    ∀ {a b : Automation δ}, Agree c lists errands.length a b → (errands.map Errand.runId).Nodup →
      Agree c lists 0 (Automation.carryOutEach setup errands a).2 (Automation.carryOutEach setup errands' b).2 := by
  induction perm with
  | nil => exact fun agree _ => agree
  | cons errand perm ih =>
    intro a b agree distinct
    rw [carryOutEach_cons, carryOutEach_cons]
    exact ih ((agree.carryOut tallies errand).queued _ _) (List.nodup_cons.mp distinct).2
  | swap errand errand' rest =>
    intro a b agree distinct
    have ne : errand'.runId ≠ errand.runId := fun same =>
      (List.nodup_cons.mp distinct).1 (same ▸ List.mem_cons_self)
    -- the first two errands are swapped in one system, and then carried out in both
    have first := agree.left.carryOut tallies errand'
    have second :=
      (first.queued (errand :: rest) (Automation.carryOut setup errand' a).2.queue).carryOut tallies errand
    have third := ((agree.carryOut tallies errand).queued (Automation.carryOut setup errand a).2.queue
      (errand' :: rest)).carryOut tallies errand'
    rw [carryOutEach_cons, carryOutEach_cons, carryOutEach_cons, carryOutEach_cons]
    exact carryOutEach tallies rest
      ((second.trans tallies ((agree.left.swap tallies ne).trans tallies third)).queued rest rest)
  | trans perm perm' ih ih' =>
    intro a b agree distinct
    have again := ih' (perm.length_eq ▸ agree.right) ((perm.map Errand.runId).nodup_iff.mp distinct)
    exact (ih agree distinct).trans tallies again

end Agree

/-- Nothing that can be asked of the runs, of the workflows or of the requests to cancel tells two systems apart. -/
structure Alike (a b : Automation δ) : Prop where
  executions : ∀ id, (Store.execution? id a.store).1 = (Store.execution? id b.store).1
  workflows : (Store.workflows a.store).1 = (Store.workflows b.store).1
  cancels : ∀ id, id ∈ a.desk.cancels ↔ id ∈ b.desk.cancels

theorem execution?_of_same {id : String} (same : c.separate.Same id a.desk b.desk) :
    (Store.execution? id a.store).1 = (Store.execution? id b.store).1 := (c.separate.load id _ _ same.world).1

theorem Agree.alike {lists : Nat → List Workflow → Store → Prop} (tallies : Tallies c lists) {n : Nat}
    (agree : Agree c lists n a b) : Alike a b where
  executions id := execution?_of_same (agree.same id)
  workflows := by
    obtain ⟨l, first, second⟩ := agree.listed
    have valid := (agree.same "").world
    exact (tallies.answers valid.left first).trans (tallies.answers valid.right second).symm
  cancels id := (agree.same id).asked

theorem Tallies.commute {lists : Nat → List Workflow → Store → Prop} (tallies : Tallies c lists)
    (valid : c.valid a.desk.world) {n : Nat} {l : List Workflow} (listed : lists n l a.store) :
    (∀ errands errands', errands.length ≤ n → (errands.map Errand.runId).Nodup → errands.Perm errands' →
      Alike (carryOutEach setup errands a).2 (carryOutEach setup errands' a).2) ∧
    ∀ errand id, id ≠ errand.runId →
      (Store.execution? id (carryOut setup errand a).2.store).1 = (Store.execution? id a.store).1 := by
  have settled : c.separate.Settled a.desk := fun _ => ⟨⟨valid, valid, rfl, rfl⟩, Iff.rfl, Iff.rfl⟩
  refine ⟨fun errands errands' few distinct perm => ?_, fun errand id ne => ?_⟩
  · have fewer : lists errands.length l a.store := Nat.decreasingInduction (fun _ _ => tallies.fewer) listed few
    exact (Agree.carryOutEach_perm tallies perm ⟨settled, l, fewer, fewer⟩ distinct).alike tallies
  · exact (execution?_of_same ((tallies.carryOut_spares settled errand).others id ne)).symm

end Automation

open Workflow (readable) in
/-- Records are kept in memory; or on a shelf, each execution in a file of its own, and the workflows in a file which
tells their identifiers and in which so many failures more can be counted. -/
inductive Store.Orderly (n : Nat) (s : Store) : Prop where
  | memory (kept : s.InMemory)
  | shelf {shelf : Shelf} {items : List Json} (filed : s.Filed shelf) (holds : s.Holds shelf items)
    (room : ∀ w ∈ readable items, w.HasRoom n)

namespace Automation

variable {δ : Type} {setup : Setup δ} {a : Automation δ}

/-- Errands of different runs may be carried out in any order, and none of them changes the record of another run. -/
theorem errands_commute (inert : setup.dispatcher.Inert) {n : Nat} (orderly : a.store.Orderly n) :
    (∀ errands errands', errands.length ≤ n → (errands.map Errand.runId).Nodup → errands.Perm errands' →
      Alike (carryOutEach setup errands a).2 (carryOutEach setup errands' a).2) ∧
    ∀ errand id, id ≠ errand.runId →
      (Store.execution? id (carryOut setup errand a).2.store).1 = (Store.execution? id a.store).1 := by
  cases orderly with
  | memory kept => exact (remembering_tallies inert).commute kept rfl
  | shelf filed holds room => exact (filing_tallies inert _).commute filed ⟨⟨_, holds, rfl⟩, room⟩

end Automation

namespace Trial

open Automation
open TriggerFlow.Run (mailing)

/-- A dispatcher that reports every action as failed. -/
def refuser : Action.Dispatcher Unit where
  respond _ _ state := ([.draw], .failure .reported "Refused", state)

theorem refuser_inert : refuser.Inert where
  answer _ _ _ _ _ := rfl
  draws _ _ _ _ := List.mem_singleton.mp

def refusal : Setup Unit := ⟨refuser, bounds, false⟩

/-- A run that waits before it sends a mail. -/
def delayed : Execution :=
  { created mailing with status := .waiting, nodeId := some "delay", wait := some ⟨some nine, none, none⟩ }

/-- Another run that is about to begin. -/
def upcoming : Execution := { created mailing with id := "other" }

/-- A system with these two runs. -/
def postbox : Automation Unit :=
  ⟨⟨[], [], ⟨⟨nine, 0, [], .memory ⟨[("flow", flow)], [("run", delayed), ("other", upcoming)], []⟩⟩, (), []⟩⟩, []⟩

theorem postbox_kept : postbox.store.InMemory :=
  ⟨⟨_, rfl⟩, (Ordered.Indexed.nil.set delayed).set upcoming, Ordered.Indexed.nil.set flow⟩

theorem storable_flow : flow.Storable where
  accepted := by simp [Graph.Accepted, Workflow.graph, flow, Graph.pausing, Task.Accepted, Action.Accepted]
  shown := by
    have shown : nine.Shown := ⟨by decide, by decide⟩
    exact ⟨by simp [flow], shown, shown⟩
  plain := by decide

/-- A shelf with the files of the two runs. -/
def filedRuns : Store :=
  (Store.saveExecution upcoming (Store.saveExecution delayed ⟨nine, 0, [], .files ⟨"."⟩⟩).2).2

theorem filedRuns_filed : filedRuns.Filed ⟨"."⟩ := by
  have bare : Store.Filed ⟨nine, 0, [], .files ⟨"."⟩⟩ ⟨"."⟩ := ⟨rfl, fun _ => .none⟩
  exact ((bare.saveExecution_apply delayed).2.filed.saveExecution_apply upcoming).2.filed

/-- The system with the two runs, and with its records on a shelf. -/
def shelved : Automation Unit := ⟨⟨[], [], ⟨(Store.storeWorkflows ⟨"."⟩ [flow] [] filedRuns).2, (), []⟩⟩, []⟩

theorem shelved_orderly : shelved.store.Orderly 2 := by
  have storable : ∀ w ∈ [flow], w.Storable := by simpa using storable_flow
  have filed := ((Store.refiled_free filedRuns ⟨"."⟩ _).setWorkflows filedRuns_filed.kind ⟨filedRuns_filed, rfl, rfl⟩
    (workflowsText [flow] [])).filed
  refine .shelf filed (Store.holds_storeWorkflows filedRuns_filed.kind storable (by simp) (by simp)) ?_
  rw [Store.readable_written storable (by simp)]
  intro w mem
  obtain rfl : w = flow.recorded := by simpa using mem
  show ∀ m ≤ 2, (Json.int (flow.errorCount + (m : Nat))).isPlain = true
  decide

/-- The run that is resumed fails and is counted, the other one waits, and it does not matter which comes first. -/
theorem postbox_commutes : refuser.Inert ∧ postbox.store.Orderly 2 ∧ shelved.store.Orderly 2 ∧
    Alike (carryOutEach refusal [.resume delayed none [], .start upcoming] postbox).2
      (carryOutEach refusal [.start upcoming, .resume delayed none []] postbox).2 ∧
    (let left := (carryOutEach refusal [.resume delayed none [], .start upcoming] postbox).2.store
     (left.runs.get? "run").map Execution.status = some .failed ∧
      (left.runs.get? "other").map Execution.status = some .waiting ∧
      (left.definitions.get? "flow").map Workflow.errorCount = some 1) ∧
    Alike (carryOutEach refusal [.resume delayed none [], .start upcoming] shelved).2
      (carryOutEach refusal [.start upcoming, .resume delayed none []] shelved).2 ∧
    (Store.execution? "other" (carryOut refusal (.resume delayed none []) shelved).2.store).1 =
      (Store.execution? "other" shelved.store).1 := by
  have inert : refusal.dispatcher.Inert := refuser_inert
  have kept : postbox.store.Orderly 2 := .memory postbox_kept
  have perm : List.Perm [Errand.resume delayed none [], .start upcoming] [.start upcoming, .resume delayed none []] :=
    .swap _ _ _
  obtain ⟨commute, -⟩ := errands_commute inert kept
  obtain ⟨commute', apart⟩ := errands_commute inert shelved_orderly
  refine ⟨inert, kept, shelved_orderly, commute _ _ le_rfl (by decide) perm, by decide +kernel,
    commute' _ _ le_rfl (by decide) perm, ?_⟩
  exact apart (.resume delayed none []) "other" (by decide)

end Trial

end TriggerFlow
