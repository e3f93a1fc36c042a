import TriggerFlow.Proofs.Automation.Interleaving
import TriggerFlow.Proofs.Automation.Refused

/-!
# Calls about one definition, one after the other

However calls about one definition come between each other, edits and launches count as if they had been made one after
the other. What is done without the lock may be lost: an edit saves the definition that it has read, and undoes what
has been done since. And a workflow is enabled although an edit has come in between since its graph was looked at. As
long as neither happens, all calls that have returned count, in the order in which they have returned.
-/

namespace TriggerFlow.Concurrent

variable {ι : Type} {id : String}

namespace Call

/-- What a call makes of the stored definition at some time, if it succeeds. -/
inductive Effect (time : Instant) : Call id → Option Workflow → Option Workflow → Prop
  | edited {changes : Members} {w w' : Workflow} (known : Edit.unknown changes = [])
    (makes : Store.Makes (Edit.ofRecord changes) time w w') : Effect time (.edit changes) (some w) (some w')
  | enabled {w : Workflow} (sound : w.graph.defects = .ok []) :
    Effect time .enable (some w) (some { w with enabled := true })
  | disabled {w : Workflow} : Effect time .disable (some w) (some { w with enabled := false })
  | removed {w : Workflow} : Effect time .remove (some w) none
  | launched {w : Workflow} {own : w.id = id} {kind : TriggerKind} {payload : Members} {d : Option Workflow} :
    Effect time (.launch w own kind payload) d (d.map (Workflow.launchedAt time))

/-- A call that is to have some effect succeeds, and has it. -/
theorem Effect.whole {s : Store} {call : Call id} {d : Option Workflow} (kept : s.InMemory)
    (effect : call.Effect s.now (s.definitions.get? id) d) :
    call.whole.Ensures s (fun _ s' => s'.InMemory ∧ s'.definitions.get? id = d) fun _ _ => False := by
  generalize stored : s.definitions.get? id = before at effect
  have sets {s' : Store} {w : Workflow} (redefines : s.Redefines (s.definitions.set id w) s') :
      s'.InMemory ∧ s'.definitions.get? id = some w := by
    refine ⟨redefines.kept, ?_⟩
    rw [redefines.definitions, Ordered.get?_set_self]
  cases effect with
  | @edited changes w w' known makes =>
    refine Act.ensures_map.mpr ((Store.editWorkflow_spec kept id changes).mono ?_ ?_)
    · rintro _ s' ⟨-, old, present, ⟨made, read, rfl, -⟩, redefines⟩
      cases stored.symm.trans present
      obtain ⟨made', read', rfl, -⟩ := makes
      cases read.symm.trans read'
      exact sets redefines
    · exact fun _ _ failed => failed.2 known w stored w' makes
  | @enabled w sound =>
    refine Act.ensures_map.mpr ((Store.enableWorkflow_spec kept id).mono ?_ ?_)
    · rintro _ s' ⟨old, present, -, redefines⟩
      cases stored.symm.trans present
      exact sets redefines
    · exact fun _ _ failed => failed.2 w stored sound
  | @disabled w =>
    refine Act.ensures_map.mpr ((Store.disableWorkflow_spec kept id).mono ?_ ?_)
    · rintro _ s' ⟨old, present, redefines⟩
      cases stored.symm.trans present
      exact sets redefines
    · rintro _ _ ⟨-, missing⟩
      cases missing.symm.trans stored
  | removed =>
    refine (Store.removeWorkflow_spec kept id).mono ?_ ?_
    · rintro _ s' ⟨-, redefines⟩
      refine ⟨redefines.kept, ?_⟩
      rw [redefines.definitions, Ordered.get?_erase, Function.update_self]
    · rintro _ _ ⟨missing, -⟩
      cases missing.symm.trans stored
  | @launched w own kind payload =>
    refine Act.ensures_map.mpr ((Store.createRun_spec kept w kind payload).mono ?_ fun _ _ none => none)
    rintro _ s' ⟨-, s₁, reruns, -, redefines⟩
    refine ⟨redefines.kept, ?_⟩
    rw [redefines.definitions, reruns.definitions, Store.get?_touched, stored]
    simp [own]

end Call

/-- Calls are made one after the other, each at its time. -/
def inTurn (call : ι → Call id) : List (ι × Instant) → Act Store Unit
  | [] => pure ()
  | (i, time) :: rest => do
    Act.modify fun s => { s with now := time }
    (call i).whole
    inTurn call rest

/-- Calls that are made one after the other all succeed, and leave a definition behind. -/
def Leaves (call : ι → Call id) (s : Store) (order : List (ι × Instant)) (d : Option Workflow) : Prop :=
  (inTurn call order).Ensures s (fun _ s' => s'.definitions.get? id = d) fun _ _ => False

/-- There is one definition that they leave behind. -/
theorem Leaves.unique {call : ι → Call id} {s : Store} {order : List (ι × Instant)} {d d' : Option Workflow}
    (leaves : Leaves call s order d) (leaves' : Leaves call s order d') : d = d' := by
  unfold Leaves Act.Ensures at leaves leaves'
  rcases run : inTurn call order s with ⟨_ | _, t⟩ <;> rw [run] at leaves leaves'
  · exact leaves.elim
  · exact leaves.symm.trans leaves'

/-- What calls make of the stored definition, one after the other. -/
inductive Serial (call : ι → Call id) : Option Workflow → List (ι × Instant) → Option Workflow → Prop
  | done (d : Option Workflow) : Serial call d [] d
  | next {i : ι} {time : Instant} {order : List (ι × Instant)} {d d' d'' : Option Workflow}
    (effect : (call i).Effect time d d') (rest : Serial call d' order d'') : Serial call d ((i, time) :: order) d''

namespace Serial

variable {call : ι → Call id} {d d' d'' : Option Workflow} {order order' : List (ι × Instant)}

theorem append (h : Serial call d order d') (h' : Serial call d' order' d'') : Serial call d (order ++ order') d'' := by
  induction h with
  | done => exact h'
  | next effect rest ih => exact .next effect (ih h')

theorem snoc {i : ι} {time : Instant} (h : Serial call d order d') (effect : (call i).Effect time d' d'') :
    Serial call d (order ++ [(i, time)]) d'' := h.append (.next effect (.done _))

theorem leaves : ∀ {order : List (ι × Instant)} {s : Store}, s.InMemory →
    Serial call (s.definitions.get? id) order d → Leaves call s order d
  | [], s, _, serial => by
    cases serial
    exact rfl
  | (i, time) :: rest, s, kept, serial => by
    cases serial with
    | next effect serial =>
      refine Act.ensures_bind.mpr (Act.ensures_modify.mpr (Act.ensures_bind.mpr ?_))
      refine (Call.Effect.whole (s := { s with now := time }) ⟨kept.kind, kept.runs, kept.definitions⟩ effect).mono ?_
        fun _ _ none => none
      rintro _ s' ⟨kept', made⟩
      exact leaves kept' (made ▸ serial)

/-- Calls that are made one after the other come to some definition in between. -/
theorem split {earlier later : List (ι × Instant)} (h : Serial call d (earlier ++ later) d'') :
    ∃ d', Serial call d earlier d' ∧ Serial call d' later d'' := by
  induction earlier generalizing d with
  | nil => exact ⟨d, .done d, h⟩
  | cons _ _ ih =>
    cases h with
    | next effect rest =>
      obtain ⟨d', before, after⟩ := ih rest
      exact ⟨d', .next effect before, after⟩

/-- What every allowed call preserves holds after all of them. -/
theorem preserves (h : Serial call d order d') (P : Option Workflow → Prop) (allowed : Call id → Prop)
    (each : ∀ {c : Call id} {time d d'}, allowed c → c.Effect time d d' → P d → P d')
    (allow : ∀ called ∈ order, allowed (call called.1)) (holds : P d) : P d' := by
  induction h with
  | done => exact holds
  | next effect rest ih =>
    have first := each (allow _ (List.mem_cons_self ..)) effect holds
    exact ih (fun called mem => allow called (List.mem_cons_of_mem _ mem)) first

end Serial

/-- An enabled definition has a graph without defects. -/
def Sound (d : Option Workflow) : Prop := ∀ w, d = some w → w.enabled = true → w.graph.defects = .ok []

/-- No definition is enabled. -/
def Resting (d : Option Workflow) : Prop := ∀ w, d = some w → w.enabled = false

namespace Call

variable {call : Call id} {time : Instant} {d d' : Option Workflow}

theorem Effect.sound (effect : call.Effect time d d') (sound : Sound d) : Sound d' := by
  intro w' stored enabled
  cases effect with
  | edited _ makes =>
    obtain ⟨_, -, -, sound'⟩ := makes
    cases stored
    exact sound' enabled
  | enabled defects =>
    cases stored
    exact defects
  | disabled =>
    cases stored
    cases enabled
  | removed => cases stored
  | launched =>
    obtain ⟨w, rfl, same⟩ := Option.map_eq_some_iff.mp stored
    subst same
    exact sound w rfl enabled

theorem Effect.resting (effect : call.Effect time d d') (other : call ≠ .enable) (resting : Resting d) :
    Resting d' := by
  intro w' stored
  cases effect with
  | @edited changes w _ _ makes =>
    obtain ⟨made, -, rfl, -⟩ := makes
    cases stored
    exact resting w rfl
  | enabled => exact absurd rfl other
  | disabled =>
    cases stored
    rfl
  | removed => cases stored
  | launched =>
    obtain ⟨w, rfl, same⟩ := Option.map_eq_some_iff.mp stored
    subst same
    exact resting w rfl

theorem Effect.gone (effect : call.Effect time d d') (gone : d = none) : d' = none := by
  subst gone
  cases effect with
  | launched => rfl

/-- Edits and launches, whose steps are made with the lock for writing. -/
def Guarded : Call id → Prop
  | .edit _ => True
  | .launch _ _ _ _ => True
  | _ => False

/-- A workflow is enabled only if the graph that is stored then has no defects. -/
def Checked : Call id → Stage → Option Workflow → Prop
  | .enable, .read _, some w => w.graph.defects = .ok []
  | _, _, _ => True

/-- Besides, an edit saves what it has made of the definition only if that is the stored one still. -/
def Current : Call id → Stage → Option Workflow → Prop
  | .edit _, .read w, stored => stored = some w
  | call, stage, stored => call.Checked stage stored

theorem Current.checked {stage : Stage} (current : call.Current stage d) : call.Checked stage d := by
  cases call with
  | edit => trivial
  | _ => exact current

/-- The definition that the effect of a call is worked out from. -/
def source : Call id → Stage → Option Workflow → Option Workflow
  | .edit _, .read w, _ => some w
  | _, _, stored => stored

theorem source_cases (call : Call id) (stage : Stage) (d : Option Workflow) :
    (∃ changes w, call = .edit changes ∧ stage = .read w ∧ call.source stage d = some w) ∨ call.source stage d = d := by
  cases call with
  | edit changes => cases stage with
    | read w => exact .inl ⟨changes, w, rfl, rfl, rfl⟩
    | _ => exact .inr rfl
  | _ => exact .inr rfl

theorem Current.source_eq {stage : Stage} (current : call.Current stage d) : call.source stage d = d := by
  cases call with
  | edit => cases stage with
    | read w => exact current.symm
    | _ => rfl
  | _ => rfl

namespace Progress

variable {now : Instant} {stage : Stage}

/-- A call that returns has its effect. -/
theorem effect (progress : call.Progress now stage d .returned d') (fits : call.Fits stage)
    (checked : call.Checked stage d) (counting : ∀ time v w, stage = .counting time v → d = some w →
      w.executionCount = v.executionCount) : call.Effect (stage.time now) (call.source stage d) d' := by
  cases progress with
  | saves makes => exact .edited fits.1 makes
  | enables => exact .enabled checked
  | disables => exact .disabled
  | removes => exact .removed
  | misses => exact .launched
  | @counts w v v' own kind payload time =>
    have same := counting time v v' rfl rfl
    rw [← same]
    exact .launched

/-- An edit or a launch returns from a step that it makes with the lock. -/
theorem locks_of_guarded (progress : call.Progress now stage d .returned d') (guarded : call.Guarded) :
    call.Locks stage := by
  cases progress with
  | enables | disables | removes => exact guarded.elim
  | _ => trivial

end Progress

end Call

namespace Serial

variable {call : ι → Call id} {d d' : Option Workflow} {order : List (ι × Instant)}

theorem sound (serial : Serial call d order d') (sound : Sound d) : Sound d' :=
  serial.preserves Sound (fun _ => True) (fun _ effect => effect.sound) (fun _ _ => trivial) sound

theorem gone (serial : Serial call d order d') (gone : d = none) : d' = none :=
  serial.preserves (· = none) (fun _ => True) (fun _ effect => effect.gone) (fun _ _ => trivial) gone

theorem resting (serial : Serial call d order d') (others : ∀ called ∈ order, call called.1 ≠ .enable)
    (resting : Resting d) : Resting d' :=
  serial.preserves Resting (· ≠ .enable) (fun other effect => effect.resting other) others resting

/-- A workflow that has been removed is gone, and one that has been disabled rests until it is enabled again. -/
theorem lasts {earlier later : List (ι × Instant)} {i : ι} {time : Instant}
    (serial : Serial call d (earlier ++ (i, time) :: later) d') : (call i = .remove → d' = none) ∧
      (call i = .disable → (∀ called ∈ later, call called.1 ≠ .enable) → Resting d') := by
  obtain ⟨_, -, last⟩ := serial.split
  cases last with
  | next effect rest =>
    constructor
    · intro removes
      rw [removes] at effect
      cases effect with
      | removed => exact rest.gone rfl
    · intro disables others
      rw [disables] at effect
      cases effect with
      | disabled =>
        refine rest.resting others fun w same => ?_
        cases same
        rfl

end Serial

section Steps

variable {rule : Rule id} {call : ι → Call id} {d₀ : Option Workflow} {a b : State ι} {i j : ι} {next : Stage}
  {w : Workflow} {time : Instant} {order : List (ι × Instant)}

/-- An edit is in between where it has read the definition and where it saves it. -/
def Editing (call : ι → Call id) (a : State ι) (i : ι) (w : Workflow) : Prop :=
  (∃ changes, call i = .edit changes) ∧ a.stage i = .read w

theorem Editing.holds (editing : Editing call a i w) : (call i).Holds (a.stage i) := by
  obtain ⟨⟨changes, edit⟩, read⟩ := editing
  rw [edit, read]
  trivial

/-- The stored definition is what some of the calls that have returned make of the first one, among them all edits and
launches. What an edit has read is what those calls make of it that were there then. None of those since is one that
has the lock. -/
structure Explains (call : ι → Call id) (d₀ : Option Workflow) (a : State ι) (order : List (ι × Instant)) : Prop where
  among : order.Sublist a.answered
  guarded : ∀ called ∈ a.answered, (call called.1).Guarded → called ∈ order
  serial : Serial call d₀ order (a.store.definitions.get? id)
  editing : ∀ i w, Editing call a i w → ∃ earlier later, order = earlier ++ later ∧
    Serial call d₀ earlier (some w) ∧ ∀ called ∈ later, ¬ (call called.1).Guarded

theorem Explains.first (s : Store) : Explains call (s.definitions.get? id) ⟨s, fun _ => .begins, []⟩ [] where
  among := .refl _
  guarded := nofun
  serial := .done _
  editing _ _ editing := nomatch editing.2

/-- What a call that returns has made of the definition. -/
theorem Returns.effect (returns : Returns call i next a b) (lawful : Lawful call a)
    (checked : (call i).Checked (a.stage i) (a.store.definitions.get? id)) :
    ∃ time, (call i).Effect time ((call i).source (a.stage i) (a.store.definitions.get? id))
        (b.store.definitions.get? id) ∧
      b.answered = a.answered ++ [(i, time)] ∧ ((call i).Guarded → (call i).Locks (a.stage i)) := by
  obtain ⟨rfl, now, progress, answered⟩ := returns
  exact ⟨_, progress.effect (lawful.fits i) checked fun time v w => lawful.counting i time v w, answered,
    progress.locks_of_guarded⟩

variable [DecidableEq ι]

/-- An edit that is under way has been so before another call returned. -/
theorem Editing.before (moved : Moved rule call i .returned a b) (editing : Editing call b j w) :
    j ≠ i ∧ Editing call a j w := by
  obtain ⟨edit, read⟩ := editing
  rw [moved.stage] at read
  by_cases own : j = i
  · rw [own, Function.update_self] at read
    cases read
  · rw [Function.update_of_ne own] at read
    exact ⟨own, edit, read⟩

namespace Explains

theorem of_stays (explains : Explains call d₀ a order) (moved : Moved rule call i next a b)
    (stays : Stays id next a b) : Explains call d₀ b order where
  among := stays.answered ▸ explains.among
  guarded := stays.answered ▸ explains.guarded
  serial := stays.same ▸ explains.serial
  editing j w editing := by
    obtain ⟨edit, read⟩ := editing
    rw [moved.stage] at read
    by_cases own : j = i
    · rw [own, Function.update_self] at read
      have stored := stays.looked w (.inl read)
      exact ⟨order, [], (List.append_nil order).symm, stored ▸ explains.serial, nofun⟩
    · rw [Function.update_of_ne own] at read
      exact explains.editing j w ⟨edit, read⟩

/-- An edit takes back what has been done without the lock since it has read the definition. -/
theorem of_edit (explains : Explains call d₀ a order) (lawful : Lawful call a)
    (moved : Moved rule call i .returned a b) (editing : Editing call a i w)
    (effect : (call i).Effect time (some w) (b.store.definitions.get? id))
    (answered : b.answered = a.answered ++ [(i, time)]) : ∃ order', Explains call d₀ b order' := by
  obtain ⟨earlier, later, rfl, serial, unguarded⟩ := explains.editing i w editing
  refine ⟨earlier ++ [(i, time)], ?_, ?_, serial.snoc effect, ?_⟩
  · rw [answered]
    exact ((List.sublist_append_left earlier later).trans explains.among).append (.refl _)
  · intro called mem guarded
    rw [answered] at mem
    rcases List.mem_append.mp mem with old | new
    · rcases List.mem_append.mp (explains.guarded called old guarded) with known | lost
      · exact List.mem_append_left _ known
      · exact absurd guarded (unguarded called lost)
    · exact List.mem_append_right _ new
  · intro j v other
    obtain ⟨different, other⟩ := other.before moved
    exact absurd (lawful.alone i j editing.holds other.holds) different

/-- Any other call counts as the last one. -/
theorem of_other (explains : Explains call d₀ a order) (moved : Moved rule call i .returned a b)
    (locks : (call i).Guarded → (call i).Locks (a.stage i))
    (effect : (call i).Effect time (a.store.definitions.get? id) (b.store.definitions.get? id))
    (answered : b.answered = a.answered ++ [(i, time)]) : Explains call d₀ b (order ++ [(i, time)]) where
  among := answered ▸ explains.among.append (.refl _)
  guarded called mem guarded := by
    rw [answered] at mem
    rcases List.mem_append.mp mem with old | new
    · exact List.mem_append_left _ (explains.guarded called old guarded)
    · exact List.mem_append_right _ new
  serial := explains.serial.snoc effect
  editing j w editing := by
    obtain ⟨different, editing⟩ := editing.before moved
    obtain ⟨earlier, later, rfl, serial, unguarded⟩ := explains.editing j w editing
    refine ⟨earlier, later ++ [(i, time)], List.append_assoc .., serial, fun called mem => ?_⟩
    rcases List.mem_append.mp mem with old | new
    · exact unguarded called old
    · rw [List.mem_singleton.mp new]
      exact fun guarded => different (moved.turn.free (locks guarded) j editing.holds)

end Explains

theorem Step.explains (step : Step rule call a b) (lawful : Lawful call a)
    (checks : ∀ {c : Call id} {stage d}, rule c stage d → c.Checked stage d)
    (explains : Explains call d₀ a order) : ∃ order', Explains call d₀ b order' := by
  obtain ⟨i, next, moved, stays | returns⟩ := step.moved lawful
  · exact ⟨order, explains.of_stays moved stays⟩
  · obtain ⟨time, effect, answered, locks⟩ := returns.effect lawful (checks moved.turn.obeys)
    cases returns.next
    obtain ⟨changes, w, edit, read, source⟩ | source := (call i).source_cases (a.stage i) (a.store.definitions.get? id)
    · exact explains.of_edit lawful moved ⟨⟨changes, edit⟩, read⟩ (source ▸ effect) answered
    · exact ⟨_, explains.of_other moved locks (source ▸ effect) answered⟩

theorem Interleaves.explained {s : Store} (kept : s.InMemory) (interleaves : Interleaves rule call s a)
    (checks : ∀ {c : Call id} {stage d}, rule c stage d → c.Checked stage d) :
    ∃ order, Explains call (s.definitions.get? id) a order := by
  induction interleaves with
  | refl => exact ⟨[], .first s⟩
  | tail earlier step ih =>
    obtain ⟨order, explains⟩ := ih
    exact step.explains (Interleaves.lawful kept earlier) checks explains

/-- If every edit saves what it makes of the stored definition, all calls count, in the order in which they return. -/
theorem Interleaves.serial {s : Store} (kept : s.InMemory) (interleaves : Interleaves Call.Current call s a) :
    Serial call (s.definitions.get? id) a.answered (a.store.definitions.get? id) := by
  induction interleaves with
  | refl => exact .done _
  | tail earlier step ih =>
    have lawful := Interleaves.lawful kept earlier
    obtain ⟨i, next, moved, stays | returns⟩ := step.moved lawful
    · rw [stays.answered, stays.same]
      exact ih
    · obtain ⟨time, effect, answered, -⟩ := returns.effect lawful moved.turn.obeys.checked
      rw [moved.turn.obeys.source_eq] at effect
      rw [answered]
      exact ih.snoc effect

/-- However calls come between each other, each of them is answered once at most, when its last step is made. Edits and
launches are not lost: the definition that is left is what they leave one after the other, with some of the other
calls among them, and it is sound if it is enabled. If no edit saves what it has made of a definition that is not the
stored one any more, then no call is lost, and they count in the order of their answers: a workflow that has been
removed is gone, and one that has been disabled rests until it is enabled again. -/
theorem linearises {s : Store} (kept : s.InMemory) (sound : Sound (s.definitions.get? id)) (call : ι → Call id)
    (a : State ι) :
    (∀ i s', s'.InMemory → (call i).alone s' = (call i).whole s') ∧
    (∀ rule, Interleaves rule call s a →
      (∀ i, a.stage i = .returned ↔ i ∈ a.answered.map Prod.fst) ∧ (a.answered.map Prod.fst).Nodup) ∧
    (Interleaves Call.Checked call s a → Sound (a.store.definitions.get? id) ∧
      ∃ order, order.Sublist a.answered ∧ (∀ called ∈ a.answered, (call called.1).Guarded → called ∈ order) ∧
        Leaves call s order (a.store.definitions.get? id)) ∧
    (Interleaves Call.Current call s a → Sound (a.store.definitions.get? id) ∧
      Leaves call s a.answered (a.store.definitions.get? id) ∧
      ∀ earlier i time later, a.answered = earlier ++ (i, time) :: later →
        (call i = .remove → a.store.definitions.get? id = none) ∧
        (call i = .disable → (∀ called ∈ later, call called.1 ≠ .enable) →
          Resting (a.store.definitions.get? id))) := by
  refine ⟨fun i _ kept' => (call i).alone_eq kept', fun rule interleaves => ?_, fun interleaves => ?_,
    fun interleaves => ?_⟩
  · have lawful := interleaves.lawful kept
    exact ⟨lawful.answered, lawful.once⟩
  · obtain ⟨order, explains⟩ := interleaves.explained kept fun checked => checked
    exact ⟨explains.serial.sound sound, order, explains.among, explains.guarded, explains.serial.leaves kept⟩
  · have serial := interleaves.serial kept
    refine ⟨serial.sound sound, serial.leaves kept, fun earlier i time later answered => ?_⟩
    exact (answered ▸ serial : Serial call _ (earlier ++ (i, time) :: later) _).lasts

end Steps

end TriggerFlow.Concurrent

namespace TriggerFlow.Trial

open Concurrent

/-- The workflow on offer under some name, enabled or not. -/
def named (name : String) (enabled : Bool) : Workflow := { flow with name := name, enabled := enabled }

/-- A store with one workflow. -/
def holding (w : Workflow) : Store := ⟨nine, 0, [], .memory ⟨[("flow", w)], [], []⟩⟩

/-- The workflow is renamed by one and disabled by another. -/
def both : Bool → Call "flow"
  | true => .edit rename
  | false => .disable

/-- How far the two of them have come. -/
def reached (renamer rester : Stage) : Bool → Stage
  | true => renamer
  | false => rester

theorem sound_named (name : String) (enabled : Bool) :
    Store.requireSoundIfEnabled (named name enabled) = pure () := by
  cases enabled with
  | false => rfl
  | true =>
    rw [Store.requireSoundIfEnabled, if_pos (show (named name true).enabled = true from rfl)]
    exact requireSound_flow

theorem rename_reads (w : Workflow) : (both true).advance .begins (holding w) = (.ok (.read w), holding w) := by
  rw [both, Call.advance, rename_known]
  rfl

/-- What is saved is what has been made of the definition that was read, whatever is stored. -/
theorem rename_saves (name : String) (enabled : Bool) (w : Workflow) :
    (both true).advance (.read (named name enabled)) (holding w) =
      (.ok .returned, holding (named "Break" enabled)) := by
  have read : Edit.ofRecord rename = .value ⟨some "Break", none, none, none, none, none⟩ := rfl
  have now : Act.ask Store.now (holding w) = (.ok nine, holding w) := rfl
  rw [both, Call.advance, Act.bind_run_ok now, read]
  dsimp only
  rw [show Edit.apply _ nine (named name enabled) = named "Break" enabled from rfl, sound_named]
  rfl

theorem reached_renamer (renamer rester next : Stage) :
    Function.update (reached renamer rester) true next = reached next rester := by
  funext i
  cases i <;> rfl

theorem reached_rester (renamer rester next : Stage) :
    Function.update (reached renamer rester) false next = reached renamer next := by
  funext i
  cases i <;> rfl

section Steps

variable {rule : Rule "flow"} {a : State Bool} {renamer rester : Stage} {answered : List (Bool × Instant)}

/-- The two of them do not wait for each other. -/
theorem both_turn (i : Bool) (pending : (a.stage i).Pending)
    (obeys : rule (both i) (a.stage i) (a.store.definitions.get? "flow")) : Turn rule both a i where
  pending := pending
  obeys := obeys
  free locks j holds := by
    cases i with
    | false => exact locks.elim
    | true =>
      cases j with
      | false => exact holds.elim
      | true => rfl

theorem both_goes {i : Bool} {next : Stage} {s : Store} (turn : Turn rule both a i)
    (run : (both i).advance (a.stage i) a.store = (.ok next, s)) (more : next ≠ .returned) :
    Step rule both a ⟨s, Function.update a.stage i next, a.answered⟩ := .goes turn run more

theorem both_returns {i : Bool} {s : Store} (turn : Turn rule both a i)
    (run : (both i).advance (a.stage i) a.store = (.ok .returned, s)) :
    Step rule both a ⟨s, Function.update a.stage i .returned, a.answered ++ [(i, (a.stage i).time a.store.now)]⟩ :=
  .returns turn run

theorem rename_reading (w : Workflow) (obeys : rule (both true) .begins (some w)) :
    Step rule both ⟨holding w, reached .begins rester, answered⟩ ⟨holding w, reached (.read w) rester, answered⟩ := by
  have step := both_goes (a := ⟨holding w, reached .begins rester, answered⟩) (both_turn true trivial obeys)
    (rename_reads w) nofun
  rwa [reached_renamer] at step

theorem rename_saving (name : String) (enabled : Bool) (w : Workflow)
    (obeys : rule (both true) (.read (named name enabled)) (some w)) :
    Step rule both ⟨holding w, reached (.read (named name enabled)) rester, answered⟩
      ⟨holding (named "Break" enabled), reached .returned rester, answered ++ [(true, nine)]⟩ := by
  have step := both_returns (a := ⟨holding w, reached (.read (named name enabled)) rester, answered⟩)
    (both_turn true trivial obeys) (rename_saves name enabled w)
  rwa [reached_renamer] at step

theorem rest_looking (w : Workflow) (obeys : rule (both false) .begins (some w)) :
    Step rule both ⟨holding w, reached renamer .begins, answered⟩ ⟨holding w, reached renamer (.read w), answered⟩ := by
  have step := both_goes (s := holding w) (a := ⟨holding w, reached renamer .begins, answered⟩)
    (both_turn false trivial obeys) rfl nofun
  rwa [reached_rester] at step

theorem rest_disabling (v : Workflow) (name : String) (enabled : Bool)
    (obeys : rule (both false) (.read v) (some (named name enabled))) :
    Step rule both ⟨holding (named name enabled), reached renamer (.read v), answered⟩
      ⟨holding (named name false), reached renamer .returned, answered ++ [(false, nine)]⟩ := by
  have step := both_returns (s := holding (named name false))
    (a := ⟨holding (named name enabled), reached renamer (.read v), answered⟩) (both_turn false trivial obeys) rfl
  rwa [reached_rester] at step

end Steps

theorem both_begin : (fun _ => Stage.begins) = reached .begins .begins := by
  funext i
  cases i <;> rfl

/-- The workflow is disabled in between where it has been read and where it is saved. -/
theorem both_overtaken : Interleaves Call.Checked both (holding flow)
    ⟨holding (named "Break" true), reached .returned .returned, [(false, nine), (true, nine)]⟩ := by
  rw [Interleaves, both_begin]
  have reads : Step Call.Checked both ⟨holding flow, reached .begins .begins, []⟩
      ⟨holding flow, reached (.read flow) .begins, []⟩ := rename_reading flow trivial
  have looks : Step Call.Checked both ⟨holding flow, reached (.read flow) .begins, []⟩
      ⟨holding flow, reached (.read flow) (.read flow), []⟩ := rest_looking flow trivial
  have disables : Step Call.Checked both ⟨holding flow, reached (.read flow) (.read flow), []⟩
      ⟨holding (named "Pause" false), reached (.read flow) .returned, [(false, nine)]⟩ :=
    rest_disabling flow "Pause" true trivial
  exact (((Relation.ReflTransGen.single reads).tail looks).tail disables).tail
    (rename_saving "Pause" true (named "Pause" false) trivial)

/-- The workflow is disabled first, and then read and saved. -/
theorem both_apart : Interleaves Call.Current both (holding flow)
    ⟨holding (named "Break" false), reached .returned .returned, [(false, nine), (true, nine)]⟩ := by
  rw [Interleaves, both_begin]
  have looks : Step Call.Current both ⟨holding flow, reached .begins .begins, []⟩
      ⟨holding flow, reached .begins (.read flow), []⟩ := rest_looking flow trivial
  have disables : Step Call.Current both ⟨holding flow, reached .begins (.read flow), []⟩
      ⟨holding (named "Pause" false), reached .begins .returned, [(false, nine)]⟩ :=
    rest_disabling flow "Pause" true trivial
  have reads : Step Call.Current both ⟨holding (named "Pause" false), reached .begins .returned, [(false, nine)]⟩
      ⟨holding (named "Pause" false), reached (.read (named "Pause" false)) .returned, [(false, nine)]⟩ :=
    rename_reading (named "Pause" false) trivial
  exact (((Relation.ReflTransGen.single looks).tail disables).tail reads).tail
    (rename_saving "Pause" false (named "Pause" false) rfl)

theorem rename_makes (enabled : Bool) (time : Instant) : Store.Makes (Edit.ofRecord rename) time
    (named "Pause" enabled) { named "Break" enabled with updatedAt := time } :=
  ⟨⟨some "Break", none, none, none, none, none⟩, rfl, rfl, fun _ => Graph.pausing_sound⟩

/-- Whoever comes first, the workflow rests after the two of them. -/
theorem both_rest {order : List (Bool × Instant)} (each : (order.map Prod.fst).Perm [true, false]) :
    ∃ w, w.enabled = false ∧ Serial both (some flow) order (some w) := by
  match order, each with
  | [(true, time), (false, _)], _ =>
    exact ⟨_, rfl, .next (.edited rename_known (rename_makes true time)) (.next .disabled (.done _))⟩
  | [(false, _), (true, time)], _ =>
    exact ⟨_, rfl, .next .disabled (.next (.edited rename_known (rename_makes false time)) (.done _))⟩
  | [(true, _), (true, _)], each => exact absurd (show [true, true].Perm [true, false] from each) (by decide)
  | [(false, _), (false, _)], each => exact absurd (show [false, false].Perm [true, false] from each) (by decide)
  | [], each | [_], each | _ :: _ :: _ :: _, each => simpa using each.length_eq

/-- If the workflow is disabled in between, it is enabled in the end, as it is in no order of the two of them: the
order that counts is that of the renaming alone. If it is disabled before, it rests. -/
theorem both_linearise : ∃ a b, Interleaves Call.Checked both (holding flow) a ∧
    (∀ i, a.stage i = .returned) ∧
    (∃ w, a.store.definitions.get? "flow" = some w ∧ w.enabled = true ∧
      (∀ order, (order.map Prod.fst).Perm [true, false] → ¬ Leaves both (holding flow) order (some w)) ∧
      ∃ order, order.Sublist a.answered ∧ (true, nine) ∈ order ∧ Leaves both (holding flow) order (some w)) ∧
    Interleaves Call.Current both (holding flow) b ∧ (∀ i, b.stage i = .returned) ∧
      Leaves both (holding flow) b.answered (b.store.definitions.get? "flow") ∧
      Resting (b.store.definitions.get? "flow") := by
  have kept : (holding flow).InMemory := offering_session.steady.orderly.kept
  have sound : Sound ((holding flow).definitions.get? "flow") := by
    intro w stored _
    cases stored
    exact Graph.pausing_sound
  have answered (i : Bool) : reached .returned .returned i = .returned := by cases i <;> rfl
  obtain ⟨-, -, overtaken, -⟩ := linearises kept sound both
    ⟨holding (named "Break" true), reached .returned .returned, [(false, nine), (true, nine)]⟩
  obtain ⟨-, order, among, guarded, leaves⟩ := overtaken both_overtaken
  obtain ⟨-, -, -, apart⟩ := linearises kept sound both
    ⟨holding (named "Break" false), reached .returned .returned, [(false, nine), (true, nine)]⟩
  obtain ⟨-, leaves', each⟩ := apart both_apart
  have rests := (each [] false nine [(true, nine)] rfl).2 rfl fun called mem => by
    rw [List.mem_singleton.mp mem]
    nofun
  refine ⟨_, _, both_overtaken, answered, ⟨_, rfl, rfl, fun order each leaves => ?_, order, among, ?_, leaves⟩,
    both_apart, answered, leaves', rests⟩
  · obtain ⟨w, disabled, serial⟩ := both_rest each
    cases leaves.unique (serial.leaves kept)
    cases disabled
  · exact guarded (true, nine) (by simp) trivial

end TriggerFlow.Trial
