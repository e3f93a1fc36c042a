import TriggerFlow.Proofs.Run.Calls
import TriggerFlow.Proofs.Run.Gathering

/-!
# What becomes of the variables

The variables of a run change where the output of an action is merged into them, and nowhere else: an action that fails,
a condition and a wait leave them as they are, and so does the context that a wait is looked at with. After any visits
they are what they were before, overlaid by the outputs of the actions that have succeeded since, in order.
-/

namespace TriggerFlow.Run

variable {σ : Type} {s : Surroundings σ} {limits : Limits} {h v : Held σ}

/-- What the run gets back from the call that is made where it has come to, if one is made there. -/
def answerAt (s : Surroundings σ) (limits : Limits) (v : Held σ) : Option (Except String Action.Result) :=
  (v.record.nodeId.bind v.record.graph.node?).bind fun node =>
    match node.task with
    | .action a =>
      (callAt v.record node).bind fun call => (send s call (a.timeout.or limits.timeout) v).1.toOption
    | _ => none

/-- The output of the action that is carried out where the run has come to, if it succeeds. -/
def outputAt (s : Surroundings σ) (limits : Limits) (v : Held σ) : Option Members :=
  (answerAt s limits v).bind fun answer => answer.toOption.map Action.Result.output

/-- Variables that outputs have been merged into, one after the other. -/
def merged (vars : Members) (outputs : List Members) : Members := outputs.foldl Ordered.overlay vars

theorem merged_append (vars : Members) (outputs more : List Members) :
    merged vars (outputs ++ more) = merged (merged vars outputs) more := List.foldl_append

theorem answerAt_of_no_call (makes : callOf v.record = none) : answerAt s limits v = none := by
  unfold answerAt
  cases found : v.record.nodeId.bind v.record.graph.node? with
  | none => rfl
  | some node =>
    have quiet : callAt v.record node = none := by simpa [callOf, found] using makes
    rw [Option.bind_some]
    split
    · rw [quiet, Option.bind_none]
    · rfl

theorem answerAt_of_call {node : Node} {a : Action} {config : Members}
    (found : v.record.nodeId.bind v.record.graph.node? = some node) (task : node.task = .action a)
    (parks : a.kind.parks = false) (renders : Template.renderMembers v.record.vars a.config = .ok config) :
    answerAt s limits v = (send s (sendingOf v.record node a config) (a.timeout.or limits.timeout) v).1.toOption := by
  have makes : callAt v.record node = some (sendingOf v.record node a config) := by
    rw [callAt_action task, parks, renders]
    rfl
  simp only [answerAt, found, Option.bind_some, task, makes]

/-- What leaves the record in hand alone leaves the variables alone. -/
theorem vars_of_record {α : Type} {x : Act (Held σ) α}
    (same : x.Ensures h (fun _ h' => h'.record = h.record) fun _ h' => h'.record = h.record) :
    x.Ensures h (fun _ h' => h'.record.vars = h.record.vars) fun _ h' => h'.record.vars = h.record.vars :=
  same.mono (fun _ _ => congrArg Execution.vars) fun _ _ => congrArg Execution.vars

/-- Whatever is done without merging an output. -/
def steady (s : Surroundings σ) : Manner.Heeding s where
  fits _ := True
  goes h h' := h'.record.vars = h.record.vars
  refl _ := rfl
  trans same same' := same'.trans same
  fits_of_goes _ := trivial
  change _ retouched := retouched.vars
  log _ nodeId action outcome message data := (log_record nodeId action outcome message data).mono
    (fun _ _ record => by rw [record]; rfl) fun _ _ record => by rw [record]; rfl
  happen _ _ := vars_of_record (happen_record _)
  persist _ _ := vars_of_record persist_record
  consume _ _ := vars_of_record (atDesk_record _)
  moved expected _ _ := vars_of_record (movedOn_record expected)

/-- A visit merges the output of an action that has succeeded, and leaves the variables alone otherwise. -/
theorem visit_merges (limits : Limits) : (visit s limits).Ensures h
    (fun _ h' => h'.record.vars = merged h.record.vars (outputAt s limits h).toList)
    fun _ h' => h'.record.vars = merged h.record.vars (outputAt s limits h).toList := by
  cases makes : callOf h.record with
  | none =>
    rw [outputAt, answerAt_of_no_call makes]
    exact (steady s).toStoring.visit_of_no_call limits trivial makes
  | some call =>
    obtain ⟨node, a, config, found, task, parks, renders, -⟩ := callOf_eq_some makes
    rw [Act.ensures_of_eq (visit_eq_of_call limits found task parks renders), outputAt,
      answerAt_of_call found task parks renders]
    have sends := send_record (s := s) (h := h) (sendingOf h.record node a config) (a.timeout.or limits.timeout)
    rcases sent : send s (sendingOf h.record node a config) (a.timeout.or limits.timeout) h with ⟨_ | answer, h₁⟩
    · exact (sends.of_error sent).elim
    have same := sends.of_ok sent
    rw [Act.ensures_bind_of_ok sent]
    cases answer with
    | error message =>
      have rest : (steady s).Goes (actionFailed s node a message >>= goOn s) h₁ :=
        ((steady s).keeps_actionFailed node a message h₁ trivial).bind fun next h₂ _ =>
          (steady s).keeps_goOn next h₂ trivial
      exact rest.mono (fun _ _ vars => vars.trans (same ▸ rfl)) fun _ _ vars => vars.trans (same ▸ rfl)
    | ok result =>
      have merges : merged h.record.vars [result.output] = Ordered.overlay h₁.record.vars result.output := by
        rw [same]
        rfl
      have rest {h₂ : Held σ} (message : String) (data : Option Members) : (steady s).Goes (do
          log s node.id (actionLabel node a) .success message data
          let next ← successor h.record.graph node.id
          goOn s (some next)) h₂ :=
        ((steady s).keeps_log _ _ _ _ _ h₂ trivial).bind fun _ h₃ _ =>
          ((steady s).keeps_successor _ _ h₃ trivial).bind fun next h₄ _ => (steady s).keeps_goOn _ h₄ trivial
      refine Act.ensures_bind.mpr (Act.ensures_bind.mpr (ensures_change.mpr (Act.ensures_bind.mp ?_)))
      simp only [bind_assoc, pure_bind]
      apply (rest _ _).mono
      · exact fun _ _ vars => vars.trans merges.symm
      · exact fun _ _ vars => vars.trans merges.symm

/-- What visits contribute to the variables. -/
def outputs (s : Surroundings σ) (limits : Limits) : Gathering s limits Members where
  manner := steady s
  gift v := (outputAt s limits v).toList
  gains h new h' := h'.record.vars = merged h.record.vars new
  still same := same
  trans gains gains' := by rw [gains', gains, merged_append]
  fits_of_gains _ := trivial
  visit _ := visit_merges limits

end TriggerFlow.Run
