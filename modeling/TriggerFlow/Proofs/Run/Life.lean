import TriggerFlow.Proofs.Run.Calm

/-!
# The life of a run

A run of a graph without defects is started, resumed and asked to stop, always by way of its stored record,
while other runs are driven and time passes in between. Whatever is stored of it stays on its course, and every
node that it enters lies below those that it has entered before.
-/

namespace TriggerFlow.Run

variable {σ : Type} {s : Surroundings σ} {k : Ledger s} {g : Graph} {limits : Limits} {id : String}
  {d d' : Desk σ} {seen : List (Held σ)} {e : Execution} {rank : String → Nat}

/-- What a start carries out once the run has been claimed. -/
def startRun (s : Surroundings σ) (limits : Limits) : Act (Held σ) (Option Execution) :=
  unlessMoved s .pending (startBody s limits)

/-- What a resumption carries out once the run has been claimed. -/
def resumeRun (s : Surroundings σ) (limits : Limits) (time : Option Instant) (context : Members) :
    Act (Held σ) (Option Execution) :=
  unlessMoved s .waiting do
    let now ← now s
    resumeBody s limits (time.getD now) context

/-- The states in which a start of a record visits nodes. -/
def startVisits (s : Surroundings σ) (limits : Limits) (d : Desk σ) (e : Execution) : List (Held σ) :=
  if d.active.contains e.id then [] else visitsOf s limits .pending (begin s) (claimed d e)

/-- The states in which a resumption of a record visits nodes. -/
def resumeVisits (s : Surroundings σ) (limits : Limits) (time : Option Instant) (context : Members)
    (d : Desk σ) (e : Execution) : List (Held σ) :=
  if e.status ≠ .waiting ∨ d.active.contains e.id then []
  else visitsOf s limits .waiting (wakeAt s time context) (claimed d e)

/-- The life of a run so far, with the states in which it has visited nodes. -/
inductive Life (k : Ledger s) (limits : Limits) (g : Graph) (id : String) : Desk σ → List (Held σ) → Prop where
  | created {d : Desk σ} {e : Execution} (valid : k.valid d.world) (free : id ∉ d.active)
    (stored : k.record d.world id = some e) (graph : e.graph = g) (pending : e.status = .pending)
    (blank : e.log = [] ∧ e.nodeId = none) (unsent : k.calls d.world id = []) : Life k limits g id d []
  /-- Time passes, or another run is driven. -/
  | aside {d d' : Desk σ} {seen : List (Held σ)} {other : String} (life : Life k limits g id d seen)
    (ne : id ≠ other) (around : Around k other d d') : Life k limits g id d' seen
  | started {d : Desk σ} {seen : List (Held σ)} {e : Execution} (life : Life k limits g id d seen)
    (stored : k.record d.world id = some e) :
    Life k limits g id (start s limits e d).2 (seen ++ startVisits s limits d e)
  | resumed {d : Desk σ} {seen : List (Held σ)} {e : Execution} (life : Life k limits g id d seen)
    (stored : k.record d.world id = some e) (time : Option Instant) (context : Members) :
    Life k limits g id (resume s limits e time context d).2
      (seen ++ resumeVisits s limits time context d e)
  | asked {d : Desk σ} {seen : List (Held σ)} (life : Life k limits g id d seen) :
    Life k limits g id (requestCancel s id d).2 seen

/-- The stored record of a run that has visited some nodes so far. -/
structure Upright (g : Graph) (rank : String → Nat) (calls : List Sending) (seen : List (Held σ))
    (e : Execution) : Prop where
  graph : e.graph = g
  course : Course g e calls
  rests : e.status ≠ .running
  fresh : e.status = .pending → seen = []
  below : e.status = .waiting → ∀ n, e.nodeId = some n → ∀ other ∈ entered seen, rank n ≤ rank other

/-- What holds at every point in the life of a run. -/
structure Sane (k : Ledger s) (g : Graph) (rank : String → Nat) (id : String) (d : Desk σ)
    (seen : List (Held σ)) : Prop where
  valid : k.valid d.world
  free : id ∉ d.active
  down : (entered seen).Pairwise fun a b => rank b < rank a
  record : ∀ e, k.record d.world id = some e → Upright g rank (k.calls d.world id) seen e

namespace Sane

/-- Nothing that the view shows has changed. -/
theorem of_same (sane : Sane k g rank id d seen) (active : d'.active = d.active)
    (same : k.Same d.world d'.world) : Sane k g rank id d' seen where
  valid := same.valid
  free := active ▸ sane.free
  down := sane.down
  record e present := by
    rw [same.record] at present
    have calls : k.calls d'.world id = k.calls d.world id := by simp [Books.calls, same.sent]
    exact calls ▸ sane.record e present

/-- The record may have been cancelled or lost while something else was done. -/
theorem of_meanwhile (sane : Sane k g rank id d seen) (valid : k.valid d'.world) (active : d'.active = d.active)
    (meanwhile : Meanwhile (k.record d.world id) (k.record d'.world id))
    (calls : k.calls d'.world id = k.calls d.world id) : Sane k g rank id d' seen where
  valid := valid
  free := active ▸ sane.free
  down := sane.down
  record e present := by
    rw [calls]
    generalize was : k.record d.world id = r at meanwhile
    generalize k.record d'.world id = r' at meanwhile present
    cases meanwhile with
    | same => exact sane.record e (was.trans present)
    | cancelled e₀ ended noted waits =>
      cases present
      have upright := sane.record e₀ was
      have lives : e₀.isTerminal = false := lives_of_status waits rfl
      exact ⟨upright.graph, upright.course.cancelledAt lives ended noted, nofun, nofun, nofun⟩
    | lost => cases present

/-- The record has been driven, and the drive has visited some more nodes. -/
theorem of_drive {states : List (Held σ)} {driven : Driven} (sane : Sane k g rank id d seen)
    (stored : k.record d.world id = some e) (idle : e.status = .pending ∨ e.status = .waiting)
    (ended : Ended k g e d driven d') (enters : Enters g rank e states)
    (waits : WaitsBelow g rank e states driven.copy) : Sane k g rank id d' (seen ++ states) := by
  obtain rfl := k.id_of_record sane.valid stored
  have upright := sane.record e stored
  have above : ∀ other ∈ entered seen, reach g rank e ≤ rank other := by
    intro other mem
    rcases idle with pending | waiting
    · rw [upright.fresh pending] at mem
      cases mem
    · obtain ⟨n, -, here⟩ := upright.course.waiting waiting
      rw [reach, here]
      exact upright.below waiting n here other mem
  have all : entered (seen ++ states) = entered seen ++ entered states := List.filterMap_append
  refine ⟨ended.drove.around.valid, ended.drove.around.active ▸ sane.free, ?_, ?_⟩
  · rw [all, List.pairwise_append]
    exact ⟨sane.down, enters.down, fun a mem b mem' => (enters.below b mem').trans_le (above a mem)⟩
  · intro e' present
    obtain rfl : driven.copy = e' := by
      rcases ended.left with lost | left
      · cases lost.symm.trans present
      · exact Option.some.inj (left.symm.trans present)
    refine ⟨?_, ended.course (by simp [present]), ended.rests, ?_, ?_⟩
    · exact (ended.drove.own _ present).graph.trans upright.graph
    · intro pending
      rcases ended.grown with ⟨same, waiting⟩ | longer
      · rw [same, waiting] at pending
        cases pending
      · obtain ⟨trail, -⟩ := (ended.course (by simp [present])).pending pending
        rw [trail.eq_nil_of_unbegun.1] at longer
        cases longer
    · intro waiting n here other mem
      obtain ⟨low, lower⟩ := waits waiting n here
      rw [all] at mem
      rcases List.mem_append.mp mem with mem | mem
      · exact low.trans (above other mem)
      · exact lower other mem

/-- The record in hand is live when it has been claimed. -/
theorem live (sane : Sane k g rank id d seen) (stored : k.record d.world id = some e) :
    Live k g (claimed d e) := by
  obtain rfl := k.id_of_record sane.valid stored
  have upright := sane.record e stored
  exact claimed_live sane.valid stored upright.graph upright.course

end Sane

/-- What a whole drive of the stored record comes to, and the nodes that it enters. -/
theorem drive_step (limits : Limits) (sound : g.Valid) (ranking : g.Ranking rank) {expected : Status}
    {opening : Act (Held σ) Bool} (live : Live k g (claimed d e)) (status : e.status = expected)
    (idle : expected = .pending ∨ expected = .waiting) (keeps : Keeps k opening)
    (begins : Begins k g expected opening) :
    Enters g rank e (visitsOf s limits expected opening (claimed d e)) ∧
      (drive s e (unlessMoved s expected (thenLoop s limits opening))).Ensures
        { d with active := e.id :: d.active }
        (fun driven _ =>
          WaitsBelow g rank e (visitsOf s limits expected opening (claimed d e)) driven.copy)
        fun _ _ => True := by
  obtain ⟨enters, waits⟩ := drive_enters limits sound ranking live status idle keeps begins
  exact ⟨enters, ensures_drive.mpr waits⟩

/-- A drive of a copy enters nothing if the stored record is not in the state expected. -/
theorem visitsOf_eq_nil {expected : Status} {opening : Act (Held σ) Bool} {r : Execution} (valid : k.valid d.world)
    (stored : k.record d.world e.id = some r) (moved : r.status ≠ expected) :
    visitsOf s limits expected opening (claimed d e) = [] := by
  have found := movedOn_spec (k := k) (s := s) (h := claimed d e) expected valid
  rcases run : movedOn s expected (claimed d e) with ⟨_ | answer, h⟩
  · exact (found.of_error run).elim
  · have answered := (found.of_ok run).1
    rw [show k.record (claimed d e).desk.world (claimed d e).record.id = some r from stored,
      Option.filter_some, if_pos (by simpa using moved)] at answered
    exact visitsOf_of_moved (answered ▸ run)

theorem started_sane (limits : Limits) (sound : g.Valid) (ranking : g.Ranking rank)
    (sane : Sane k g rank id d seen) (stored : k.record d.world id = some e) :
    Sane k g rank id (start s limits e d).2 (seen ++ startVisits s limits d e) := by
  obtain rfl := k.id_of_record sane.valid stored
  have upright := sane.record e stored
  rw [startVisits, if_neg (by simpa using sane.free)]
  by_cases pending : e.status = .pending
  · have whole := start_live sound limits sane.valid sane.free stored upright.graph upright.course pending
    obtain ⟨enters, waits⟩ := drive_step limits sound ranking (sane.live stored) pending (.inl rfl)
      keeps_begin (begins_begin sound)
    have waits' : (start s limits e).Ensures d (fun driven _ =>
        WaitsBelow g rank e (visitsOf s limits .pending (begin s) (claimed d e)) driven.copy)
        fun _ _ => True := by
      refine Act.ensures_bind.mpr (ensures_claim.mpr ?_)
      rw [if_neg (by simpa using sane.free), startBody_eq]
      exact waits
    refine Act.Ensures.state (P := fun d' => Sane k g rank e.id d' _)
      ((whole.and waits').mono ?_ fun _ _ none => none.1.elim)
    exact fun driven d' both => sane.of_drive stored (.inl pending) both.1 enters both.2
  · rw [visitsOf_eq_nil sane.valid stored pending, List.append_nil]
    refine Act.Ensures.state (P := fun d' => Sane k g rank e.id d' seen)
      ((start_moved limits sane.valid stored pending).mono ?_ ?_)
    · exact fun _ d' passed => sane.of_same passed.2.active passed.2.same
    · exact fun _ d' unchanged => unchanged ▸ sane

theorem resumed_sane (limits : Limits) (sound : g.Valid) (ranking : g.Ranking rank)
    (sane : Sane k g rank id d seen) (stored : k.record d.world id = some e) (time : Option Instant)
    (context : Members) : Sane k g rank id (resume s limits e time context d).2
      (seen ++ resumeVisits s limits time context d e) := by
  obtain rfl := k.id_of_record sane.valid stored
  have upright := sane.record e stored
  have free : ¬ d.active.contains e.id = true := by simpa using sane.free
  by_cases waiting : e.status = .waiting
  · rw [resumeVisits, if_neg (by simp [waiting, sane.free])]
    have whole := resume_live sound limits time context sane.valid sane.free stored upright.graph
      upright.course waiting
    obtain ⟨enters, waits⟩ := drive_step limits sound ranking (sane.live stored) waiting (.inr rfl)
      (keeps_wakeAt time context) (begins_wakeAt sound time context)
    have waits' : (resume s limits e time context).Ensures d (fun driven _ =>
        WaitsBelow g rank e (visitsOf s limits .waiting (wakeAt s time context) (claimed d e)) driven.copy)
        fun _ _ => True := by
      rw [resume, if_neg (by simp [waiting])]
      refine Act.ensures_bind.mpr (ensures_claim.mpr ?_)
      rw [if_neg free, resumeBody_now_eq]
      exact waits
    refine Act.Ensures.state (P := fun d' => Sane k g rank e.id d' _)
      ((whole.and waits').mono ?_ fun _ _ none => none.1.elim)
    exact fun driven d' both => sane.of_drive stored (.inr waiting) both.1 enters both.2
  · rw [resumeVisits, if_pos (.inl waiting), List.append_nil]
    refine Act.Ensures.state (P := fun d' => Sane k g rank e.id d' seen)
      ((resume_moved limits time context sane.valid stored waiting).mono ?_ fun _ _ none => none.elim)
    exact fun _ d' passed => sane.of_same passed.2.active passed.2.same

theorem Life.sane (sound : g.Valid) (ranking : g.Ranking rank) (life : Life k limits g id d seen) :
    Sane k g rank id d seen := by
  induction life with
  | @created d e valid free stored graph pending blank unsent =>
    refine ⟨valid, free, List.Pairwise.nil, ?_⟩
    intro e' present
    cases stored.symm.trans present
    refine ⟨graph, ?_, by simp [pending], fun _ => rfl, fun waits => nomatch waits.symm.trans pending⟩
    have trail : Trail g e.log (k.calls d.world id) .unbegun := by
      rw [blank.1, unsent]
      exact .unbegun
    exact .going trail pending blank.2
  | aside life ne around ih =>
    exact ih.of_meanwhile around.valid around.active (around.others _ ne) (around.calls_of_ne ne)
  | started life stored ih => exact started_sane limits sound ranking ih stored
  | resumed life stored time context ih => exact resumed_sane limits sound ranking ih stored time context
  | @asked d seen life ih =>
    have sane (d' : Desk σ) (asked : Requested k id d d') : Sane k g rank id d' seen :=
      ih.of_meanwhile asked.valid asked.active asked.meanwhile (by simp [Books.calls, asked.sent])
    exact Act.Ensures.state (P := fun d' => Sane k g rank id d' seen)
      ((requestCancel_spec ih.valid id).mono (fun _ => sane) fun _ => sane)

end TriggerFlow.Run
