import TriggerFlow.Proofs.Automation.Legible
import TriggerFlow.Proofs.Run.Ripe
import TriggerFlow.Proofs.Run.Sound

/-!
# What a tick comes to

A tick launches the workflows whose triggers fire, and then takes in errands for the waiting runs that are due and have
none. No trigger keeps another one from firing, and no wait another one from being found to be over, be it that it
cannot be evaluated. The only thing that breaks a tick off is the order of two points in time of which only one tells
its offset. As long as no record is lost and the clock tells its offset, it takes a tick at a time without one for that.
-/

namespace TriggerFlow

namespace Store

variable {s : Store}

/-- The waiting runs can be put in the order of their launches: all of these tell their offsets, or none does. -/
def Orderable (s : Store) : Prop := ∀ id id' e e', s.runs.get? id = some e → s.runs.get? id' = some e' →
  e.status = .waiting → e'.status = .waiting → e.startedAt.isAware = e'.startedAt.isAware

/-- A list of runs in the order of their launches holds them all. -/
theorem newestFirst_of_alike {l : List Execution}
    (alike : ∀ e ∈ l, ∀ e' ∈ l, e.startedAt.isAware = e'.startedAt.isAware) :
    ∃ found, newestFirst l = .ok found ∧ found.Perm l := by
  have kind : (l.all (fun e => e.startedAt.isAware) || l.all fun e => !e.startedAt.isAware) = true := by
    cases l with
    | nil => rfl
    | cons e rest =>
      rw [Bool.or_eq_true, List.all_eq_true, List.all_eq_true]
      cases aware : e.startedAt.isAware with
      | true => exact .inl fun e' mem => aware ▸ alike e' mem e List.mem_cons_self
      | false => exact .inr fun e' mem => by rw [alike e' mem e List.mem_cons_self, aware]; rfl
  exact ⟨_, if_pos kind, List.mergeSort_perm _ _⟩

theorem newestFirst_of_mixed {l : List Execution} {e e' : Execution} (mem : e ∈ l) (mem' : e' ∈ l)
    (mixed : e.startedAt.isAware ≠ e'.startedAt.isAware) : newestFirst l = .error .mixedOrder := by
  refine if_neg ?_
  rw [Bool.or_eq_true, List.all_eq_true, List.all_eq_true]
  rintro (all | all)
  · exact mixed ((all e mem).trans (all e' mem').symm)
  · exact mixed (Bool.not_inj_iff.mp ((all e mem).trans (all e' mem').symm))

theorem executions_eq (kept : s.InMemory) (selection : Selection) :
    executions selection s = Act.lift .time (newestFirst (s.runs.values.filter selection.holds)) s := by
  obtain ⟨m, kind⟩ := kept.kind
  obtain ⟨now, drawn, folder, keeping⟩ := s
  cases kind
  rfl

theorem mem_waiting (kept : s.InMemory) {e : Execution} :
    e ∈ s.runs.values.filter (Selection.holds ⟨none, some .waiting⟩) ↔
      s.runs.get? e.id = some e ∧ e.status = .waiting := by
  have holds : Selection.holds ⟨none, some .waiting⟩ e = true ↔ e.status = .waiting := by simp [Selection.holds]
  rw [List.mem_filter, holds]
  refine and_congr_left fun _ => ⟨kept.runs.get?_label, fun stored => ?_⟩
  exact List.mem_map.mpr ⟨_, Ordered.mem_of_get? stored, rfl⟩

/-- The waiting runs are listed if they can be put in order. -/
theorem waiting_listed (kept : s.InMemory) (orderable : s.Orderable) : ∃ waiting,
    executions ⟨none, some .waiting⟩ s = (.ok waiting, s) ∧ (waiting.map Execution.id).Nodup ∧
      ∀ e, e ∈ waiting ↔ s.runs.get? e.id = some e ∧ e.status = .waiting := by
  obtain ⟨found, sorted, perm⟩ := newestFirst_of_alike fun e mem e' mem' => by
    obtain ⟨stored, waits⟩ := (mem_waiting kept).mp mem
    obtain ⟨stored', waits'⟩ := (mem_waiting kept).mp mem'
    exact orderable _ _ e e' stored stored' waits waits'
  refine ⟨found, by rw [executions_eq kept, sorted]; rfl, ?_, fun e => perm.mem_iff.trans (mem_waiting kept)⟩
  exact (perm.map Execution.id).nodup_iff.mpr ((List.filter_sublist.map Execution.id).nodup kept.runs.values_nodup)

/-- There is no list of them otherwise. -/
theorem waiting_unlisted (kept : s.InMemory) (mixed : ¬ s.Orderable) :
    executions ⟨none, some .waiting⟩ s = (.error (.time .mixedOrder), s) := by
  simp only [Orderable, not_forall] at mixed
  obtain ⟨id, id', e, e', stored, stored', waits, waits', mixed⟩ := mixed
  obtain rfl := kept.runs.label_eq stored
  obtain rfl := kept.runs.label_eq stored'
  have sorted := newestFirst_of_mixed ((mem_waiting kept).mpr ⟨stored, waits⟩)
    ((mem_waiting kept).mpr ⟨stored', waits'⟩) mixed
  rw [executions_eq kept, sorted]
  rfl

/-- Whether records are kept in memory, and which, is a matter of how they are kept. -/
theorem SameRecords.inMemory {s' : Store} (same : s.SameRecords s') (kept : s.InMemory) : s'.InMemory := by
  obtain ⟨now, drawn, folder, keeping⟩ := s
  obtain ⟨now', drawn', folder', keeping'⟩ := s'
  obtain ⟨rfl, rfl⟩ := same
  exact ⟨kept.kind, kept.runs, kept.definitions⟩

end Store

namespace Launcher

/-- The workflows whose triggers fire at a tick, in order, with the kinds of their triggers. Each of them fires by its
own trigger, its own variables and what is remembered of it. -/
def firing (s : Store) (ws : List Workflow) (now : Instant) (context : Members) : List (Workflow × TriggerKind) :=
  ((listeners ws).filter fun p => (seen now.startOfMinute context s.remembers p).fires).map fun p => (p.1, p.2.kind)

/-- A tick over records in memory asks for the launches of the workflows whose triggers fire. -/
theorem due_firing {s : Store} {ws : List Workflow} (lists : Lists s ws) (kept : s.InMemory) (now : Instant)
    (context : Members) : (due now context).Ensures s (fun requests _ => requests = firing s ws now context)
      fun _ _ => False := by
  refine due_of_saves lists now context fun s₁ _ after same _ => ?_
  dsimp only
  split
  · exact (Store.saveTriggers_spec (same.inMemory kept) _).mono (fun _ _ _ => rfl) fun _ _ none => none
  · exact rfl

end Launcher

namespace Automation

open Run (Meanwhile SameRun isDue isDue_eq_true_iff isDue_eq_error_iff)

variable {δ : Type} {setup : Setup δ} {a b : Automation δ} {past : List (Automation δ)} {timed : Prop} {time : Instant}
  {context : Members} {found due rest : List Execution} {e : Execution}

/-- The system after an errand to resume a run has been taken in. -/
def resuming (setup : Setup δ) (time : Instant) (context : Members) (a : Automation δ) (e : Execution) :
    Automation δ := (submit setup (.resume e (some time) context) a).2

/-- Of the copies of some waiting runs those are told apart, in their order, that are due and have no errand. Whether
they are due can be told of all that have none. -/
structure Tells (a : Automation δ) (time : Instant) (context : Members) (found due : List Execution) : Prop where
  order : due.Sublist found
  told : ∀ e ∈ found, inFlight e.id a = false → ¬ e.Mixed time
  mem : ∀ e ∈ found, e ∈ due ↔ inFlight e.id a = false ∧ e.Due time context

namespace Tells

theorem nil : Tells a time context [] [] := ⟨.slnil, by simp, by simp⟩

/-- A copy that is passed over. -/
theorem skip (tells : Tells a time context rest due) (once : e.id ∉ rest.map Execution.id)
    (told : inFlight e.id a = false → ¬ e.Mixed time) (stays : ¬ (inFlight e.id a = false ∧ e.Due time context)) :
    Tells a time context (e :: rest) due where
  order := tells.order.cons e
  told := List.forall_mem_cons.mpr ⟨told, tells.told⟩
  mem := by
    refine List.forall_mem_cons.mpr ⟨iff_of_false (fun mem => once ?_) stays, tells.mem⟩
    exact List.mem_map_of_mem (tells.order.subset mem)

/-- A copy that is taken in. -/
theorem take (tells : Tells b time context rest due) (once : e.id ∉ rest.map Execution.id)
    (flights : ∀ e' ∈ rest, inFlight e'.id b = inFlight e'.id a) (told : ¬ e.Mixed time)
    (goes : inFlight e.id a = false ∧ e.Due time context) : Tells a time context (e :: rest) (e :: due) where
  order := tells.order.cons_cons e
  told := List.forall_mem_cons.mpr ⟨fun _ => told, fun e' mem idle => tells.told e' mem (flights e' mem ▸ idle)⟩
  mem := by
    refine List.forall_mem_cons.mpr ⟨iff_of_true List.mem_cons_self goes, fun e' mem => ?_⟩
    have other : e' ≠ e := fun same => once (same ▸ List.mem_map_of_mem mem)
    rw [List.mem_cons, or_iff_right other, tells.mem e' mem, flights e' mem]

end Tells

/-- What it comes to if the waiting runs are asked one after the other. -/
inductive Resumes (setup : Setup δ) (a : Automation δ) (time : Instant) (context : Members) (found : List Execution) :
    Except Failure (List String) × Automation δ → Prop where
  | whole {due : List Execution} (tells : Tells a time context found due) :
    Resumes setup a time context found (.ok (due.map Execution.id), due.foldl (resuming setup time context) a)
  /-- One of them cannot be told to be due; those before it are resumed all the same. -/
  | stuck {front due rest : List Execution} {e : Execution} (split : found = front ++ e :: rest)
    (idle : inFlight e.id a = false) (mixed : e.Mixed time) (tells : Tells a time context front due) :
    Resumes setup a time context found (.error (.time .mixedOrder), due.foldl (resuming setup time context) a)

namespace Resumes

/-- A copy is passed over. -/
theorem skip {ended : Except Failure (List String) × Automation δ} (others : Resumes setup a time context rest ended)
    (once : e.id ∉ rest.map Execution.id) (told : inFlight e.id a = false → ¬ e.Mixed time)
    (stays : ¬ (inFlight e.id a = false ∧ e.Due time context)) : Resumes setup a time context (e :: rest) ended := by
  cases others with
  | whole tells => exact .whole (tells.skip once told stays)
  | @stuck front due after e' split idle mixed tells =>
    subst split
    rw [List.map_append, List.mem_append, not_or] at once
    exact .stuck (List.cons_append ..).symm idle mixed (tells.skip once.1 told stays)

/-- A copy is taken in before the others are asked. -/
theorem take {ended : Except Failure (List String) × Automation δ}
    (others : Resumes setup (resuming setup time context a e) time context rest ended)
    (once : e.id ∉ rest.map Execution.id)
    (flights : ∀ e' ∈ rest, inFlight e'.id (resuming setup time context a e) = inFlight e'.id a)
    (told : ¬ e.Mixed time) (goes : inFlight e.id a = false ∧ e.Due time context) :
    Resumes setup a time context (e :: rest) (ended.1.map (e.id :: ·), ended.2) := by
  cases others with
  | whole tells => exact .whole (tells.take once flights told goes)
  | @stuck front due after e' split idle mixed tells =>
    subst split
    rw [List.map_append, List.mem_append, not_or] at once
    have taken := tells.take once.1 (fun e mem => flights e (List.mem_append_left _ mem)) told goes
    have free : inFlight e'.id a = false := by
      rw [← flights e' (List.mem_append_right _ List.mem_cons_self), idle]
    exact .stuck (List.cons_append ..).symm free mixed taken

end Resumes

/-- An errand that is taken in matters to no run but its own. -/
theorem inFlight_submit (steady : Steady setup a) (errand : Errand) {id : String} (other : id ≠ errand.runId)
    (settled : Steady setup (submit setup errand a).2) : inFlight id (submit setup errand a).2 = inFlight id a := by
  cases eager : setup.eager with
  | true => rw [inFlight, inFlight, steady.prompt eager, settled.prompt eager]
  | false =>
    unfold submit
    rw [eager, Act.bind_apply]
    dsimp only [Act.ask]
    split
    · rfl
    · simp [Act.modify, inFlight, other.symm]

section Asking

variable (setup) (rest)

theorem resumeEach_of_busy (busy : inFlight e.id a = true) :
    resumeEach setup time context (e :: rest) a = resumeEach setup time context rest a := by
  refine (Act.bind_run_ok rfl _).trans ?_
  rw [busy]
  exact congrFun (bind_pure (resumeEach setup time context rest)) a

variable (idle : inFlight e.id a = false)
include idle

theorem resumeEach_of_early (early : isDue e time context = .ok false) :
    resumeEach setup time context (e :: rest) a = resumeEach setup time context rest a := by
  refine (Act.bind_run_ok rfl _).trans ?_
  rw [idle, early]
  exact congrFun (bind_pure (resumeEach setup time context rest)) a

theorem resumeEach_of_unknown {failure : Failure} (unknown : isDue e time context = .error failure) :
    resumeEach setup time context (e :: rest) a = (.error failure, a) := by
  refine (Act.bind_run_ok rfl _).trans ?_
  rw [idle, unknown]
  rfl

theorem resumeEach_of_due (due : isDue e time context = .ok true)
    (submitted : (submit setup (.resume e (some time) context) a).1 = .ok ()) :
    resumeEach setup time context (e :: rest) a =
      ((resumeEach setup time context rest (resuming setup time context a e)).1.map (e.id :: ·),
        (resumeEach setup time context rest (resuming setup time context a e)).2) := by
  refine (Act.bind_run_ok rfl _).trans ?_
  rw [idle, due]
  have run : submit setup (.resume e (some time) context) a = (.ok (), resuming setup time context a e) :=
    Prod.ext submitted rfl
  refine (Act.bind_run_ok run _).trans ?_
  rcases others : resumeEach setup time context rest (resuming setup time context a e) with ⟨_ | _, c⟩
  · exact Act.bind_run_error others _
  · exact Act.bind_run_ok others _

end Asking

theorem resumeEach_resumes (spares : ∀ id, (surroundings setup).Spares id) (time : Instant) (context : Members) :
    ∀ {found : List Execution} {a : Automation δ}, Steady setup a → (found.map Execution.id).Nodup →
      (∀ e ∈ found, e.status = .waiting ∧ e.Readable timed ∧ a.store.Drawn e.id ∧
        Meanwhile (some e) (a.store.runs.get? e.id) ∧ a.store.runs.get? e.id ≠ none) →
        Resumes setup a time context found (resumeEach setup time context found a)
  | [], a, _, _, _ => .whole .nil
  | e :: rest, a, steady, nodup, copies => by
    obtain ⟨once, nodup⟩ := List.nodup_cons.mp nodup
    obtain ⟨waits, readable, drawn, meanwhile, present⟩ := copies e List.mem_cons_self
    have later := fun e' mem => copies e' (List.mem_cons_of_mem e mem)
    cases idle : inFlight e.id a with
    | true =>
      rw [resumeEach_of_busy setup rest idle]
      have busy : ¬ inFlight e.id a = false := by simp [idle]
      exact (resumeEach_resumes spares time context steady nodup later).skip once (fun free => absurd free busy)
        fun goes => busy goes.1
    | false =>
      cases asked : isDue e time context with
      | error failure =>
        obtain ⟨rfl, mixed⟩ := (isDue_eq_error_iff waits readable).mp asked
        rw [resumeEach_of_unknown setup rest idle asked]
        exact .stuck (List.nil_append _).symm idle mixed .nil
      | ok due =>
        have told : ¬ e.Mixed time := fun mixed => by
          cases ((isDue_eq_error_iff waits readable).mpr ⟨rfl, mixed⟩).symm.trans asked
        cases due with
        | false =>
          rw [resumeEach_of_early setup rest idle asked]
          refine (resumeEach_resumes spares time context steady nodup later).skip once (fun _ => told) fun goes => ?_
          cases ((isDue_eq_true_iff waits readable).mpr goes.2).symm.trans asked
        | true =>
          have goes := (isDue_eq_true_iff waits readable).mp asked
          have submitted := submit_walks (.plain fun _ => True) steady (.resume e (some time) context) trivial drawn
            meanwhile fun _ => present
          rcases run : submit setup (.resume e (some time) context) a with ⟨_ | _, b⟩
          · exact (submitted.of_error run).elim
          obtain ⟨reaches, aside⟩ := submitted.of_ok run
          obtain rfl : resuming setup time context a e = b := congrArg Prod.snd run
          have steady' := reaches.steady steady
          have apart {e' : Execution} (mem : e' ∈ rest) : e'.id ≠ e.id := fun same =>
            once (same ▸ List.mem_map_of_mem mem)
          have others := resumeEach_resumes spares time context steady' nodup fun e' mem => by
            obtain ⟨waits, readable, drawn, meanwhile, present⟩ := later e' mem
            have other : e'.id ∉ [e.id] := fun same => apart mem (List.mem_singleton.mp same)
            exact ⟨waits, readable, drawn.mono (reaches.moves.drawn_le steady.orderly), meanwhile.trans (aside _ other),
              reaches.moves.kept steady.orderly (spares _) present⟩
          rw [resumeEach_of_due setup rest idle asked (congrArg Prod.fst run)]
          exact others.take once (fun e' mem => inFlight_submit steady _ (apart mem) steady') told ⟨idle, goes⟩

/-- The waiting runs can be put in order, and of those that have no errand it can be told at a point in time whether
they are due. -/
structure Comparable (a : Automation δ) (time : Instant) : Prop where
  orderable : a.store.Orderable
  told : ∀ id e, a.store.runs.get? id = some e → e.status = .waiting → inFlight id a = false → ¬ e.Mixed time

/-- A waiting run that is due and has no errand. -/
def Wakes (a : Automation δ) (time : Instant) (context : Members) (e : Execution) : Prop :=
  a.store.runs.get? e.id = some e ∧ e.status = .waiting ∧ inFlight e.id a = false ∧ e.Due time context

/-- A look at the store. -/
theorem inStore_looks {α : Type} {x : Act Store α} {r : Except Failure α} (looks : x a.store = (r, a.store)) :
    (inStore x : Act (Automation δ) α) a = (r, a) := by
  change ((x a.store).1, a.withStore (x a.store).2) = _
  rw [looks]
  rfl

section Resuming

variable (spares : ∀ id, (surroundings setup).Spares id) (steady : Steady setup a) (sane : Sane timed a)
  (time : Instant) (context : Members)
include spares steady sane

theorem resumeDue_resumes {waiting : List Execution} (nodup : (waiting.map Execution.id).Nodup)
    (listed : Store.executions ⟨none, some .waiting⟩ a.store = (.ok waiting, a.store))
    (stored : ∀ e ∈ waiting, a.store.runs.get? e.id = some e ∧ e.status = .waiting) :
    Resumes setup a time context waiting (resumeDue setup time context a) := by
  rw [show resumeDue setup time context a = resumeEach setup time context waiting a from
    Act.bind_run_ok (inStore_looks listed) _]
  have copies : ∀ e ∈ waiting, e.status = .waiting ∧ e.Readable timed ∧ a.store.Drawn e.id ∧
      Meanwhile (some e) (a.store.runs.get? e.id) ∧ a.store.runs.get? e.id ≠ none := by
    intro e mem
    obtain ⟨here, waits⟩ := stored e mem
    have present : a.store.runs.get? e.id ≠ none := by simp [here]
    exact ⟨waits, (sane.runs _ e here).1, steady.orderly.runs e.id present, here ▸ .same _, present⟩
  exact resumeEach_resumes spares time context steady nodup copies

/-- If that can be told, errands are taken in for the runs that are due and have none. -/
theorem resumeDue_of_comparable (comparable : Comparable a time) : ∃ due : List Execution,
    (due.map Execution.id).Nodup ∧ (∀ e, e ∈ due ↔ Wakes a time context e) ∧
      resumeDue setup time context a = (.ok (due.map Execution.id), due.foldl (resuming setup time context) a) := by
  obtain ⟨waiting, listed, nodup, stored⟩ := Store.waiting_listed steady.orderly.kept comparable.orderable
  have resumes := resumeDue_resumes spares steady sane time context nodup listed fun e mem => (stored e).mp mem
  generalize resumeDue setup time context a = ended at resumes
  cases resumes with
  | @whole due tells =>
    refine ⟨due, nodup.sublist (tells.order.map _), fun e => ?_, rfl⟩
    constructor
    · intro mem
      have listed := tells.order.subset mem
      obtain ⟨here, waits⟩ := (stored e).mp listed
      obtain ⟨idle, goes⟩ := (tells.mem e listed).mp mem
      exact ⟨here, waits, idle, goes⟩
    · rintro ⟨here, waits, idle, goes⟩
      exact (tells.mem e ((stored e).mpr ⟨here, waits⟩)).mpr ⟨idle, goes⟩
  | @stuck front due rest e split idle mixed tells =>
    obtain ⟨here, waits⟩ := (stored e).mp (split ▸ List.mem_append_right _ List.mem_cons_self)
    exact absurd mixed (comparable.told _ e here waits idle)

/-- If not, errands are taken in for some runs that are due, and then it is broken off. -/
theorem resumeDue_of_not_comparable (mixed : ¬ Comparable a time) : ∃ due : List Execution,
    (due.map Execution.id).Nodup ∧ (∀ e ∈ due, Wakes a time context e) ∧
      resumeDue setup time context a =
        (.error (.time .mixedOrder), due.foldl (resuming setup time context) a) := by
  by_cases orderable : a.store.Orderable
  · obtain ⟨waiting, listed, nodup, stored⟩ := Store.waiting_listed steady.orderly.kept orderable
    have resumes := resumeDue_resumes spares steady sane time context nodup listed fun e mem => (stored e).mp mem
    generalize resumeDue setup time context a = ended at resumes
    cases resumes with
    | whole tells =>
      refine absurd ⟨orderable, fun id e here waits idle => ?_⟩ mixed
      obtain rfl := steady.orderly.kept.runs.label_eq here
      exact tells.told e ((stored e).mpr ⟨here, waits⟩) idle
    | @stuck front due rest e split idle mixed tells =>
      have part : front.Sublist waiting := split ▸ List.sublist_append_left _ _
      refine ⟨due, nodup.sublist ((tells.order.trans part).map _), fun e mem => ?_, rfl⟩
      have listed := tells.order.subset mem
      obtain ⟨here, waits⟩ := (stored e).mp (part.subset listed)
      obtain ⟨idle, goes⟩ := (tells.mem e listed).mp mem
      exact ⟨here, waits, idle, goes⟩
  · have unlisted := Store.waiting_unlisted steady.orderly.kept orderable
    exact ⟨[], List.nodup_nil, by simp, Act.bind_run_error (inStore_looks unlisted) _⟩

end Resuming

section Launching

variable {askings : List Asking} {es : List Execution}

/-- What is remembered of triggers does not matter to launches. -/
theorem Starts.of_reruns {s : Store} (reruns : a.store.Reruns a.store.runs s)
    (starts : Starts setup askings (a.withStore s) es b) : Starts setup askings a es b := by
  have same : (a.withStore s).store.runs = a.store.runs := reruns.runs
  refine ⟨starts.launched, fun e mem old => starts.new e mem (old.mono reruns.drawn), starts.distinct, starts.stored,
    fun id other => same ▸ starts.others id other, fun id spared present => starts.kept id spared (same ▸ present),
    fun lazy => same ▸ starts.queued lazy⟩

/-- At every point of a session, a tick launches one new run of each workflow whose trigger fires, and no others. -/
theorem Session.launches_firing (session : Session setup past a) (now : Instant) (context : Members) :
    ∃ started b, (launcher setup).tick now context a = (.ok started, b) ∧ Steady setup b ∧
      Starts setup ((Launcher.firing a.store a.store.definitions.values now context).map Launcher.plainly) a started
        b := by
  have kept := session.steady.orderly.kept
  have looked := (Launcher.due_firing session.lists kept now context).and (due_spec kept now context)
  rcases run : Launcher.due now context a.store with ⟨_ | firing, s⟩
  · exact (looked.of_error run).1.elim
  obtain ⟨rfl, reruns, -⟩ := looked.of_ok run
  have goes : Goes setup (.plain fun _ => True) a (a.withStore s) := .of_reruns session.steady reruns
  obtain ⟨started, b, met, starts⟩ := meet_starts
    ((Launcher.firing a.store a.store.definitions.values now context).map Launcher.plainly)
    (goes.steady session.steady)
  have looks : (launcher setup).inStore (Launcher.due now context) a =
      (.ok (Launcher.firing a.store a.store.definitions.values now context), a.withStore s) := by
    change ((Launcher.due now context a.store).1, a.withStore (Launcher.due now context a.store).2) = _
    rw [run]
  have ticked := (Launcher.tick_of_due looks).1
  rw [met] at ticked
  have travels := launcher_tick_travels session.steady (sources_trivial a (.tick none context)) now
  exact ⟨started, b, ticked, (travels.of_ok ticked).steady session.steady, starts.of_reruns reruns⟩

end Launching

/-- No waiting run without an errand names a point in time. -/
def Timeless (a : Automation δ) : Prop := ∀ id e wait, a.store.runs.get? id = some e → e.status = .waiting →
  inFlight id a = false → e.wait = some wait → wait.resumeAt = none ∧ (wait.expression = none ∨ wait.deadline = none)

/-- If the points in time that are stored tell their offsets, it can always be told at a time that does, and at any
other as long as no waiting run without an errand names one, which runs are due. -/
theorem Sane.comparable_iff (sane : Sane timed a) (told : timed) (time : Instant) :
    (time.isAware = true → Comparable a time) ∧ (time.isAware = false → (Comparable a time ↔ Timeless a)) := by
  have orderable : a.store.Orderable := fun id id' e e' stored stored' _ _ =>
    ((sane.runs id e stored).2 told).trans ((sane.runs id' e' stored').2 told).symm
  have readable {id : String} {e : Execution} {wait : Wait} (stored : a.store.runs.get? id = some e)
      (waits : e.status = .waiting) (here : e.wait = some wait) : wait.Readable timed := by
    obtain ⟨wait', here', readable⟩ := (sane.runs id e stored).1 waits
    cases here.symm.trans here'
    exact readable
  constructor
  · intro aware
    refine ⟨orderable, ?_⟩
    rintro id e stored waits - ⟨wait, here, mixed⟩
    exact (readable stored waits here).not_mixed told aware mixed
  · intro naive
    have nameless {wait : Wait} : ¬ (wait.resumeAt ≠ none ∨ wait.expression ≠ none ∧ wait.deadline ≠ none) ↔
        wait.resumeAt = none ∧ (wait.expression = none ∨ wait.deadline = none) := by
      rw [not_or, not_and_or, not_not, not_not, not_not]
    constructor
    · intro comparable id e wait stored waits idle here
      rw [← nameless, ← (readable stored waits here).mixed_iff told naive]
      exact fun mixed => comparable.told id e stored waits idle ⟨wait, here, mixed⟩
    · intro timeless
      refine ⟨orderable, ?_⟩
      rintro id e stored waits idle ⟨wait, here, mixed⟩
      rw [(readable stored waits here).mixed_iff told naive] at mixed
      exact nameless.mpr (timeless id e wait stored waits idle here) mixed

/-- What a tick comes to after it has launched some runs and left the system in another state. -/
structure Comes (setup : Setup δ) (a : Automation δ) (now : Instant) (context : Members) (started : List Execution)
    (b : Automation δ) (ended : Except Failure Ticked × Automation δ) : Prop where
  launches : (launcher setup).tick now context a = (.ok started, b)
  starts : Starts setup ((Launcher.firing a.store a.store.definitions.values now context).map Launcher.plainly) a
    started b
  goes : Comparable b now → ∃ due : List Execution, (due.map Execution.id).Nodup ∧
    (∀ e, e ∈ due ↔ Wakes b now context e) ∧
      ended = (.ok ⟨started, due.map Execution.id⟩, due.foldl (resuming setup now context) b)
  breaks : ¬ Comparable b now → ∃ due : List Execution, (due.map Execution.id).Nodup ∧
    (∀ e ∈ due, Wakes b now context e) ∧
      ended = (.error (.time .mixedOrder), due.foldl (resuming setup now context) b)

end Automation

end TriggerFlow

namespace TriggerFlow.Trial

open Automation
open Run.Pause (ten aboutTen)

theorem pausingRun_told : ∀ c ∈ [pausingRun, offering, opening], c.store.Aware := by
  have last : pausingRun.store.Aware := by
    show pausingRun.store.now.isAware = true
    decide +kernel
  simp only [List.forall_mem_cons, last, true_and]
  exact ⟨rfl, rfl, by simp⟩

end TriggerFlow.Trial
