import TriggerFlow.Proofs.Graph.Exact
import TriggerFlow.Proofs.Number.Range

/-!
# What is reported of settings

The settings of each node are read the way that a run reads them, and where they cannot be read the node is reported
with the reason. The report of a node hides nothing of the other nodes, and nothing of the edges. One thing is not
reported: an integer beyond the range of numbers ends the whole check.
-/

namespace TriggerFlow

/-- The settings of a trigger cannot be used, for the given reason. -/
inductive Trigger.Unusable (t : Trigger) : ConfigFault → Prop
  | unscheduled (kind : t.kind = .schedule) (missing : t.schedule? = none) : Unusable t .scheduleMissing
  | schedule {schedule : String} (kind : t.kind = .schedule) (given : t.schedule? = some schedule)
      (invalid : Schedule.isValid schedule = false) : Unusable t (.scheduleInvalid schedule)
  | unnamed (kind : t.kind = .event) (missing : t.event? = none) : Unusable t .eventMissing
  | filter {event filter : String} {refusal : Expr.Refusal} (kind : t.kind = .event) (named : t.event? = some event)
      (given : t.filter? = some filter) (refused : Expr.compile filter = .error refusal) :
      Unusable t (.expression refusal)
  | unwatched (kind : t.kind = .conditional) (missing : t.expression? = none) : Unusable t .expressionMissing
  | watch {expression : String} {refusal : Expr.Refusal} (kind : t.kind = .conditional)
      (given : t.expression? = some expression) (refused : Expr.compile expression = .error refusal) :
      Unusable t (.expression refusal)

namespace Action

/-- What a wait is for can be used as it stands, or takes shape when it is used. -/
def Awaitable (expression : String) : Prop :=
  Graph.isTemplated (.text expression) = true ∨ ∃ code, Expr.compile expression = .ok code

/-- The settings of an action cannot be used, for the given reason. Of several reasons it is the first. -/
inductive Unusable (a : Action) : ConfigFault → Prop
  | delay {fault : SettingFault} (kind : a.kind = .delay)
      (fixed : Graph.isTemplated (Json.member a.config (delayKey a.config)) = false)
      (refused : delaySeconds a.config = .error fault) : Unusable a (.setting fault)
  | unasked {fault : SettingFault} (kind : a.kind = .waitCondition) (refused : waitExpression a.config = .error fault) :
      Unusable a (.setting fault)
  | expression {expression : String} {refusal : Expr.Refusal} (kind : a.kind = .waitCondition)
      (given : waitExpression a.config = .ok expression) (fixed : Graph.isTemplated (.text expression) = false)
      (refused : Expr.compile expression = .error refusal) : Unusable a (.expression refusal)
  | limit {expression : String} {fault : SettingFault} (kind : a.kind = .waitCondition)
      (given : waitExpression a.config = .ok expression) (awaitable : Awaitable expression)
      (fixed : Graph.isTemplated (Json.member a.config "timeout") = false)
      (refused : waitLimit a.config = .error fault) : Unusable a (.setting fault)

end Action

/-- The settings of a node cannot be used, for the given reason. -/
inductive Node.Unusable (node : Node) : ConfigFault → Prop
  | trigger {t : Trigger} {fault : ConfigFault} (task : node.task = .trigger t) (refused : t.Unusable fault) :
      Unusable node fault
  | condition {expression : String} {refusal : Expr.Refusal} (task : node.task = .condition expression)
      (refused : Expr.compile expression = .error refusal) : Unusable node (.expression refusal)
  | action {a : Action} {fault : ConfigFault} (task : node.task = .action a) (refused : a.Unusable fault) :
      Unusable node fault

/-- An integer that is at least halfway from the greatest finite number to `2 ^ 1024`. -/
def Json.Huge (datum : Json) : Prop := ∃ n : Int, datum = .int n ∧ twoTo 1024 - twoTo 970 ≤ n.natAbs

/-- An integer beyond the range is read when a node is checked. -/
inductive Node.Overflows (node : Node) : Prop
  | delay {a : Action} (task : node.task = .action a) (kind : a.kind = .delay)
      (huge : (Json.member a.config (Action.delayKey a.config)).Huge)
  | limit {a : Action} {expression : String} (task : node.task = .action a) (kind : a.kind = .waitCondition)
      (given : Action.waitExpression a.config = .ok expression) (awaitable : Action.Awaitable expression)
      (huge : (Json.member a.config "timeout").Huge)

namespace Action

variable {config : Members}

theorem numberOf_outOfRange_iff (key : String) (datum : Json) :
    numberOf key datum = .error .outOfRange ↔ datum.Huge := by
  cases datum with
  | int n =>
    have huge : Json.Huge (.int n) ↔ Binary64.ofInt? n = none := by
      rw [Binary64.ofInt?_eq_none_iff]
      simp [Json.Huge]
    rw [huge, numberOf]
    cases Binary64.ofInt? n <;> simp
  | text s =>
    rw [numberOf]
    cases Decimal.readLoose? s <;> simp [Json.Huge]
  | _ => simp [numberOf, Json.Huge]

/-- A number that has been read is never refused for its range. -/
theorem bind_outOfRange_iff {α : Type} (key : String) (datum : Json) {next : Binary64 → Except SettingFault α}
    (judged : ∀ x, next x ≠ .error .outOfRange) :
    (numberOf key datum >>= next) = .error .outOfRange ↔ datum.Huge := by
  rw [← numberOf_outOfRange_iff key]
  cases numberOf key datum with
  | ok x => simpa [bind, Except.bind] using judged x
  | error fault => simp [bind, Except.bind]

/-- Of all that can be wrong with the length of a delay, an integer beyond the range is told apart by its size. -/
theorem delaySeconds_outOfRange_iff :
    delaySeconds config = .error .outOfRange ↔ (Json.member config (delayKey config)).Huge := by
  have judged (x : Binary64) :
      (if x.compare? (.zero false) = some .lt then .error .delayNegative else .ok x : Except SettingFault Binary64) ≠
        .error .outOfRange := by
    split <;> simp
  cases seconds : config.get? "seconds" with
  | some datum =>
    simp only [delaySeconds, delayKey, Ordered.has, Json.member, seconds, Option.isSome_some, if_true,
      Option.getD_some]
    exact bind_outOfRange_iff "seconds" datum judged
  | none =>
    simp only [delaySeconds, delayKey, Ordered.has, Json.member, seconds, Option.isSome_none, Bool.false_eq_true,
      if_false]
    cases delay : config.get? "delay" with
    | some datum =>
      rw [Option.getD_some, ← bind_outOfRange_iff "delay" datum fun x => judged (x.divNat 1000)]
      dsimp only
      cases numberOf "delay" datum <;> rfl
    | none => simp [Json.Huge, bind, Except.bind]

theorem waitLimit_outOfRange_iff : waitLimit config = .error .outOfRange ↔ (Json.member config "timeout").Huge := by
  rw [waitLimit]
  split
  · rename_i none
    simp [none, Json.Huge]
  · refine bind_outOfRange_iff "timeout" _ ?_
    intro x
    dsimp only
    split <;> simp

end Action

namespace Graph

theorem checkExpression_error_iff {text : String} {fault : ConfigFault} :
    checkExpression text = .error fault ↔
      ∃ refusal, Expr.compile text = .error refusal ∧ .expression refusal = fault := by
  rw [checkExpression]
  cases Expr.compile text <;> simp

theorem checkSetting_error_iff {α : Type} {setting : Except Action.SettingFault α} {fault : ConfigFault} :
    checkSetting setting = .error fault ↔ ∃ reason, setting = .error reason ∧ .setting reason = fault := by
  cases setting <;> simp [checkSetting]

/-- What a wait is for is refused where it neither takes shape later nor compiles. -/
theorem awaitable_or (expression : String) : Action.Awaitable expression ∨
    ∃ refusal, isTemplated (.text expression) = false ∧ Expr.compile expression = .error refusal := by
  by_cases templated : isTemplated (.text expression) = true
  · exact .inl (.inl templated)
  · cases compiled : Expr.compile expression with
    | ok code => exact .inl (.inr ⟨code, compiled⟩)
    | error refusal => exact .inr ⟨refusal, by simpa using templated, rfl⟩

section Waiting

variable {a : Action} {expression : String} (kind : a.kind = .waitCondition)
  (given : Action.waitExpression a.config = .ok expression)

include kind given

theorem checkAction_of_awaitable (awaitable : Action.Awaitable expression) :
    checkAction a = if isTemplated (Json.member a.config "timeout") then .ok ()
      else checkSetting (Action.waitLimit a.config) := by
  simp only [checkAction, kind, given]
  rcases awaitable with templated | ⟨code, compiled⟩
  · rw [if_pos templated]
    rfl
  · rw [checkExpression, compiled]
    split <;> rfl

theorem checkAction_of_refused {refusal : Expr.Refusal} (fixed : isTemplated (.text expression) = false)
    (refused : Expr.compile expression = .error refusal) : checkAction a = .error (.expression refusal) := by
  simp only [checkAction, kind, given, fixed, checkExpression, refused]
  rfl

end Waiting

theorem checkTrigger_error_iff {t : Trigger} {fault : ConfigFault} :
    checkTrigger t = .error fault ↔ t.Unusable fault := by
  constructor
  · intro refused
    rw [checkTrigger] at refused
    split at refused
    · rename_i kind
      split at refused
      · rename_i missing
        cases refused
        exact .unscheduled kind missing
      · rename_i schedule given
        split at refused
        · cases refused
        · rename_i invalid
          cases refused
          exact .schedule kind given (by simpa using invalid)
    · rename_i kind
      split at refused
      · rename_i missing
        cases refused
        exact .unnamed kind missing
      · rename_i event named
        split at refused
        · rename_i filter given
          obtain ⟨refusal, uncompiled, rfl⟩ := checkExpression_error_iff.mp refused
          exact .filter kind named given uncompiled
        · cases refused
    · rename_i kind
      split at refused
      · rename_i missing
        cases refused
        exact .unwatched kind missing
      · rename_i expression given
        obtain ⟨refusal, uncompiled, rfl⟩ := checkExpression_error_iff.mp refused
        exact .watch kind given uncompiled
    · cases refused
  · intro unusable
    cases unusable with
    | unscheduled kind missing => simp [checkTrigger, kind, missing]
    | schedule kind given invalid => simp [checkTrigger, kind, given, invalid]
    | unnamed kind missing => simp [checkTrigger, kind, missing]
    | filter kind named given refused => simp [checkTrigger, kind, named, given, checkExpression, refused]
    | unwatched kind missing => simp [checkTrigger, kind, missing]
    | watch kind given refused => simp [checkTrigger, kind, given, checkExpression, refused]

theorem checkAction_error_iff {a : Action} {fault : ConfigFault} :
    checkAction a = .error fault ↔ a.Unusable fault := by
  constructor
  · intro refused
    have checked := refused
    rw [checkAction] at checked
    split at checked
    · rename_i kind
      split at checked
      · cases checked
      · rename_i fixed
        obtain ⟨reason, unread, rfl⟩ := checkSetting_error_iff.mp checked
        exact .delay kind (by simpa using fixed) unread
    · rename_i kind
      split at checked
      · rename_i reason unasked
        cases checked
        exact .unasked kind unasked
      · rename_i expression given
        rcases awaitable_or expression with awaitable | ⟨refusal, fixed, uncompiled⟩
        · rw [checkAction_of_awaitable kind given awaitable] at refused
          split at refused
          · cases refused
          · rename_i fixed
            obtain ⟨reason, unread, rfl⟩ := checkSetting_error_iff.mp refused
            exact .limit kind given awaitable (by simpa using fixed) unread
        · rw [checkAction_of_refused kind given fixed uncompiled] at refused
          cases refused
          exact .expression kind given fixed uncompiled
    · cases checked
  · intro unusable
    cases unusable with
    | delay kind fixed refused => simp [checkAction, kind, fixed, checkSetting, refused]
    | unasked kind refused => simp [checkAction, kind, refused]
    | expression kind given fixed refused => exact checkAction_of_refused kind given fixed refused
    | limit kind given awaitable fixed refused =>
      rw [checkAction_of_awaitable kind given awaitable, fixed]
      exact checkSetting_error_iff.mpr ⟨_, refused, rfl⟩

theorem checkNode_error_iff {node : Node} {fault : ConfigFault} :
    checkNode node = .error fault ↔ node.Unusable fault := by
  constructor
  · intro refused
    rw [checkNode] at refused
    split at refused
    · rename_i t task
      exact .trigger task (checkTrigger_error_iff.mp refused)
    · rename_i expression task
      obtain ⟨refusal, uncompiled, rfl⟩ := checkExpression_error_iff.mp refused
      exact .condition task uncompiled
    · rename_i a task
      exact .action task (checkAction_error_iff.mp refused)
    · cases refused
  · intro unusable
    cases unusable with
    | trigger task refused => rw [checkNode, task]; exact checkTrigger_error_iff.mpr refused
    | condition task refused => rw [checkNode, task]; exact checkExpression_error_iff.mpr ⟨_, refused, rfl⟩
    | action task refused => rw [checkNode, task]; exact checkAction_error_iff.mpr refused

/-- A setting that is an integer does not take shape later. -/
theorem fixed_of_huge {datum : Json} (huge : datum.Huge) : isTemplated datum = false := by
  obtain ⟨n, rfl, -⟩ := huge
  rfl

/-- The one reason that is not reported is an integer beyond the range. -/
theorem unusable_outOfRange_iff {node : Node} : node.Unusable (.setting .outOfRange) ↔ node.Overflows := by
  constructor
  · intro unusable
    cases unusable with
    | trigger task refused => cases refused
    | action task refused =>
      cases refused with
      | delay kind fixed refused => exact .delay task kind (Action.delaySeconds_outOfRange_iff.mp refused)
      | unasked kind refused =>
        rw [Action.waitExpression] at refused
        split at refused
        · split at refused <;> cases refused
        · cases refused
      | limit kind given awaitable fixed refused =>
        exact .limit task kind given awaitable (Action.waitLimit_outOfRange_iff.mp refused)
  · intro overflows
    cases overflows with
    | delay task kind huge =>
      exact .action task (.delay kind (fixed_of_huge huge) (Action.delaySeconds_outOfRange_iff.mpr huge))
    | limit task kind given awaitable huge =>
      exact .action task (.limit kind given awaitable (fixed_of_huge huge) (Action.waitLimit_outOfRange_iff.mpr huge))

/-- There is one reason why settings cannot be used. -/
theorem unusable_unique {node : Node} {fault other : ConfigFault} (one : node.Unusable fault)
    (two : node.Unusable other) : fault = other := by
  rw [← checkNode_error_iff] at one two
  exact Except.error.inj (one.symm.trans two)

/-- What is told of the settings of nodes, in the order of the nodes. -/
inductive Told : List Node → List Defect → Prop
  | none : Told [] []
  | usable {node : Node} {rest : List Node} {told : List Defect} (usable : ∀ fault, ¬ node.Unusable fault)
      (others : Told rest told) : Told (node :: rest) told
  | unusable {node : Node} {rest : List Node} {fault : ConfigFault} {told : List Defect}
      (unusable : node.Unusable fault) (others : Told rest told) :
      Told (node :: rest) (.misconfigured node.id fault :: told)

/-- A node is told of, with its reason, just where its settings cannot be used. -/
theorem Told.mem_iff {nodes : List Node} {told : List Defect} (all : Told nodes told) (id : String)
    (fault : ConfigFault) : .misconfigured id fault ∈ told ↔ ∃ node ∈ nodes, node.id = id ∧ node.Unusable fault := by
  induction all with
  | none => simp
  | usable usable others ih =>
    rw [ih]
    simp [usable fault]
  | unusable unusable others ih =>
    rw [List.mem_cons, ih]
    simp only [List.mem_cons, exists_eq_or_imp, Defect.misconfigured.injEq]
    refine or_congr_left ⟨?_, ?_⟩
    · rintro ⟨rfl, rfl⟩
      exact ⟨rfl, unusable⟩
    · rintro ⟨rfl, same⟩
      exact ⟨rfl, unusable_unique same unusable⟩

/-- Node by node: an integer out of range ends the check, and everything else is told. -/
theorem misconfigured_cases (nodes : List Node) :
    (∃ node ∈ nodes, node.Overflows) ∧ misconfigured nodes = .error .outOfRange ∨
      (∀ node ∈ nodes, ¬ node.Overflows) ∧ ∃ told, misconfigured nodes = .ok told ∧ Told nodes told := by
  induction nodes with
  | nil => exact .inr ⟨by simp, [], rfl, .none⟩
  | cons node rest ih =>
    rw [misconfigured]
    split
    · rename_i checked
      have usable : ∀ fault, ¬ node.Unusable fault := by
        intro fault unusable
        rw [checkNode_error_iff.mpr unusable] at checked
        cases checked
      have inRange : ¬ node.Overflows := fun overflows => usable _ (unusable_outOfRange_iff.mpr overflows)
      rcases ih with ⟨⟨other, mem, overflows⟩, fails⟩ | ⟨others, told, passes, all⟩
      · exact .inl ⟨⟨other, List.mem_cons_of_mem _ mem, overflows⟩, fails⟩
      · exact .inr ⟨List.forall_mem_cons.mpr ⟨inRange, others⟩, told, passes, .usable usable all⟩
    · rename_i checked
      exact .inl ⟨⟨node, List.mem_cons_self, unusable_outOfRange_iff.mp (checkNode_error_iff.mp checked)⟩, rfl⟩
    · rename_i fault reported checked
      have unusable := checkNode_error_iff.mp checked
      have inRange : ¬ node.Overflows := by
        intro overflows
        exact reported (unusable_unique unusable (unusable_outOfRange_iff.mpr overflows))
      rcases ih with ⟨⟨other, mem, overflows⟩, fails⟩ | ⟨others, told, passes, all⟩
      · exact .inl ⟨⟨other, List.mem_cons_of_mem _ mem, overflows⟩, by rw [fails]; rfl⟩
      · exact .inr ⟨List.forall_mem_cons.mpr ⟨inRange, others⟩, _, by rw [passes]; rfl, .unusable unusable all⟩

variable {g : Graph}

/-- The checks of the edges tell nothing of settings. -/
theorem not_mem_structural (id : String) (fault : ConfigFault) : .misconfigured id fault ∉ g.structural := by
  rw [structural]
  simp [mem_duplicates_iff, mem_triggerCount_iff, mem_enteredTriggers_iff, mem_danglingEdges_iff,
    mem_cycles_iff, mem_unreachableNodes_iff, mem_outgoingOf_iff, breach_iff]

/-- In a graph without defects the settings of every node can be used. -/
theorem usable_of_sound (sound : g.defects = .ok []) {node : Node} (mem : node ∈ g.nodes) (fault : ConfigFault) :
    ¬ node.Unusable fault := by
  intro unusable
  rw [defects] at sound
  rcases misconfigured_cases g.nodes with ⟨-, fails⟩ | ⟨-, told, passes, all⟩
  · rw [fails] at sound
    cases sound
  · rw [passes] at sound
    have none : g.structural ++ told = [] := Except.ok.inj sound
    have reported := (all.mem_iff node.id fault).mpr ⟨node, mem, rfl, unusable⟩
    rw [(List.append_eq_nil_iff.mp none).2] at reported
    cases reported

/-- A graph with a trigger for no event, a delay of no length, a wait for no expression, and no end. -/
def careless : Graph :=
  ⟨[⟨"begin", "", none, .trigger ⟨.event, []⟩⟩,
    ⟨"delay", "", none, .action ⟨.delay, [("seconds", .text "soon")], false, none⟩⟩,
    ⟨"wait", "", none, .action ⟨.waitCondition, [("expression", .text "1 +")], false, none⟩⟩],
   [⟨"out", "begin", "delay", none⟩, ⟨"on", "delay", "wait", none⟩], 1⟩

/-- A graph with a delay of `10 ^ 400` seconds, and nothing else wrong. -/
def boundless : Graph :=
  ⟨[⟨"begin", "", none, .trigger ⟨.manual, []⟩⟩,
    ⟨"delay", "", none, .action ⟨.delay, [("seconds", .int (10 ^ 400))], false, none⟩⟩, ⟨"end", "", none, .finish⟩],
   [⟨"out", "begin", "delay", none⟩, ⟨"on", "delay", "end", none⟩], 1⟩

theorem careless_inRange : ∀ node ∈ careless.nodes, ¬ node.Overflows := by
  have checked : ∀ node ∈ careless.nodes, checkNode node ≠ .error (.setting .outOfRange) := by decide +kernel
  intro node mem overflows
  exact checked node mem (checkNode_error_iff.mpr (unusable_outOfRange_iff.mpr overflows))

end Graph

end TriggerFlow
