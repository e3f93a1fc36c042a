import TriggerFlow.Log
import TriggerFlow.Proofs.Json.Printed

/-!
# Lines of the log

The names under which an entry can bring something fall into four kinds: its own names, those that begin with an
underscore, those of the identifiers, and all others. What stands under the first two is not shown; an identifier stands
beside the message, and the others stand under `extra`, where none of them can hide a text of the entry. The line is one
line, and all of this is read back from it.
-/

namespace TriggerFlow.Log

open Json (read)

/-- The names under which a line shows the texts of its entry. -/
def textNames : List String := ["timestamp", "level", "logger", "thread", "message"]

/-- A name that is neither the entry's own nor hidden by an underscore nor that of an identifier. -/
def IsOther (name : String) : Prop := name ∉ ownNames ∧ name.startsWith "_" = false ∧ name ∉ correlationNames

instance (name : String) : Decidable (IsOther name) :=
  inferInstanceAs (Decidable (name ∉ ownNames ∧ name.startsWith "_" = false ∧ name ∉ correlationNames))

/-- The members of an object say all that an entry shows, each of it once, and nothing else. -/
structure Tells (e : Entry) (found : Members) : Prop where
  once : found.keys.Nodup
  timestamp : found.get? "timestamp" = some (.text e.time.text)
  level : found.get? "level" = some (.text e.level)
  logger : found.get? "logger" = some (.text e.logger)
  thread : found.get? "thread" = some (.text e.thread)
  message : found.get? "message" = some (.text e.message)
  identifiers : ∀ name ∈ correlationNames, found.get? name = e.extra.get? name
  extra : ∃ others : Members, others.keys.Nodup ∧
    (∀ name, others.get? name = if IsOther name then e.extra.get? name else none) ∧
    found.get? "extra" = if others = [] then none else some (.object others)
  only : ∀ name ∈ found.keys, name ∈ textNames ∨ name ∈ correlationNames ∨ name = "extra"

/-- No identifier hides a text or the member `extra`. -/
theorem apart_of_identifier : ∀ name ∈ correlationNames, name ∉ textNames ∧ name ≠ "extra" := by decide

namespace Entry

variable {e : Entry}

/-- The texts of an entry. -/
def texts (e : Entry) : Members :=
  [("timestamp", .text e.time.text), ("level", .text e.level), ("logger", .text e.logger), ("thread", .text e.thread),
    ("message", .text e.message)]

/-- The identifiers that an entry brings. -/
def identifiers (e : Entry) : Members := e.shown.filter fun pair => correlationNames.contains pair.1

/-- What an entry brings under other names. -/
def others (e : Entry) : Members := e.shown.filter fun pair => !correlationNames.contains pair.1

/-- The last member of a line. -/
def underExtra (e : Entry) : Members := if e.others = [] then [] else [("extra", .object e.others)]

/-- The members of a line. -/
def members (e : Entry) : Members := e.texts ++ e.identifiers ++ e.underExtra

theorem toRecord_eq (e : Entry) : e.toRecord = .object e.members := by
  simp only [toRecord, List.partition_eq_filter_filter, members, underExtra, List.isEmpty_iff]
  rfl

theorem keys_members (e : Entry) : e.members.keys = textNames ++ e.identifiers.keys ++ e.underExtra.keys := by
  rw [members, Ordered.keys, List.map_append, List.map_append]
  rfl

theorem keys_underExtra (e : Entry) : ∀ name ∈ e.underExtra.keys, name = "extra" := by
  unfold underExtra
  split <;> simp

/-! ### Where a name is shown -/

theorem get?_shown (e : Entry) (name : String) :
    e.shown.get? name = if !ownNames.contains name && !name.startsWith "_" then e.extra.get? name else none :=
  Ordered.get?_filter_key e.extra (fun name => !ownNames.contains name && !name.startsWith "_") name

theorem get?_identifiers (e : Entry) {name : String} (named : name ∈ correlationNames) :
    e.identifiers.get? name = e.extra.get? name := by
  have shown : ∀ name ∈ correlationNames, (!ownNames.contains name && !name.startsWith "_") = true := by decide +kernel
  rw [identifiers, Ordered.get?_filter_key e.shown correlationNames.contains, if_pos (List.contains_iff_mem.mpr named),
    get?_shown, if_pos (shown name named)]

theorem mem_keys_identifiers {name : String} (mem : name ∈ e.identifiers.keys) : name ∈ correlationNames := by
  obtain ⟨pair, here, rfl⟩ := List.mem_map.mp mem
  exact List.contains_iff_mem.mp (List.mem_filter.mp here).2

theorem get?_others (e : Entry) (name : String) :
    e.others.get? name = if IsOther name then e.extra.get? name else none := by
  rw [others, Ordered.get?_filter_key e.shown fun name => !correlationNames.contains name, get?_shown]
  by_cases other : IsOther name
  · obtain ⟨own, hidden, named⟩ := other
    simp [IsOther, own, hidden, named]
  · rw [if_neg other]
    unfold IsOther at other
    split
    · split <;> simp_all
    · rfl

/-! ### What a line says -/

section Distinct

variable (distinct : e.extra.keys.Nodup)
include distinct

theorem nodup_identifiers : e.identifiers.keys.Nodup := Ordered.nodup_filter (Ordered.nodup_filter distinct _) _

theorem nodup_others : e.others.keys.Nodup := Ordered.nodup_filter (Ordered.nodup_filter distinct _) _

theorem nodup_members : e.members.keys.Nodup := by
  have last : e.underExtra.keys.Nodup := by
    unfold underExtra
    split <;> simp
  simp only [keys_members, List.nodup_append, List.mem_append]
  refine ⟨⟨by decide, nodup_identifiers distinct, ?_⟩, last, ?_⟩
  · rintro name text _ here rfl
    exact (apart_of_identifier name (mem_keys_identifiers here)).1 text
  · rintro name (text | here) _ mem rfl
    · obtain rfl := keys_underExtra e name mem
      revert text
      decide
    · exact (apart_of_identifier name (mem_keys_identifiers here)).2 (keys_underExtra e name mem)

/-- The members of a line tell what its entry shows. -/
theorem tells_members : Tells e e.members where
  once := nodup_members distinct
  timestamp := rfl
  level := rfl
  logger := rfl
  thread := rfl
  message := rfl
  identifiers name named := by
    have text : e.texts.get? name = none := Ordered.get?_eq_none (apart_of_identifier name named).1
    have last : e.underExtra.get? name = none :=
      Ordered.get?_eq_none fun mem => (apart_of_identifier name named).2 (keys_underExtra e name mem)
    rw [members, Ordered.get?_append, Ordered.get?_append, text, last, Option.none_or, Option.or_none,
      get?_identifiers e named]
  extra := by
    refine ⟨e.others, nodup_others distinct, get?_others e, ?_⟩
    have text : e.texts.get? "extra" = none := rfl
    have identifier : e.identifiers.get? "extra" = none :=
      Ordered.get?_eq_none fun mem => absurd (mem_keys_identifiers mem) (by decide)
    rw [members, Ordered.get?_append, Ordered.get?_append, text, identifier, Option.none_or, Option.none_or, underExtra]
    split <;> rfl
  only name mem := by
    simp only [keys_members, List.mem_append] at mem
    rcases mem with (text | here) | last
    · exact .inl text
    · exact .inr (.inl (mem_keys_identifiers here))
    · exact .inr (.inr (keys_underExtra e name last))

/-- The object of a line is plain if all that the entry brings is. -/
theorem isPlain_toRecord (plain : ∀ pair ∈ e.extra, pair.2.isPlain = true) : e.toRecord.isPlain = true := by
  have shown {keep : String × Json → Bool} : ∀ pair ∈ e.shown.filter keep, pair.2.isPlain = true := fun pair mem =>
    plain pair (List.mem_of_mem_filter (List.mem_of_mem_filter mem))
  have last : ∀ pair ∈ e.underExtra, pair.2.isPlain = true := by
    unfold underExtra
    split
    · exact nofun
    · exact List.forall_mem_singleton.mpr (Json.isPlain_object.mpr ⟨nodup_others distinct, shown⟩)
  have texts : ∀ pair ∈ e.texts, pair.2.isPlain = true := by simp [texts]
  rw [toRecord_eq, Json.isPlain_object]
  exact ⟨nodup_members distinct, List.forall_mem_append.mpr ⟨List.forall_mem_append.mpr ⟨texts, shown⟩, last⟩⟩

end Distinct

/-- Every entry that brings data of JSON texts has a line. It is one line, and it is read as an object that tells what
the entry shows. -/
theorem line_lossless (e : Entry) (distinct : e.extra.keys.Nodup)
    (json : ∀ pair ∈ e.extra, ∃ source, read source = .ok pair.2) :
    ∃ line found, e.line? = some line ∧ (∀ c ∈ line.toList, c ≠ '\n' ∧ c ≠ '\r') ∧ line = (Json.object found).print ∧
      read line = .ok (.object found) ∧ Tells e found := by
  have plain : e.toRecord.isPlain = true := isPlain_toRecord distinct fun pair mem => by
    obtain ⟨source, is⟩ := json pair mem
    exact Json.isPlain_of_read is
  refine ⟨e.toRecord.print, e.members, ?_, fun c mem => ?_, ?_, ?_, tells_members distinct⟩
  · rw [line?, if_pos (Json.isWritable_of_isPlain plain)]
  · have shown := Json.unbroken_print e.toRecord c mem
    constructor <;>
      · rintro rfl
        exact absurd shown (by decide)
  · rw [toRecord_eq]
  · rw [Json.read_print_of_isPlain plain, toRecord_eq]

example : (Entry.mk ⟨0, some 0⟩ "INFO" "engine" "main" "two\nlines"
    [("level", .bool true), ("node_id", .text "a"), ("_hidden", .null)]).line? =
      some ("\x7b\"timestamp\": \"0001-01-01T00:00:00+00:00\", \"level\": \"INFO\", \"logger\": \"engine\", " ++
        "\"thread\": \"main\", \"message\": \"two\\nlines\", \"node_id\": \"a\", " ++
        "\"extra\": \x7b\"level\": true\x7d\x7d") := by
  decide +kernel

end Entry

end TriggerFlow.Log

namespace TriggerFlow.Trial

open Log

/-- An entry that brings an identifier, something hidden, something under a name of its own, and names of members. -/
def busyEntry : Entry where
  time := ⟨0, some 0⟩
  level := "INFO"
  logger := "engine"
  thread := "\"main\""
  message := "two\nlines"
  extra := [("node_id", .text "a"), ("_hidden", .int 1), ("module", .null), ("timestamp", .text "never"),
    ("extra", .object [("level", .bool true), ("node_id", .list [])])]

theorem busyEntry_read : busyEntry.extra.keys.Nodup ∧
    (∀ pair ∈ busyEntry.extra, ∃ source, Json.read source = .ok pair.2) ∧
    ∃ line found, busyEntry.line? = some line ∧ (∀ c ∈ line.toList, c ≠ '\n' ∧ c ≠ '\r') ∧
      line = (Json.object found).print ∧ Json.read line = .ok (.object found) ∧ Tells busyEntry found := by
  have distinct : busyEntry.extra.keys.Nodup := by decide
  have plain : ∀ pair ∈ busyEntry.extra, pair.2.isPlain = true := by decide
  have json (pair : String × Json) (mem : pair ∈ busyEntry.extra) : ∃ source, Json.read source = .ok pair.2 :=
    ⟨pair.2.print, Json.read_print_of_isPlain (plain pair mem)⟩
  exact ⟨distinct, json, busyEntry.line_lossless distinct json⟩

end TriggerFlow.Trial
