/-
Options made by setters and options read from an object.

The object holds the four texts and, of every field that was set, the value that was set last; what was never set is not
there. Reading it gives the options on which the setters were called, so both ways have the same defaults. The induction
is on the calls, from the last one: a setter changes its own field and no other (`shown_set`).
-/
import FluentSql.Proofs.Options.Named

namespace FluentSql

open FluentSql.Json FluentSql.Json.Spelling FluentSql.Options

namespace Setting

/-- the field that is set -/
def field : Setting → Field
  | .port _ => .port
  | .maxConnections _ => .maxConnections
  | .connectTimeout _ => .connectTimeout

/-- its value -/
def value : Setting → Json
  | .port n => .int (.ofUInt64 n.toUInt64)
  | .maxConnections n => .int (.ofUInt64 n.toUInt64)
  | .connectTimeout n => .int (.ofUInt64 n)

end Setting

namespace Options

/-- the fields that have setters -/
def settable : List Field := [.port, .maxConnections, .connectTimeout]

/-- the value that a field was last set to -/
def lastValue? (settings : List Setting) (f : Field) : Option Json :=
  (settings.filter fun s => s.field = f).getLast?.map Setting.value

/-- the fields that have a value, by name -/
def namedValues (value? : Field → Option Json) (fields : List Field) : Members Json :=
  fields.filterMap fun f => (value? f).map fun v => (f.name, v)

/-- an object with the four texts, and with the fields that were set -/
def given (host user password database : String) (settings : List Setting) : Members Json :=
  [("host", .text host), ("user", .text user), ("password", .text password), ("database", .text database)] ++
    namedValues (lastValue? settings) settable

/-! ## Setters -/

theorem shown_set (o : Options) (s : Setting) (f : Field) :
    (o.set s).shown f = if s.field = f then s.value else o.shown f := by
  cases s <;> cases f <;> rfl

theorem lastValue?_concat (settings : List Setting) (s : Setting) (f : Field) :
    lastValue? (settings ++ [s]) f = if s.field = f then some s.value else lastValue? settings f := by
  rw [lastValue?, List.filter_append, List.filter_singleton]
  by_cases hf : s.field = f
  · simp [hf]
  · simp [hf, lastValue?]

/-- every field holds the value it was last set to, or else what it held before -/
theorem shown_setAll (o : Options) (settings : List Setting) (f : Field) :
    (o.setAll settings).shown f = (lastValue? settings f).getD (o.shown f) := by
  induction settings using List.reverseRecOn with
  | nil => rfl
  | append_singleton settings s ih =>
    have hsnoc : o.setAll (settings ++ [s]) = (o.setAll settings).set s := List.foldl_concat ..
    rw [hsnoc, shown_set, lastValue?_concat, ih]
    split <;> rfl

theorem field_mem_settable (s : Setting) : s.field ∈ settable := by
  cases s <;> simp [Setting.field, settable]

theorem lastValue?_of_not_settable {f : Field} (h : f ∉ settable) (settings : List Setting) :
    lastValue? settings f = none := by
  have hfield (s : Setting) : s.field ≠ f := fun hs => h (hs ▸ field_mem_settable s)
  simp [lastValue?, hfield]

/-- what is not set is as it is by default -/
theorem default?_of_settable {f : Field} (h : f ∈ settable) (host user password database : String) :
    f.default? = some ((ofLogin host user password database).shown f) := by
  simp only [settable, List.mem_cons, List.not_mem_nil, or_false] at h
  rcases h with rfl | rfl | rfl <;> rfl

/-! ## The object -/

section

variable (value? : Field → Option Json)

theorem namedValues_cons (f : Field) (fields : List Field) : namedValues value? (f :: fields) =
    ((value? f).map fun v => (f.name, v)).toList ++ namedValues value? fields := by
  rw [namedValues, List.filterMap_cons]
  cases value? f <;> rfl

theorem names_namedValues (fields : List Field) : (namedValues value? fields).names.Sublist (fields.map Field.name) := by
  induction fields with
  | nil => exact .slnil
  | cons f fields ih =>
    rw [namedValues_cons]
    cases value? f with
    | none => exact ih.cons _
    | some v => exact ih.cons_cons _

theorem lookup?_namedValues (fields : List Field) (f : Field) :
    (namedValues value? fields).lookup? f.name = if f ∈ fields then value? f else none := by
  induction fields with
  | nil => rfl
  | cons g fields ih =>
    rw [namedValues_cons]
    by_cases hf : f = g
    · subst hf
      cases hvalue : value? f with
      | none => exact ih.trans (by rw [hvalue]; simp)
      | some v => simp [Members.lookup?]
    · have hname : g.name ≠ f.name := fun h => hf (Field.name_injective h.symm)
      cases value? g with
      | none => exact ih.trans (by simp [hf])
      | some v => simp [Members.lookup?, hname, hf, ih]

end

section

variable (host user password database : String) (settings : List Setting)

theorem names_given_nodup : (given host user password database settings).names.Nodup := by
  have hnames := (names_namedValues (lastValue? settings) settable).append_left ["host", "user", "password", "database"]
  exact .sublist hnames (by decide)

theorem lookup?_given (f : Field) : (given host user password database settings).lookup? f.name =
    if f ∈ settable then lastValue? settings f else some ((ofLogin host user password database).shown f) := by
  have hset := lookup?_namedValues (lastValue? settings) settable f
  cases f with
  | host | user | password | database => rfl
  | port | maxConnections | connectTimeout => exact hset

end

/-- **Setters and objects.** The members of the object may come in any order. -/
theorem ofJson_given (host user password database : String) (settings : List Setting) {ms : Members Json}
    (h : ms.Perm (given host user password database settings)) :
    ofJson (.object ms) = .ok ((ofLogin host user password database).setAll settings) ∧
      ∀ text, Spells text (.object ms) → ofText text = .ok ((ofLogin host user password database).setAll settings) := by
  have hnodup := names_given_nodup host user password database settings
  have hread : ofJson (.object ms) = .ok ((ofLogin host user password database).setAll settings) := by
    rw [ofJson_eq_ok_iff_of_perm hnodup h, ofJson_eq_ok_iff hnodup]
    intro f
    rw [lookup?_given, shown_setAll]
    split
    · next hf => rw [default?_of_settable hf host user password database, Option.or_some]
    · next hf => rw [lastValue?_of_not_settable hf]; rfl
  refine ⟨hread, fun text htext => ?_⟩
  rw [ofText_object ((h.map Prod.fst).nodup_iff.2 hnodup) htext, hread]
  rfl

/-- the port is set twice and the size of the pool never -/
theorem ofJson_given_reversed :
    [("connect_timeout_secs", Json.int (.ofUInt64 5)), ("port", .int (.ofUInt64 2)), ("database", .text "d"),
      ("password", .text ""), ("user", .text "u"), ("host", .text "h")].Perm
        (given "h" "u" "" "d" [.port 1, .connectTimeout 5, .port 2]) ∧
    ofText (Json.object [("connect_timeout_secs", .int (.ofUInt64 5)), ("port", .int (.ofUInt64 2)),
      ("database", .text "d"), ("password", .text ""), ("user", .text "u"), ("host", .text "h")]).compact =
        .ok ⟨"h", 2, "u", "", "d", 1, 5⟩ :=
  have hperm := List.reverse_perm (given "h" "u" "" "d" [.port 1, .connectTimeout 5, .port 2])
  ⟨hperm, (ofJson_given "h" "u" "" "d" [.port 1, .connectTimeout 5, .port 2] hperm).2 _ (spells_compact rfl)⟩

end Options

end FluentSql
