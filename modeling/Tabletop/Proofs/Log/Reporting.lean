import Tabletop.Log.Basic

/-!
# Reports that cannot fail

A record is reported as an event with its fields and without values.  Names of fields may make a report fail, or hide what they
name; a record is plain if its fields have none of these names and no two have the same.  Without context, a plain record is
reported at any threshold, and its lines are its own and nothing else (`report_plain`): all of its fields, the event and the
level, whatever the threshold is, or no line at all.
-/

namespace Tabletop

/-! ### Fields with distinct names -/

namespace Fields

variable {α : Type}

theorem set_of_not_mem {fields : List (String × α)} {f : String × α} (h : f.1 ∉ fields.map Prod.fst) :
    set fields f = fields ++ [f] := by
  unfold set
  rw [if_neg]
  simpa using h

theorem setAll_of_nodup {fields newer : List (String × α)} (h : ((fields ++ newer).map Prod.fst).Nodup) :
    setAll fields newer = fields ++ newer := by
  induction newer generalizing fields with
  | nil => exact (List.append_nil fields).symm
  | cons f rest ih =>
    have hnot : f.1 ∉ fields.map Prod.fst := by
      rw [List.map_append, List.nodup_append] at h
      intro hmem
      exact h.2.2 f.1 hmem f.1 (by simp) rfl
    show setAll (set fields f) rest = _
    rw [set_of_not_mem hnot, ih (by rwa [List.append_assoc]), List.append_assoc]
    rfl

theorem setAll_nil {fields : List (String × α)} (h : (fields.map Prod.fst).Nodup) : setAll [] fields = fields :=
  setAll_of_nodup h

end Fields

/-! ### Plain records -/

namespace Record

/-- Names that mean something to who reports, or that are not shown as fields. -/
def reservedNames : List String :=
  ["self", "event", "method_name", "level", Event.valuesName] ++ Log.hiddenNames

structure IsPlain (r : Record) : Prop where
  distinct : (r.fields.map Prod.fst).Nodup
  unreserved : ∀ f ∈ r.fields, f.1 ∉ reservedNames

/-- The event as which a record is reported. -/
def reported (r : Record) : Event :=
  { call := r.level.name, level := r.level, text := r.event, values := [], fields := r.fields }

variable {r : Record}

theorem IsPlain.of_names (names : List String) (h : r.fields.map Prod.fst = names) (hdistinct : names.Nodup)
    (hunreserved : ∀ name ∈ names, name ∉ reservedNames) : r.IsPlain := by
  subst h
  exact ⟨hdistinct, fun f hf => hunreserved f.1 (List.mem_map_of_mem hf)⟩

theorem IsPlain.ne (h : r.IsPlain) {f : String × Value} (hf : f ∈ r.fields) (name : String)
    (hname : name ∈ reservedNames) : f.1 ≠ name :=
  fun heq => h.unreserved f hf (heq ▸ hname)

theorem IsPlain.record_reported (h : r.IsPlain) : r.reported.record [] = .ok r := by
  have hown : r.fields.findSome? (Event.ownFault? r.level.name) = none := by
    rw [List.findSome?_eq_none_iff]
    intro f hf
    unfold Event.ownFault?
    simp [h.ne hf "self" (by decide), h.ne hf "event" (by decide),
      h.ne hf "method_name" (by decide)]
  have hvalues : Fields.last? r.fields Event.valuesName = none := by
    unfold Fields.last?
    rw [Option.map_eq_none_iff, List.find?_eq_none]
    intro f hf
    simpa using h.ne (List.mem_reverse.mp hf) Event.valuesName (by decide)
  have hset := Fields.setAll_nil h.distinct
  unfold Event.record Event.checkFields reported
  simp only [hown, hset, hvalues]
  show Except.ok { level := r.level, event := r.event, fields := Fields.setAll [] r.fields : Record } = _
  rw [hset]

end Record

/-! ### Logs -/

namespace Log

variable {log : Log} {r : Record}

theorem lines_singleton (log : Log) (r : Record) :
    log.lines [r] = if log.threshold ≤ r.level.severity then log.recordLines r else [] := by
  unfold lines admits
  by_cases h : log.threshold ≤ r.level.severity
  · rw [if_pos h, List.filter_cons_of_pos (by simpa using h)]
    simp
  · rw [if_neg h, List.filter_cons_of_neg (by simpa using h)]
    rfl

theorem report_plain (hcontext : log.context = []) (h : r.IsPlain) :
    log.report none r.reported = .ok (if log.threshold ≤ r.level.severity then log.recordLines r else []) := by
  unfold report
  rw [hcontext, h.record_reported, ← lines_singleton]
  rfl

/-- As an object, a plain record shows all its fields, then the event and the level. -/
theorem recordLines_plain (hcontext : log.context = []) (hjson : log.json = true) (h : r.IsPlain) :
    log.recordLines r = [.object (r.fields ++ [("event", .text r.event), ("level", .text r.level.name)])] := by
  have hfields : log.fields r = r.fields := by
    unfold fields
    rw [hcontext, Fields.setAll_nil h.distinct, List.filter_eq_self]
    intro f hf
    have hhidden : f.1 ∉ hiddenNames := fun hmem => h.unreserved f hf (List.mem_append_right _ hmem)
    simp [hhidden, h.ne hf "event" (by decide), h.ne hf "level" (by decide)]
  unfold recordLines objectLine
  rw [if_pos hjson, hfields]

/-! ### Thresholds -/

/-- The log of a server with these settings at a level. -/
def ofLevel (settings : Settings) (level : Level) : Log := { threshold := level.severity, json := settings.logJson }

end Log

/-- The name under which settings ask for a level. -/
def Level.settingName : Level → String
  | debug => "DEBUG"
  | info => "INFO"
  | warning => "WARNING"
  | error => "ERROR"
  | critical => "CRITICAL"

theorem Log.ofSettings_settingName (settings : Settings) (level : Level) :
    Log.ofSettings (some { settings with logLevel := level.settingName }) = .ok (.ofLevel settings level) := by
  have hthreshold : Level.threshold level.settingName = .ok level.severity := by
    cases level <;> rfl
  unfold Log.ofSettings
  simp only [hthreshold]
  rfl

end Tabletop
