import Tabletop.Settings.Load

/-!
# Settings that are good are in range

Every number of settings that were read without a fault lies in the range of its field (`Settings.inRange_of_ofValues`),
whether it was named or is the default.
-/

namespace Tabletop

namespace Settings

structure InRange (s : Settings) : Prop where
  tcpPort : 1 ≤ s.tcpPort ∧ s.tcpPort ≤ 65535
  rateLimitPerMinute : 0 ≤ s.rateLimitPerMinute
  rateLimitPerHour : 0 ≤ s.rateLimitPerHour
  rateLimitPerDay : 0 ≤ s.rateLimitPerDay
  historyMaxEntries : 1 ≤ s.historyMaxEntries

theorem inRange_default : InRange {} := by
  constructor <;> decide

/-- What a field reads is what is wanted of it, if its default is. -/
theorem field_spec {α : Type} {p : α → Prop} {read : RawSetting → Except SettingFault α}
    (hread : ∀ {raw value}, read raw = .ok value → p value) {default : α} (hdefault : p default)
    (find? : String → Option RawSetting) (name : String) (faults : List FieldFault) :
    p ((field find? name default read).run faults).1 := by
  unfold field
  cases find? name with
  | none => exact hdefault
  | some raw =>
    cases hraw : read raw with
    | error fault =>
      simp only [hraw]
      exact hdefault
    | ok value =>
      simp only [hraw]
      exact hread hraw

theorem le_of_atLeast {minimum n : Int} {raw : RawSetting} (h : raw.atLeast minimum = .ok n) : minimum ≤ n := by
  unfold RawSetting.atLeast at h
  cases hraw : raw.asInteger with
  | error fault =>
    rw [hraw] at h
    cases h
  | ok m =>
    rw [hraw] at h
    simp only [Except.bind, bind] at h
    split at h
    · cases h
    · cases h
      omega

theorem mem_of_within {minimum maximum n : Int} {raw : RawSetting} (h : raw.within minimum maximum = .ok n) :
    minimum ≤ n ∧ n ≤ maximum := by
  unfold RawSetting.within at h
  cases hraw : raw.atLeast minimum with
  | error fault =>
    rw [hraw] at h
    cases h
  | ok m =>
    have hmin := le_of_atLeast hraw
    rw [hraw] at h
    simp only [Except.bind, bind] at h
    split at h
    · cases h
    · cases h
      omega

/-- Whatever faults the fields before it had, each field is read on its own. -/
theorem inRange_fields (find? : String → Option RawSetting) : InRange ((fields find?).run []).1 where
  tcpPort := field_spec mem_of_within inRange_default.tcpPort find? "port" _
  rateLimitPerMinute := field_spec le_of_atLeast inRange_default.rateLimitPerMinute find? "rate_limit_per_minute" _
  rateLimitPerHour := field_spec le_of_atLeast inRange_default.rateLimitPerHour find? "rate_limit_per_hour" _
  rateLimitPerDay := field_spec le_of_atLeast inRange_default.rateLimitPerDay find? "rate_limit_per_day" _
  historyMaxEntries := field_spec le_of_atLeast inRange_default.historyMaxEntries find? "history_max_entries" _

theorem inRange_of_ofValues {values : List (String × RawSetting)} {settings : Settings}
    (h : ofValues values = .ok settings) : settings.InRange := by
  have hrange := inRange_fields (Fields.first? (foldNames values))
  unfold ofValues ofLookup at h
  generalize (fields (Fields.first? (foldNames values))).run [] = result at h hrange
  obtain ⟨read, faults⟩ := result
  change (if faults.isEmpty = true then Except.ok read else _) = _ at h
  split at h
  · cases h
    exact hrange
  · cases h

end Settings

end Tabletop
