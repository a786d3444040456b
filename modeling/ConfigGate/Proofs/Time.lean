import ConfigGate.Time

/-! Which times are dates: those from the beginning of the year 1 to the end of the year 9999. The clock and
the calendar have room for all of them. -/
namespace ConfigGate.Time

/-- The time is a date, counted in microseconds from the beginning of 1970. -/
def IsDate (microseconds : Int) : Prop :=
  -62135596800000000 ≤ microseconds ∧ microseconds < 253402300800000000

instance (microseconds : Int) : Decidable (IsDate microseconds) :=
  inferInstanceAs (Decidable (_ ∧ _))

/-- The year of a day in an era of four centuries, where years begin with March. -/
def marchYear (dayOfEra : Nat) : Nat :=
  (dayOfEra - dayOfEra / 1460 + dayOfEra / 36524 - dayOfEra / 146096) / 365

/-- The day in such a year. -/
def marchDay (dayOfEra : Nat) : Nat :=
  dayOfEra - (365 * marchYear dayOfEra + marchYear dayOfEra / 4 - marchYear dayOfEra / 100)

/-- The year in an era, where years begin with January. January and February are the last months of the others. -/
def yearInEra (dayOfEra : Nat) : Nat :=
  if marchDay dayOfEra < 306 then marchYear dayOfEra else marchYear dayOfEra + 1

theorem marchDay_le {dayOfEra : Nat} (h : dayOfEra < 146097) : marchDay dayOfEra ≤ 366 := by
  unfold marchDay marchYear
  omega

theorem civil_fst (day : Int) :
    (civil day).1 = (day + 719468) / 146097 * 400 + yearInEra ((day + 719468) % 146097).toNat := by
  have hDay : ((day + 719468) % 146097).toNat < 146097 := by omega
  have hYear := marchDay_le hDay
  -- The months of the count end with a February, since no year has more days.
  unfold yearInEra
  unfold marchDay marchYear at *
  unfold civil
  dsimp only
  split <;> split <;> split <;> omega

/-- An era has four hundred years, the first of which begins with March. -/
theorem yearInEra_le {dayOfEra : Nat} (h : dayOfEra < 146097) : yearInEra dayOfEra ≤ 400 := by
  unfold yearInEra marchDay marchYear
  split <;> omega

theorem yearInEra_pos_iff {dayOfEra : Nat} (h : dayOfEra < 146097) : 1 ≤ yearInEra dayOfEra ↔ 306 ≤ dayOfEra := by
  unfold yearInEra marchDay marchYear
  split <;> omega

theorem yearInEra_lt_iff {dayOfEra : Nat} (h : dayOfEra < 146097) : yearInEra dayOfEra < 400 ↔ dayOfEra < 146037 := by
  unfold yearInEra marchDay marchYear
  split <;> omega

theorem civil_year_pos_iff (day : Int) : 1 ≤ (civil day).1 ↔ -719162 ≤ day := by
  have hDay : ((day + 719468) % 146097).toNat < 146097 := by omega
  have hLe := yearInEra_le hDay
  have hPos := yearInEra_pos_iff hDay
  rw [civil_fst]
  omega

theorem civil_year_le_iff (day : Int) : (civil day).1 ≤ 9999 ↔ day < 2932897 := by
  have hDay : ((day + 719468) % 146097).toNat < 146097 := by omega
  have hLe := yearInEra_le hDay
  have hLt := yearInEra_lt_iff hDay
  rw [civil_fst]
  omega

/-- Nothing keeps exactly these times from being dates. -/
theorem fault?_eq_none_iff (microseconds : Int) : fault? microseconds = none ↔ IsDate microseconds := by
  have hFirst := civil_year_pos_iff (microseconds / 1000000 / 86400)
  have hLast := civil_year_le_iff (microseconds / 1000000 / 86400)
  unfold fault? IsDate
  dsimp only
  generalize (civil (microseconds / 1000000 / 86400)).1 = year at *
  simp only [Bool.or_eq_true, decide_eq_true_eq]
  split
  · exact iff_of_false nofun (by omega)
  split
  · exact iff_of_false nofun (by omega)
  split
  · exact iff_of_false nofun (by omega)
  · exact iff_of_true rfl (by omega)

end ConfigGate.Time
