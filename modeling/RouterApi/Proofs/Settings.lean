import RouterApi.Client

/-!
# Readable settings

A setting is readable unless the environment gives it a content that does not convert. Looking up a
setting keeps its value, and changes nothing about what is readable.
-/

namespace RouterApi
namespace Settings

variable {settings : Settings}

/-- A setting is readable if its value is known, or if the environment leaves it out or gives it a
content that converts. -/
def IsReadable
    (setting : Setting)
    (settings : Settings) : Prop :=
  (Assoc.get? setting settings.known).isSome = true ∨
    ∀ content, Assoc.get? setting.variableName settings.environment = some content →
      (setting.convert? content).isSome = true

/-- A value is provided if it is given, or if its setting is readable. -/
def Provides
    (given : Option Value)
    (setting : Setting)
    (settings : Settings) : Prop :=
  given.isSome = true ∨ settings.IsReadable setting

/-- Looking up a readable setting gives a value, which is kept unless it was known. -/
theorem get_of_isReadable
    {setting : Setting}
    (readable : settings.IsReadable setting) :
    ∃ value, settings.get setting = (.ok value, settings) ∨
      settings.get setting =
        (.ok value, { settings with known := settings.known.set setting value }) := by
  unfold get
  cases known : Assoc.get? setting settings.known with
  | some value => exact ⟨value, .inl rfl⟩
  | none =>
      rcases readable with isKnown | converts
      · simp [known] at isKnown
      · cases overridden : Assoc.get? setting.variableName settings.environment with
        | none => exact ⟨setting.default, .inr rfl⟩
        | some content =>
            obtain ⟨value, converted⟩ := Option.isSome_iff_exists.mp (converts content overridden)
            exact ⟨value, .inr (by simp [converted])⟩

/-- Looking up any other setting fails, and changes nothing. -/
theorem get_of_not_isReadable
    {setting : Setting}
    (unreadable : ¬ settings.IsReadable setting) :
    ∃ error, settings.get setting = (.error error, settings) := by
  obtain ⟨unknown, failing⟩ := not_or.mp unreadable
  obtain ⟨content, named⟩ := Classical.not_forall.mp failing
  obtain ⟨overridden, unconverted⟩ := Classical.not_imp.mp named
  rw [Option.not_isSome_iff_eq_none] at unknown unconverted
  refine ⟨.invalidSetting setting.variableName content, ?_⟩
  simp [get, unknown, overridden, unconverted]

theorem isReadable_set
    {setting other : Setting}
    {value : Value}
    (readable : settings.IsReadable other) :
    IsReadable setting { settings with known := settings.known.set other value } ↔
      settings.IsReadable setting := by
  by_cases same : setting = other
  · subst same
    exact iff_of_true (.inl (by rw [Assoc.get?_set_self]; rfl)) readable
  · unfold IsReadable
    rw [Assoc.get?_set_of_ne same]

/-- What is readable does not depend on what has been looked up. -/
theorem isReadable_get
    (setting other : Setting)
    (settings : Settings) :
    IsReadable setting (settings.get other).2 ↔ settings.IsReadable setting := by
  by_cases readable : settings.IsReadable other
  · obtain ⟨value, kept | found⟩ := get_of_isReadable readable
    · rw [kept]
    · rw [found]
      exact isReadable_set readable
  · obtain ⟨error, failed⟩ := get_of_not_isReadable readable
    rw [failed]

@[simp] theorem provides_none {setting : Setting} :
    settings.Provides none setting ↔ settings.IsReadable setting := by
  simp [Provides]

/-- What looking up a value comes to: a provided value is found, and the same is provided
afterwards; any other lookup fails, and changes nothing. -/
inductive Finds
    (given : Option Value)
    (setting : Setting)
    (settings : Settings) : Except Error Value × Settings → Prop
  | found {value after}
      (provided : settings.Provides given setting)
      (same : ∀ other otherSetting,
        after.Provides other otherSetting ↔ settings.Provides other otherSetting) :
      Finds given setting settings (.ok value, after)
  | missed {error}
      (unprovided : ¬ settings.Provides given setting) :
      Finds given setting settings (.error error, settings)

theorem finds_get
    (setting : Setting)
    (settings : Settings) :
    Finds none setting settings (settings.get setting) := by
  have same : ∀ other otherSetting,
      (settings.get setting).2.Provides other otherSetting ↔
        settings.Provides other otherSetting := by
    intro other otherSetting
    unfold Provides
    rw [isReadable_get]
  by_cases readable : settings.IsReadable setting
  · obtain ⟨value, kept | found⟩ := get_of_isReadable readable
    · rw [kept] at same ⊢
      exact .found (.inr readable) same
    · rw [found] at same ⊢
      exact .found (.inr readable) same
  · obtain ⟨error, failed⟩ := get_of_not_isReadable readable
    rw [failed]
    exact .missed (mt provides_none.mp readable)

theorem finds_getUnless
    (given : Option Value)
    (setting : Setting)
    (settings : Settings) :
    Finds given setting settings (settings.getUnless given setting) := by
  cases given with
  | some value => exact .found (.inl rfl) fun _ _ => Iff.rfl
  | none => exact finds_get setting settings

/-- Any content of its variable is an encoding. -/
theorem isReadable_encoding (settings : Settings) : settings.IsReadable .encoding :=
  .inr fun _ _ => rfl

end Settings
end RouterApi
