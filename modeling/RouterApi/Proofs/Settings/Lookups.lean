import RouterApi.Proofs.Assoc
import RouterApi.Proofs.Settings

/-!
# Lookups of settings

A lookup answers with the value that is known, or else with what the environment says now, which is
known from then on if it converts. It concerns no other setting, and a name that is not that of a
setting is refused.
-/

namespace RouterApi

namespace Setting

variable {setting : Setting} {name : Text}

@[simp] theorem ofName?_name (setting : Setting) :
    ofName? (.text setting.name) = some setting := by
  cases setting <;> decide

theorem ofName?_eq_some_iff : ofName? (.text name) = some setting ↔ name = setting.name := by
  constructor
  · intro found
    have same := List.find?_some found
    simp only [beq_iff_eq, Value.text.injEq] at same
    exact same.symm
  · rintro rfl
    exact ofName?_name setting

theorem ofName?_eq_none_iff :
    ofName? (.text name) = none ↔ ∀ setting : Setting, name ≠ setting.name := by
  rw [Option.eq_none_iff_forall_ne_some]
  exact forall_congr' fun setting => not_congr ofName?_eq_some_iff

theorem name_inj {other : Setting} : setting.name = other.name ↔ setting = other := by
  rw [← ofName?_eq_some_iff, ofName?_name, Option.some_inj]

end Setting

namespace Settings

variable {settings : Settings} {setting other : Setting} {name : Text}

/-- The value of a setting that is not known: what the environment says now, or the built-in value
if it says nothing. -/
def consulted
    (setting : Setting)
    (content : Option Text) : Except Error Value :=
  match content with
  | none => .ok setting.default
  | some content =>
      match setting.convert? content with
      | some value => .ok value
      | none => .error (.invalidSetting setting.variableName content)

theorem get_of_known
    {value : Value}
    (known : Assoc.get? setting settings.known = some value) :
    settings.get setting = (.ok value, settings) := by
  simp [get, known]

/-- A value that is not known is kept if it is found. -/
theorem get_of_unknown (unknown : Assoc.get? setting settings.known = none) :
    settings.get setting =
      match consulted setting (Assoc.get? setting.variableName settings.environment) with
      | .ok value => (.ok value, settings.set setting value)
      | .error error => (.error error, settings) := by
  unfold get consulted
  simp only [unknown]
  cases Assoc.get? setting.variableName settings.environment with
  | none => rfl
  | some content =>
      simp only
      cases setting.convert? content <;> rfl

/-- A lookup answers with what is known or else with what the environment says. -/
theorem get_fst (setting : Setting) (settings : Settings) :
    (settings.get setting).1 =
      (Assoc.get? setting settings.known).elim
        (consulted setting (Assoc.get? setting.variableName settings.environment)) .ok := by
  cases known : Assoc.get? setting settings.known with
  | some value => rw [get_of_known known, Option.elim_some]
  | none =>
      rw [get_of_unknown known, Option.elim_none]
      cases consulted setting (Assoc.get? setting.variableName settings.environment) <;> rfl

/-- A lookup that fails changes nothing. -/
theorem get_snd_of_error
    {error : Error}
    (failed : (settings.get setting).1 = .error error) :
    (settings.get setting).2 = settings := by
  cases known : Assoc.get? setting settings.known with
  | some value => rw [get_of_known known]
  | none =>
      rw [get_of_unknown known] at failed ⊢
      cases found : consulted setting (Assoc.get? setting.variableName settings.environment) with
      | ok value => simp [found] at failed
      | error error => rfl

/-- The text of a variable that does not convert is an error about a value. -/
theorem kind_of_consulted
    {content : Option Text}
    {error : Error}
    (failed : consulted setting content = .error error) :
    error.kind = .value := by
  unfold consulted at failed
  split at failed
  · cases failed
  · split at failed
    · cases failed
    · cases failed
      rfl

/-- A lookup leaves the environment alone. -/
@[simp] theorem environment_get (setting : Setting) (settings : Settings) :
    (settings.get setting).2.environment = settings.environment := by
  cases known : Assoc.get? setting settings.known with
  | some value => rw [get_of_known known]
  | none =>
      rw [get_of_unknown known]
      cases consulted setting (Assoc.get? setting.variableName settings.environment) <;> rfl

theorem get?_known_set_self (setting : Setting) (value : Value) (settings : Settings) :
    Assoc.get? setting (settings.set setting value).known = some value :=
  Assoc.get?_set_self setting value settings.known

theorem get?_known_set_of_ne
    (different : setting ≠ other)
    (value : Value)
    (settings : Settings) :
    Assoc.get? setting (settings.set other value).known = Assoc.get? setting settings.known :=
  Assoc.get?_set_of_ne different value settings.known

/-- A lookup of one setting is none of another. -/
theorem get?_known_get_of_ne
    (different : setting ≠ other)
    (settings : Settings) :
    Assoc.get? setting (settings.get other).2.known = Assoc.get? setting settings.known := by
  cases known : Assoc.get? other settings.known with
  | some value => rw [get_of_known known]
  | none =>
      rw [get_of_unknown known]
      cases consulted other (Assoc.get? other.variableName settings.environment) with
      | ok value => exact get?_known_set_of_ne different value settings
      | error error => rfl

/-- What a lookup finds is known from then on, and what is known is what it finds. -/
theorem get?_known_get_self (setting : Setting) (settings : Settings) :
    Assoc.get? setting (settings.get setting).2.known =
      (Assoc.get? setting settings.known).or (settings.get setting).1.toOption := by
  cases known : Assoc.get? setting settings.known with
  | some value => rw [get_of_known known, known, Option.some_or]
  | none =>
      rw [get_of_unknown known, Option.none_or]
      cases consulted setting (Assoc.get? setting.variableName settings.environment) with
      | ok value => exact get?_known_set_self setting value settings
      | error error => exact known

theorem getNamed_name (setting : Setting) (settings : Settings) :
    settings.getNamed (.text setting.name) = settings.get setting := by
  simp [getNamed]

theorem getNamed_of_unknown
    (unknown : Setting.ofName? (.text name) = none)
    (settings : Settings) :
    settings.getNamed (.text name) = (.error (.unknownSetting name), settings) := by
  rw [getNamed, unknown]
  rfl

theorem setNamed_name (setting : Setting) (value : Value) (settings : Settings) :
    settings.setNamed (.text setting.name) value = .ok (settings.set setting value) := by
  simp [setNamed]

theorem setNamed_of_unknown
    (unknown : Setting.ofName? (.text name) = none)
    (value : Value)
    (settings : Settings) :
    settings.setNamed (.text name) value = .error (.unknownSetting name) := by
  rw [setNamed, unknown]
  rfl

end Settings
end RouterApi
