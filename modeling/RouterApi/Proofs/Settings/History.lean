import RouterApi.Proofs.Settings.Lookups

/-!
# The history of the settings

Lookups keep what they find, so the value of a setting depends on all that has happened before: on
the values that the setting was given, on the lookups that succeeded, and on what became of the
environment. The history tells the value, without the table of what is known.
-/

namespace RouterApi
namespace Settings

variable {settings : Settings} {setting : Setting} {name : Text}

/-! ## Operations -/

/-- Something that is done to the settings, or to the environment. -/
inductive Operation
  | get (name : Text)
  | set (name : Text) (value : Value)
  | reset
  | setVariable (name content : Text)
  | unsetVariable (name : Text)

/-- What an operation gives: a value if it is a lookup, or an error. -/
abbrev Response := Except Error (Option Value)

/-- The settings after a change, which stay as they are if it fails. -/
def change
    (result : Except Error Settings)
    (settings : Settings) : Response × Settings :=
  match result with
  | .ok after => (.ok none, after)
  | .error error => (.error error, settings)

namespace Operation

/-- Do something to the settings or to the environment. -/
def perform
    (operation : Operation)
    (settings : Settings) : Response × Settings :=
  match operation with
  | get name => (settings.getNamed (.text name)).map (Except.map some) id
  | set name value => settings.change (settings.setNamed (.text name) value)
  | reset => (.ok none, settings.reset)
  | setVariable name content => settings.change (settings.setVariable (.text name) (.text content))
  | unsetVariable name => settings.change (settings.unsetVariable (.text name))

/-- Whether an operation concerns a setting: all do but the lookups and changes of other names. -/
def concerns
    (setting : Setting) : Operation → Bool
  | get name | set name _ => name == setting.name
  | reset | setVariable _ _ | unsetVariable _ => true

end Operation

/-- Something that has been done, and what it gave. -/
structure Event where
  operation : Operation
  response : Response

/-- The settings after several operations. -/
def live
    (operations : List Operation)
    (settings : Settings) : Settings :=
  operations.foldl (fun settings operation => (operation.perform settings).2) settings

/-- What happens in the course of several operations. -/
def events : List Operation → Settings → List Event
  | [], _ => []
  | operation :: later, settings =>
      ⟨operation, (operation.perform settings).1⟩ :: events later (operation.perform settings).2

/-- What has happened in the course of several operations, the latest event first. -/
def history
    (operations : List Operation)
    (settings : Settings) : List Event :=
  (events operations settings).reverse

@[simp] theorem live_concat
    (operations : List Operation)
    (operation : Operation)
    (settings : Settings) :
    live (operations ++ [operation]) settings =
      (operation.perform (live operations settings)).2 := by
  rw [live, List.foldl_append]
  rfl

theorem events_concat
    (operations : List Operation)
    (operation : Operation)
    (settings : Settings) :
    events (operations ++ [operation]) settings =
      events operations settings ++
        [⟨operation, (operation.perform (live operations settings)).1⟩] := by
  induction operations generalizing settings with
  | nil => rfl
  | cons first later inductionHypothesis =>
      simp only [List.cons_append, events, inductionHypothesis]
      rfl

@[simp] theorem history_concat
    (operations : List Operation)
    (operation : Operation)
    (settings : Settings) :
    history (operations ++ [operation]) settings =
      ⟨operation, (operation.perform (live operations settings)).1⟩ ::
        history operations settings := by
  rw [history, events_concat, List.reverse_append]
  rfl

/-! ## What events tell -/

namespace Event

/-- Whether everything known is forgotten. -/
def isReset : Event → Bool
  | ⟨.reset, _⟩ => true
  | _ => false

/-- The value that a setting is given. -/
def given?
    (setting : Setting) : Event → Option Value
  | ⟨.set name value, .ok _⟩ => if name = setting.name then some value else none
  | _ => none

/-- The value that a lookup of a setting finds. -/
def found?
    (setting : Setting) : Event → Option Value
  | ⟨.get name, .ok value⟩ => if name = setting.name then value else none
  | _ => none

/-- What becomes of a variable of the environment that is changed: its new text, or none if it is
removed. -/
def exported?
    (variableName : Text) : Event → Option (Option Text)
  | ⟨.setVariable name content, .ok _⟩ =>
      if (environmentText (.text name)).toOption = some variableName then
        some (environmentText (.text content)).toOption
      else none
  | ⟨.unsetVariable name, .ok _⟩ =>
      if (environmentText (.text name)).toOption = some variableName then some none else none
  | _ => none

end Event

/-- The events since everything known was last forgotten. -/
def sinceReset (history : List Event) : List Event :=
  history.takeWhile fun event => !event.isReset

/-- The value that the history gives a setting: the last one that it was given since the last reset
or, if it was given none, the last one that was found since. -/
def remembered?
    (setting : Setting)
    (history : List Event) : Option Value :=
  ((sinceReset history).findSome? (Event.given? setting)).or
    ((sinceReset history).findSome? (Event.found? setting))

/-- The text of a variable as the history leaves it, in an environment that had the given text. -/
def exported?
    (variableName : Text)
    (original : Option Text)
    (history : List Event) : Option Text :=
  (history.findSome? (Event.exported? variableName)).getD original

/-! ## Single operations -/

theorem perform_get_name (setting : Setting) (settings : Settings) :
    (Operation.get setting.name).perform settings =
      ((settings.get setting).1.map some, (settings.get setting).2) := by
  rw [Operation.perform, getNamed_name]
  rfl

theorem perform_set_name (setting : Setting) (value : Value) (settings : Settings) :
    (Operation.set setting.name value).perform settings =
      (.ok none, settings.set setting value) := by
  rw [Operation.perform, setNamed_name]
  rfl

/-- An operation on an unknown name fails, and changes nothing. -/
theorem perform_of_unknown
    (unknown : Setting.ofName? (.text name) = none)
    (settings : Settings) :
    (Operation.get name).perform settings = (.error (.unknownSetting name), settings) ∧
      ∀ value, (Operation.set name value).perform settings =
        (.error (.unknownSetting name), settings) := by
  simp only [Operation.perform, getNamed_of_unknown unknown, setNamed_of_unknown unknown]
  exact ⟨rfl, fun _ => rfl⟩

/-- The name in an operation is that of a setting, or unknown. -/
theorem exists_name_or_unknown (name : Text) :
    (∃ setting : Setting, name = setting.name) ∨ Setting.ofName? (.text name) = none := by
  cases named : Setting.ofName? (.text name) with
  | none => exact .inr rfl
  | some setting => exact .inl ⟨setting, Setting.ofName?_eq_some_iff.mp named⟩

/-- A variable is set to the text that is read back, under the name that is read back. -/
theorem setVariable_eq_ok
    {content : Text}
    {after : Settings}
    (succeeded : settings.setVariable (.text name) (.text content) = .ok after) :
    ∃ key text, environmentText (.text name) = .ok key ∧
      environmentText (.text content) = .ok text ∧
        after = { settings with environment := settings.environment.set key text } := by
  unfold setVariable at succeeded
  split at succeeded
  · rename_i key text named read
    split at succeeded
    · cases succeeded
    · split at succeeded
      · cases succeeded
      · split at succeeded
        · cases succeeded
        · cases succeeded
          exact ⟨key, text, named, read, rfl⟩
  · cases succeeded
  · cases succeeded

/-- What becomes of the environment does not depend on what is known. -/
theorem setVariable_eq_map
    (name content : Value)
    (settings : Settings) :
    settings.setVariable name content =
      (setVariable name content { settings with known := [] }).map fun after =>
        { settings with environment := after.environment } := by
  unfold setVariable
  repeat' split
  all_goals rfl

/-- What is known of a setting after an operation: the value that it was given, or else what was
known before, or else the value that was found. -/
theorem get?_known_perform
    (operation : Operation)
    (settings : Settings) :
    Assoc.get? setting (operation.perform settings).2.known =
      if Event.isReset ⟨operation, (operation.perform settings).1⟩ then none
      else (Event.given? setting ⟨operation, (operation.perform settings).1⟩).or
        ((Assoc.get? setting settings.known).or
          (Event.found? setting ⟨operation, (operation.perform settings).1⟩)) := by
  cases operation with
  | get name =>
      rcases exists_name_or_unknown name with ⟨other, rfl⟩ | unknown
      · rw [perform_get_name]
        by_cases same : other = setting
        · subst same
          rw [get?_known_get_self]
          cases (settings.get other).1 <;>
            simp [Event.isReset, Event.given?, Event.found?, Except.map, Except.toOption]
        · rw [get?_known_get_of_ne (Ne.symm same)]
          cases (settings.get other).1 <;>
            simp [Event.isReset, Event.given?, Event.found?, Except.map, Setting.name_inj, same]
      · rw [(perform_of_unknown unknown settings).1]
        simp [Event.isReset, Event.given?, Event.found?]
  | set name value =>
      rcases exists_name_or_unknown name with ⟨other, rfl⟩ | unknown
      · rw [perform_set_name]
        by_cases same : other = setting
        · subst same
          simp [Event.isReset, Event.given?, get?_known_set_self]
        · simp [Event.isReset, Event.given?, Event.found?, Setting.name_inj, same,
            get?_known_set_of_ne (Ne.symm same)]
      · rw [(perform_of_unknown unknown settings).2]
        simp [Event.isReset, Event.given?, Event.found?]
  | reset => rfl
  | setVariable name content =>
      cases changed : settings.setVariable (.text name) (.text content) with
      | error error =>
          simp [Operation.perform, change, changed, Event.isReset, Event.given?, Event.found?]
      | ok after =>
          obtain ⟨key, text, -, -, rfl⟩ := setVariable_eq_ok changed
          simp [Operation.perform, change, changed, Event.isReset, Event.given?, Event.found?]
  | unsetVariable name =>
      cases named : environmentText (.text name) <;>
        simp [Operation.perform, change, unsetVariable, named, Except.map, Event.isReset,
          Event.given?, Event.found?]

/-- A lookup finds what is known. -/
theorem eq_of_found?
    {operation : Operation}
    {value known : Value}
    (found : Event.found? setting ⟨operation, (operation.perform settings).1⟩ = some value)
    (isKnown : Assoc.get? setting settings.known = some known) :
    value = known := by
  unfold Event.found? at found
  split at found
  · rename_i name result same
    obtain ⟨rfl, response⟩ := Event.mk.inj same
    split at found
    · rename_i named
      subst named
      rw [perform_get_name, get_of_known isKnown] at response
      cases response
      exact (Option.some.inj found).symm
    · cases found
  · cases found

/-- What an operation makes of a variable of the environment. -/
theorem get?_environment_perform
    {variableName : Text}
    (distinct : (Assoc.keys settings.environment).Nodup)
    (operation : Operation) :
    Assoc.get? variableName (operation.perform settings).2.environment =
      (Event.exported? variableName ⟨operation, (operation.perform settings).1⟩).getD
        (Assoc.get? variableName settings.environment) := by
  cases operation with
  | get name =>
      rcases exists_name_or_unknown name with ⟨other, rfl⟩ | unknown
      · rw [perform_get_name, environment_get]
        rfl
      · rw [(perform_of_unknown unknown settings).1]
        rfl
  | set name value =>
      rcases exists_name_or_unknown name with ⟨other, rfl⟩ | unknown
      · rw [perform_set_name]
        rfl
      · rw [(perform_of_unknown unknown settings).2]
        rfl
  | reset => rfl
  | setVariable name content =>
      cases changed : settings.setVariable (.text name) (.text content) with
      | error error => simp [Operation.perform, change, changed, Event.exported?]
      | ok after =>
          obtain ⟨key, text, named, read, rfl⟩ := setVariable_eq_ok changed
          by_cases same : key = variableName
          · subst same
            simp [Operation.perform, change, changed, Event.exported?, named, read,
              Except.toOption, Assoc.get?_set_self]
          · simp [Operation.perform, change, changed, Event.exported?, named, Except.toOption, same,
              Assoc.get?_set_of_ne (Ne.symm same)]
  | unsetVariable name =>
      cases named : environmentText (.text name) with
      | error error =>
          simp [Operation.perform, change, unsetVariable, named, Except.map, Event.exported?]
      | ok key =>
          by_cases same : key = variableName
          · subst same
            simp [Operation.perform, change, unsetVariable, named, Except.map, Event.exported?,
              Except.toOption, Assoc.get?_erase_self distinct]
          · simp [Operation.perform, change, unsetVariable, named, Except.map, Event.exported?,
              Except.toOption, same, Assoc.get?_erase_of_ne (Ne.symm same)]

/-- An environment gives a variable at most one text. -/
theorem nodup_keys_perform
    (distinct : (Assoc.keys settings.environment).Nodup)
    (operation : Operation) :
    (Assoc.keys (operation.perform settings).2.environment).Nodup := by
  cases operation with
  | get name =>
      rcases exists_name_or_unknown name with ⟨other, rfl⟩ | unknown
      · rw [perform_get_name, environment_get]
        exact distinct
      · rw [(perform_of_unknown unknown settings).1]
        exact distinct
  | set name value =>
      rcases exists_name_or_unknown name with ⟨other, rfl⟩ | unknown
      · rw [perform_set_name]
        exact distinct
      · rw [(perform_of_unknown unknown settings).2]
        exact distinct
  | reset => exact distinct
  | setVariable name content =>
      cases changed : settings.setVariable (.text name) (.text content) with
      | error error =>
          simp only [Operation.perform, change, changed]
          exact distinct
      | ok after =>
          obtain ⟨key, text, -, -, rfl⟩ := setVariable_eq_ok changed
          simp only [Operation.perform, change, changed]
          exact Assoc.nodup_keys_set distinct key text
  | unsetVariable name =>
      cases named : environmentText (.text name) with
      | error error =>
          simp only [Operation.perform, change, unsetVariable, named, Except.map]
          exact distinct
      | ok key =>
          simp only [Operation.perform, change, unsetVariable, named, Except.map]
          exact Assoc.nodup_keys_erase distinct key

/-! ## Histories -/

/-- Settings that nothing has been done to yet, in an environment with the given variables. -/
def fresh (entries : List (Text × Text)) : Settings where
  environment := Assoc.ofList entries

variable {entries : List (Text × Text)}

theorem nodup_keys_live (operations : List Operation) :
    (Assoc.keys (live operations (fresh entries)).environment).Nodup := by
  induction operations using List.reverseRecOn with
  | nil => exact Assoc.nodup_keys_ofList entries
  | append_singleton earlier operation inductionHypothesis =>
      rw [live_concat]
      exact nodup_keys_perform inductionHypothesis operation

@[simp] theorem sinceReset_cons (event : Event) (earlier : List Event) :
    sinceReset (event :: earlier) = if event.isReset then [] else event :: sinceReset earlier := by
  rw [sinceReset, List.takeWhile_cons]
  cases event.isReset <;> rfl

/-- What is known is what the history gives. -/
theorem get?_known_live
    (setting : Setting)
    (operations : List Operation) :
    Assoc.get? setting (live operations (fresh entries)).known =
      remembered? setting (history operations (fresh entries)) := by
  induction operations using List.reverseRecOn with
  | nil => rfl
  | append_singleton earlier operation inductionHypothesis =>
      have found : ∀ {value known : Value},
          Event.found? setting
              ⟨operation, (operation.perform (live earlier (fresh entries))).1⟩ = some value →
            Assoc.get? setting (live earlier (fresh entries)).known = some known →
              value = known :=
        eq_of_found?
      rw [live_concat, history_concat, get?_known_perform, remembered?, sinceReset_cons]
      rw [inductionHypothesis] at found ⊢
      generalize Event.mk operation _ = event at found ⊢
      cases event.isReset with
      | true => rfl
      | false =>
          simp only [Bool.false_eq_true, if_false, List.findSome?_cons, remembered?] at found ⊢
          cases given : Event.given? setting event with
          | some value => rfl
          | none =>
              cases givenBefore : (sinceReset (history earlier (fresh entries))).findSome?
                  (Event.given? setting) with
              | some value => rfl
              | none =>
                  cases foundNow : Event.found? setting event with
                  | none => simp
                  | some value =>
                      rw [givenBefore, Option.none_or] at found
                      -- A value that was found before is found again.
                      cases foundBefore : (sinceReset (history earlier
                          (fresh entries))).findSome? (Event.found? setting) with
                      | none => rfl
                      | some known => simp [found foundNow foundBefore]

/-- The environment is what the history has made of it. -/
theorem get?_environment_live
    (variableName : Text)
    (operations : List Operation) :
    Assoc.get? variableName (live operations (fresh entries)).environment =
      exported? variableName (Assoc.get? variableName (Assoc.ofList entries))
        (history operations (fresh entries)) := by
  induction operations using List.reverseRecOn with
  | nil => rfl
  | append_singleton earlier operation inductionHypothesis =>
      rw [live_concat, history_concat, get?_environment_perform (nodup_keys_live earlier),
        inductionHypothesis, exported?, exported?, List.findSome?_cons]
      generalize Event.exported? variableName _ = exported
      cases exported with
      | none => rfl
      | some content => rfl

/-! ## Other settings -/

/-- Two settings agree about one of them if a lookup cannot tell them apart, now or later. -/
structure AgreeOn
    (setting : Setting)
    (first second : Settings) : Prop where
  environment_eq : first.environment = second.environment
  known_eq : Assoc.get? setting first.known = Assoc.get? setting second.known

theorem AgreeOn.get_eq
    {first second : Settings}
    (agree : AgreeOn setting first second) :
    (first.get setting).1 = (second.get setting).1 := by
  rw [get_fst, get_fst, agree.environment_eq, agree.known_eq]

theorem AgreeOn.trans
    {first second third : Settings}
    (agree : AgreeOn setting first second)
    (agreeAgain : AgreeOn setting second third) :
    AgreeOn setting first third :=
  ⟨agree.environment_eq.trans agreeAgain.environment_eq, agree.known_eq.trans agreeAgain.known_eq⟩

/-- An operation on another name can be left out. -/
theorem agreeOn_perform
    {operation : Operation}
    (unconcerned : operation.concerns setting = false)
    (settings : Settings) :
    AgreeOn setting (operation.perform settings).2 settings := by
  cases operation with
  | get name =>
      have different : name ≠ setting.name := beq_eq_false_iff_ne.mp unconcerned
      rcases exists_name_or_unknown name with ⟨other, rfl⟩ | unknown
      · rw [perform_get_name]
        rw [Ne, Setting.name_inj] at different
        exact ⟨environment_get other settings, get?_known_get_of_ne (Ne.symm different) settings⟩
      · rw [(perform_of_unknown unknown settings).1]
        exact ⟨rfl, rfl⟩
  | set name value =>
      have different : name ≠ setting.name := beq_eq_false_iff_ne.mp unconcerned
      rcases exists_name_or_unknown name with ⟨other, rfl⟩ | unknown
      · rw [perform_set_name]
        rw [Ne, Setting.name_inj] at different
        exact ⟨rfl, get?_known_set_of_ne (Ne.symm different) value settings⟩
      · rw [(perform_of_unknown unknown settings).2]
        exact ⟨rfl, rfl⟩
  | reset | setVariable | unsetVariable => cases unconcerned

/-- What concerns a setting keeps settings in agreement about it. -/
theorem AgreeOn.perform
    {first second : Settings}
    {operation : Operation}
    (agree : AgreeOn setting first second)
    (concerned : operation.concerns setting = true) :
    AgreeOn setting (operation.perform first).2 (operation.perform second).2 := by
  cases operation with
  | get name =>
      obtain rfl : name = setting.name := eq_of_beq concerned
      rw [perform_get_name, perform_get_name]
      refine ⟨?_, ?_⟩
      · rw [environment_get, environment_get, agree.environment_eq]
      · rw [get?_known_get_self, get?_known_get_self, agree.known_eq, agree.get_eq]
  | set name value =>
      obtain rfl : name = setting.name := eq_of_beq concerned
      rw [perform_set_name, perform_set_name]
      refine ⟨agree.environment_eq, ?_⟩
      rw [get?_known_set_self, get?_known_set_self]
  | reset => exact ⟨agree.environment_eq, rfl⟩
  | setVariable name content =>
      obtain ⟨environment, known⟩ := first
      obtain ⟨environment, otherKnown⟩ := second
      obtain ⟨rfl, known_eq⟩ := agree
      simp only [Operation.perform, setVariable_eq_map _ _ ⟨environment, known⟩,
        setVariable_eq_map _ _ ⟨environment, otherKnown⟩]
      cases setVariable (.text name) (.text content) ⟨environment, []⟩ with
      | error error => exact ⟨rfl, known_eq⟩
      | ok after => exact ⟨rfl, known_eq⟩
  | unsetVariable name =>
      simp only [Operation.perform, unsetVariable]
      cases environmentText (.text name) with
      | error error => exact agree
      | ok key => exact ⟨congrArg (Assoc.erase key) agree.environment_eq, agree.known_eq⟩

/-- The lookups and changes of other names can be left out all along. -/
theorem agreeOn_live_filter
    (setting : Setting)
    (operations : List Operation)
    (settings : Settings) :
    AgreeOn setting (live operations settings)
      (live (operations.filter (Operation.concerns setting)) settings) := by
  induction operations using List.reverseRecOn with
  | nil => exact ⟨rfl, rfl⟩
  | append_singleton earlier operation inductionHypothesis =>
      rw [live_concat, List.filter_append, List.filter_singleton]
      cases concerned : operation.concerns setting with
      | true =>
          rw [cond_true, live_concat]
          exact inductionHypothesis.perform concerned
      | false =>
          rw [cond_false, List.append_nil]
          exact (agreeOn_perform concerned _).trans inductionHypothesis

/-! ## Values -/

/-- What is looked up after any operations, in an environment that had the given variables. -/
structure FollowsHistory (entries : List (Text × Text)) : Prop where
  /-- A setting has the value that the history gives it, and else the one that its variable now
  says. -/
  value : ∀ (operations : List Operation) (setting : Setting),
    ((live operations (fresh entries)).getNamed (.text setting.name)).1 =
      (remembered? setting (history operations (fresh entries))).elim
        (consulted setting
          (exported? setting.variableName
            (Assoc.get? setting.variableName (Assoc.ofList entries))
            (history operations (fresh entries))))
        .ok
  /-- A variable whose text does not convert is an error about a value, and nothing is kept. -/
  failure : ∀ (operations : List Operation) (setting : Setting) (error : Error),
    ((live operations (fresh entries)).getNamed (.text setting.name)).1 = .error error →
      error.kind = .value ∧
        ((live operations (fresh entries)).getNamed (.text setting.name)).2 =
          live operations (fresh entries)
  /-- What is done to other settings does not matter. -/
  independent : ∀ (operations : List Operation) (setting : Setting),
    ((live operations (fresh entries)).getNamed (.text setting.name)).1 =
      ((live (operations.filter (Operation.concerns setting)) (fresh entries)).getNamed
        (.text setting.name)).1
  /-- The name of no setting is an error about a key, and nothing changes. -/
  unknown : ∀ (operations : List Operation) (name : Text) (value : Value),
    (∀ setting : Setting, name ≠ setting.name) →
      (live operations (fresh entries)).getNamed (.text name) =
          (.error (.unknownSetting name), live operations (fresh entries)) ∧
        (live operations (fresh entries)).setNamed (.text name) value =
          .error (.unknownSetting name) ∧
        (Error.unknownSetting name).kind = .key

/-- Lookups follow the history. -/
theorem followsHistory (entries : List (Text × Text)) : FollowsHistory entries where
  value operations setting := by
    rw [getNamed_name, get_fst, get?_known_live, get?_environment_live]
  failure operations setting error failed := by
    rw [getNamed_name] at failed ⊢
    refine ⟨?_, get_snd_of_error failed⟩
    rw [get_fst] at failed
    cases known : Assoc.get? setting (live operations (fresh entries)).known with
    | some value => simp [known] at failed
    | none =>
        rw [known] at failed
        exact kind_of_consulted failed
  independent operations setting := by
    rw [getNamed_name, getNamed_name]
    exact (agreeOn_live_filter setting operations (fresh entries)).get_eq
  unknown operations name value different := by
    have unknown := Setting.ofName?_eq_none_iff.mpr different
    exact ⟨getNamed_of_unknown unknown _, setNamed_of_unknown unknown value _, rfl⟩

/-- A lookup keeps the built-in value, too, whatever the environment says afterwards. -/
example :
    ((live
      [.get Setting.port.name, .setVariable Setting.port.variableName (literal "1")]
      (fresh [])).getNamed (.text Setting.port.name)).1 = .ok (.int 8728) := by
  rfl

end Settings
end RouterApi
